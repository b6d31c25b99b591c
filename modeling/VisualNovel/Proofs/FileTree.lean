import VisualNovel.Proofs.Table
import VisualNovel.Story.Snapshot.Store

/-!
What a save does to a tree of files.

Writing a text beside a file and moving it over the file touches two paths, and makes directories
on the way. Whatever happens, a file of the tree afterwards is one that was there before, or it
holds the text that was written (`FileTree.Adds`).
-/

namespace VisualNovel

namespace FileTree

/-- Every file of the later tree is in the earlier one, or holds the text. -/
def Adds (text : Text) (files later : FileTree) : Prop :=
  ∀ path t, later.nodeAt path = some (.file t) → files.nodeAt path = some (.file t) ∨ t = text

namespace Adds

variable {text : Text} {files later last : FileTree}

theorem refl (text : Text) (files : FileTree) : Adds text files files := fun _ _ h => .inl h

theorem trans (h : Adds text files later) (h' : Adds text later last) : Adds text files last := by
  intro path t found
  rcases h' path t found with old | new
  · exact h path t old
  · exact .inr new

end Adds

variable {text : Text} {files later : FileTree} {path : Text}

theorem nodeAt_set (files : FileTree) (name : Text) (node : FileNode) (path : Text) :
    nodeAt ⟨files.nodes.set name node⟩ path =
      if path = Path.root then some .directory
      else if path = name then some node else files.nodeAt path := by
  unfold nodeAt
  split
  · rfl
  · rw [Table.get?_set]

theorem adds_set (files : FileTree) (name : Text) :
    Adds text files ⟨files.nodes.set name (.file text)⟩ := by
  intro path t found
  rw [nodeAt_set] at found
  split at found
  · cases found
  · split at found
    · cases found
      exact .inr rfl
    · exact .inl found

theorem adds_setDirectory (files : FileTree) (name : Text) :
    Adds text files ⟨files.nodes.set name .directory⟩ := by
  intro path t found
  rw [nodeAt_set] at found
  split at found
  · cases found
  · split at found
    · cases found
    · exact .inl found

theorem adds_erase (files : FileTree) (name : Text) : Adds text files ⟨files.nodes.erase name⟩ := by
  intro path t found
  unfold nodeAt at found ⊢
  split at found
  · cases found
  · next other =>
    rw [Table.get?_erase] at found
    split at found
    · cases found
    · exact .inl (by rw [if_neg other]; exact found)

theorem adds_makeEach {last : Text} {paths : List Text}
    (h : makeEach last paths files = .ok later) : Adds text files later := by
  induction paths generalizing files with
  | nil =>
    cases h
    exact Adds.refl text _
  | cons path rest ih =>
    unfold makeEach at h
    split at h
    · exact ih h
    · cases h
    · exact (adds_setDirectory files path).trans (ih h)

theorem adds_makeDirectory (h : files.makeDirectory path = .ok later) : Adds text files later := by
  unfold makeDirectory at h
  simp only at h
  split at h
  · cases h
  · exact adds_makeEach h

theorem write_eq_ok (h : files.write path text = .ok later) :
    later = ⟨files.nodes.set (Path.absolute path) (.file text)⟩ := by
  unfold write at h
  simp only at h
  split at h
  · cases h
  · split at h
    · cases h
    · exact (Except.ok.inj h).symm
    · split at h
      · exact (Except.ok.inj h).symm
      · cases h
      · cases h

theorem adds_write (h : files.write path text = .ok later) : Adds text files later := by
  rw [write_eq_ok h]
  exact adds_set files _

theorem adds_unlink (h : files.unlink path = .ok later) : Adds text files later := by
  unfold unlink at h
  split at h
  · cases h
    exact adds_erase files _
  · cases h
  · cases h

/-- What is moved is a file that the tree holds. -/
theorem adds_rename {source target : Text} (h : files.rename source target = .ok later)
    (held : ∀ t, files.read source = .ok t → t = text) : Adds text files later := by
  unfold rename at h
  split at h
  · cases h
  · next t found =>
    obtain rfl := held t found
    split at h
    · cases h
    · split at h
      · cases h
      · next moved written =>
        split at h
        · cases h
          exact adds_write written
        · cases h
          exact (adds_write written).trans (adds_erase moved _)

theorem read_write (h : files.write path text = .ok later) {t : Text}
    (found : later.read path = .ok t) : t = text := by
  rw [write_eq_ok h, read, node?] at found
  split at found
  · next node =>
    split at node
    · cases node
    · rw [nodeAt_set] at node
      cases found
      split at node
      · cases node
      · rw [if_pos rfl] at node
        cases node
        rfl
  · cases found
  · cases found

/-- A text that is read stands in a file. -/
theorem nodeAt_of_read (h : files.read path = .ok text) :
    files.nodeAt (Path.absolute path) = some (.file text) := by
  unfold read node? at h
  split at h
  · next found =>
    cases h
    split at found
    · cases found
    · exact found
  · cases h
  · cases h

theorem adds_replace (files : FileTree) (path text : Text) :
    Adds text files (files.replace path text).2 := by
  unfold replace
  simp only
  split
  · exact Adds.refl text files
  · next written hwrite =>
    split
    · exact adds_write hwrite
    · next moved hmove =>
      exact (adds_write hwrite).trans (adds_rename hmove fun _ => read_write hwrite)

theorem adds_replaceIn (files : FileTree) (directory path text : Text) :
    Adds text files (files.replaceIn directory path text).2 := by
  unfold replaceIn
  split
  · exact Adds.refl text files
  · next made hmake => exact (adds_makeDirectory hmake).trans (adds_replace made path text)

/-- Different files have different entries. -/
theorem length_le_fileCount {paths : List Text} (distinct : paths.Nodup)
    (there : ∀ p ∈ paths, files.isFile p ∧ Path.absolute p = p) :
    paths.length ≤ files.fileCount := by
  obtain ⟨isEntry, count, entry⟩ : ∃ isEntry : Text × FileNode → Bool,
      files.fileCount = (files.nodes.entries.filter isEntry).length ∧
        ∀ p text, isEntry (p, .file text) = true :=
    ⟨_, List.countP_eq_length_filter, fun _ _ => rfl⟩
  have known : paths ⊆ (files.nodes.entries.filter isEntry).map (·.1) := by
    intro p mem
    obtain ⟨isFile, absolute⟩ := there p mem
    unfold FileTree.isFile node? nodeAt at isFile
    rw [absolute] at isFile
    split at isFile
    · next text found =>
      split at found
      · cases found
      · split at found
        · cases found
        · exact List.mem_map.mpr ⟨(p, .file text),
            List.mem_filter.mpr ⟨Table.mem_of_lookup found, entry p text⟩, rfl⟩
    · cases isFile
  have fewer := (distinct.subperm known).length_le
  rwa [List.length_map, ← count] at fewer

end FileTree

/-- A save leaves files that were there, or that hold the text of the snapshot. -/
theorem Snapshot.adds_save (data : Snapshot Float) (files : FileTree) (path : Text) :
    files.Adds data.fileText (data.save files path).files := by
  have written := FileTree.adds_replaceIn files (Path.directory path) path data.fileText
  unfold Snapshot.save
  split
  · next after result =>
    rw [result] at written
    exact written
  · next after result =>
    rw [result] at written
    simp only
    split
    · split
      · next cleaned hclean => exact written.trans (FileTree.adds_unlink hclean)
      · exact written
    · exact written

end VisualNovel
