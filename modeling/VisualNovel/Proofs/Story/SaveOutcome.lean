import VisualNovel.Proofs.Path
import VisualNovel.Proofs.Story.SaveFile

/-!
What can come of a save.

Each step of a save can be refused: the directory, the text beside the file, the move over the file.
A refused step leaves every file of the tree with its text (`FileTree.SameBeyond`), and what has been
written beside is removed. So a save is done or refused, and nothing in between (`save_settled`),
with one exception: a directory that stands where the text is to be written beside the file is
refused like anything else, and then the attempt to remove it fails as well. That is the only error
that leaves a save (`save_error_iff`), and for a path that does not end in a separator it is there
exactly if the directory was there before (`obstructed_eq`).
-/

namespace VisualNovel

namespace FileTree

variable {files later last : FileTree} {path text : Text}

/-! ## 1. Trees that agree beyond some places -/

/-- Beyond some places nothing of a tree is lost in the later one, and no file comes to it.
Directories may come. -/
structure SameBeyond (places : List Text) (files later : FileTree) : Prop where
  kept : ∀ path ∉ places, ∀ node, files.nodeAt path = some node → later.nodeAt path = some node
  old : ∀ path ∉ places, ∀ text, later.nodeAt path = some (.file text) →
    files.nodeAt path = some (.file text)

namespace SameBeyond

variable {places more : List Text}

theorem refl (places : List Text) (files : FileTree) : SameBeyond places files files :=
  ⟨fun _ _ _ => id, fun _ _ _ => id⟩

theorem trans (h : SameBeyond places files later) (h' : SameBeyond places later last) :
    SameBeyond places files last where
  kept path other node found := h'.kept path other node (h.kept path other node found)
  old path other text found := h.old path other text (h'.old path other text found)

theorem mono (h : SameBeyond places files later) (sub : ∀ path ∈ places, path ∈ more) :
    SameBeyond more files later where
  kept path other := h.kept path fun mem => other (sub path mem)
  old path other := h.old path fun mem => other (sub path mem)

/-- Beyond the places every path has its text, or none. -/
theorem text?_eq (h : SameBeyond places files later) (other : path ∉ places) :
    later.text? path = files.text? path := by
  cases after : later.text? path with
  | some text =>
    unfold text? at after
    split at after
    · next found =>
      cases after
      rw [text?, h.old path other _ found]
    · cases after
  | none =>
    unfold text?
    split
    · next found =>
      rw [text?, h.kept path other _ found] at after
      cases after
    · rfl

end SameBeyond

theorem nodeAt_erase (files : FileTree) (name path : Text) :
    nodeAt ⟨files.nodes.erase name⟩ path =
      if path = Path.root then some .directory
      else if path = name then none else files.nodeAt path := by
  unfold nodeAt
  split
  · rfl
  · rw [Table.get?_erase]

theorem sameBeyond_set (files : FileTree) (name : Text) (node : FileNode) :
    SameBeyond [name] files ⟨files.nodes.set name node⟩ := by
  have same : ∀ path, path ≠ name →
      nodeAt ⟨files.nodes.set name node⟩ path = files.nodeAt path := by
    intro path other
    rw [nodeAt_set, if_neg other, nodeAt]
    split <;> rfl
  constructor
  · intro path other node found
    rw [same path (by simpa using other), found]
  · intro path other text found
    rw [← same path (by simpa using other), found]

theorem sameBeyond_erase (files : FileTree) (name : Text) :
    SameBeyond [name] files ⟨files.nodes.erase name⟩ := by
  have same : ∀ path, path ≠ name →
      nodeAt ⟨files.nodes.erase name⟩ path = files.nodeAt path := by
    intro path other
    rw [nodeAt_erase, if_neg other, nodeAt]
    split <;> rfl
  constructor
  · intro path other node found
    rw [same path (by simpa using other), found]
  · intro path other text found
    rw [← same path (by simpa using other), found]

/-- A directory that comes where nothing was takes no file away. -/
theorem sameBeyond_fresh {name : Text} (free : files.nodeAt name = none) :
    SameBeyond [] files ⟨files.nodes.set name .directory⟩ := by
  have notRoot : name ≠ Path.root := by
    rintro rfl
    simp [nodeAt] at free
  constructor
  · intro path _ node found
    have other : path ≠ name := by
      rintro rfl
      rw [free] at found
      cases found
    exact (sameBeyond_set files name .directory).kept path (by simpa using other) node found
  · intro path _ text found
    have other : path ≠ name := by
      rintro rfl
      rw [nodeAt_set, if_neg notRoot, if_pos rfl] at found
      cases found
    exact (sameBeyond_set files name .directory).old path (by simpa using other) text found

theorem sameBeyond_makeEach {asked : Text} {paths : List Text}
    (h : makeEach asked paths files = .ok later) : SameBeyond [] files later := by
  induction paths generalizing files with
  | nil =>
    cases h
    exact .refl [] _
  | cons path rest ih =>
    unfold makeEach at h
    split at h
    · exact ih h
    · cases h
    · next free => exact (sameBeyond_fresh free).trans (ih h)

theorem sameBeyond_makeDirectory (h : files.makeDirectory path = .ok later) :
    SameBeyond [] files later := by
  unfold makeDirectory at h
  simp only at h
  split at h
  · cases h
  · exact sameBeyond_makeEach h

theorem sameBeyond_write (h : files.write path text = .ok later) :
    SameBeyond [Path.absolute path] files later := by
  rw [write_eq_ok h]
  exact sameBeyond_set files _ _

theorem unlink_eq_ok (h : files.unlink path = .ok later) :
    SameBeyond [Path.absolute path] files later ∧ later.pathExists path = false := by
  unfold unlink at h
  split at h
  · next text found =>
    cases h
    refine ⟨sameBeyond_erase files _, ?_⟩
    unfold node? at found
    rw [pathExists, node?]
    split at found
    · cases found
    · next named =>
      rw [if_neg named, nodeAt_erase]
      have below : Path.absolute path ≠ Path.root := by
        intro top
        simp [nodeAt, top] at found
      rw [if_neg below, if_pos rfl]
      rfl
  · cases h
  · cases h

/-- What stands at a path and is no directory can be removed. -/
theorem exists_unlink (stands : files.pathExists path = true)
    (single : files.isDirectory path = false) : ∃ later, files.unlink path = .ok later := by
  unfold unlink
  split
  · exact ⟨_, rfl⟩
  · next found =>
    rw [isDirectory, found] at single
    cases single
  · next found =>
    rw [pathExists, found] at stands
    cases stands

/-! ## 2. Steps of a save that are done -/

theorem ne_nil_of_write (h : files.write path text = .ok later) : path ≠ [] := by
  rintro rfl
  cases h

/-- No file is written over a directory. -/
theorem isDirectory_of_write (h : files.write path text = .ok later) :
    files.isDirectory path = false := by
  have named := ne_nil_of_write h
  unfold write at h
  simp only [List.isEmpty_iff, if_neg named] at h
  rw [isDirectory, node?, if_neg (by simp [named])]
  split at h
  · cases h
  · next found => rw [found]; rfl
  · next found => rw [found]; rfl

theorem node?_of_write (h : files.write path text = .ok later) :
    later.node? path = some (.file text) := by
  have named := ne_nil_of_write h
  have clear : Path.absolute path ≠ Path.root := by
    intro top
    have none := isDirectory_of_write h
    rw [isDirectory, node?, if_neg (by simp [named]), top] at none
    exact absurd none (by simp [nodeAt])
  rw [write_eq_ok h, node?, if_neg (by simp [named]), nodeAt_set, if_neg clear, if_pos rfl]

theorem clear_beside : Path.separator ∉ Text.ofString ".tmp" := by
  decide

/-- The text is first written at another place than that of its file. -/
theorem absolute_beside_ne (path : Text) :
    Path.absolute (besidePath path) ≠ Path.absolute path :=
  Path.absolute_ending_ne path clear_beside (by decide)

theorem besidePath_ne_nil (path : Text) : besidePath path ≠ [] := by
  simp [besidePath, Text.ofString, Text.unitsOf]

theorem rename_beside {moved : FileTree}
    (held : files.node? (besidePath path) = some (.file text))
    (h : files.rename (besidePath path) path = .ok moved) :
    ∃ written, files.write path text = .ok written ∧
      moved = ⟨written.nodes.erase (Path.absolute (besidePath path))⟩ := by
  unfold rename at h
  simp only [read, held] at h
  split at h
  · cases h
  · split at h
    · cases h
    · next written hwrite =>
      rw [if_neg (absolute_beside_ne path)] at h
      exact ⟨written, hwrite, (Except.ok.inj h).symm⟩

/-- A text that is written beside a file and moved over it stands in the file, and nothing is left
beside it. -/
theorem replace_ok {after : FileTree} (h : files.replace path text = (.ok (), after)) :
    after.read path = .ok text ∧ after.pathExists (besidePath path) = false ∧
      SameBeyond [Path.absolute path, Path.absolute (besidePath path)] files after := by
  unfold replace at h
  simp only at h
  split at h
  · cases h
  · next written hwrite =>
    split at h
    · cases h
    · next moved hmove =>
      cases h
      obtain ⟨target, htarget, rfl⟩ := rename_beside (node?_of_write hwrite) hmove
      have named := ne_nil_of_write htarget
      have found := node?_of_write htarget
      rw [node?, if_neg (by simp [named])] at found
      refine ⟨?_, ?_, ?_⟩
      · have kept := (sameBeyond_erase target (Path.absolute (besidePath path))).kept
          (Path.absolute path) (by simpa using (absolute_beside_ne path).symm) _ found
        rw [read, node?, if_neg (by simp [named]), kept]
      · have clear : Path.absolute (besidePath path) ≠ Path.root := by
          intro top
          have none := isDirectory_of_write hwrite
          rw [isDirectory, node?, if_neg (by simp [besidePath_ne_nil]), top] at none
          exact absurd none (by simp [nodeAt])
        rw [pathExists, node?, if_neg (by simp [besidePath_ne_nil]), nodeAt_erase, if_neg clear,
          if_pos rfl]
        rfl
      · exact ((sameBeyond_write hwrite).mono (by simp)).trans <|
          ((sameBeyond_write htarget).mono (by simp)).trans <|
          (sameBeyond_erase target _).mono (by simp)

/-! ## 3. Steps of a save that are refused -/

/-- Whether a directory stands where the text of a save is to be written first; it may be one that
is made on the way to the file. -/
def obstructed (files : FileTree) (path : Text) : Bool :=
  ((files.makeDirectory (Path.directory path)).toOption.getD files).isDirectory (besidePath path)

/-- A refused replacement changes no file but the one beside, whichever directory was asked for. -/
theorem sameBeyond_of_replaceIn_error {after : FileTree} {directory : Text} {e : FileError}
    (h : files.replaceIn directory path text = (.error e, after)) :
    SameBeyond [Path.absolute (besidePath path)] files after := by
  unfold replaceIn at h
  split at h
  · cases h
    exact .refl _ _
  · next made hmake =>
    have around : SameBeyond [Path.absolute (besidePath path)] files made :=
      (sameBeyond_makeDirectory hmake).mono (by simp)
    unfold replace at h
    simp only at h
    split at h
    · cases h
      exact around
    · next written hwrite =>
      split at h
      · cases h
        exact around.trans (sameBeyond_write hwrite)
      · cases h

/-- After a refused replacement a directory stands beside exactly if the way was obstructed. -/
theorem isDirectory_of_replaceIn_error {after : FileTree} {e : FileError}
    (h : files.replaceIn (Path.directory path) path text = (.error e, after)) :
    after.isDirectory (besidePath path) = files.obstructed path := by
  unfold replaceIn at h
  split at h
  · next refused =>
    cases h
    rw [obstructed, refused]
    rfl
  · next made hmake =>
    rw [obstructed, hmake]
    unfold replace at h
    simp only at h
    split at h
    · cases h
      rfl
    · next written hwrite =>
      split at h
      · cases h
        rw [isDirectory, node?_of_write hwrite]
        exact (isDirectory_of_write hwrite).symm
      · cases h

/-- A replacement that is done was not obstructed. -/
theorem replaceIn_ok {after : FileTree}
    (h : files.replaceIn (Path.directory path) path text = (.ok (), after)) :
    files.obstructed path = false ∧ after.read path = .ok text ∧
      after.pathExists (besidePath path) = false ∧
      SameBeyond [Path.absolute path, Path.absolute (besidePath path)] files after := by
  unfold replaceIn at h
  split at h
  · cases h
  · next made hmake =>
    obtain ⟨found, gone, same⟩ := replace_ok h
    refine ⟨?_, found, gone, ((sameBeyond_makeDirectory hmake).mono (by simp)).trans same⟩
    unfold replace at h
    simp only at h
    rw [obstructed, hmake]
    split at h
    · cases h
    · next hwrite => exact isDirectory_of_write hwrite

/-- Only the directories on the way are made. -/
theorem nodeAt_of_makeEach {asked place : Text} {paths : List Text}
    (h : makeEach asked paths files = .ok later) (off : place ∉ paths) :
    later.nodeAt place = files.nodeAt place := by
  induction paths generalizing files with
  | nil =>
    cases h
    rfl
  | cons path rest ih =>
    rw [List.mem_cons, not_or] at off
    unfold makeEach at h
    split at h
    · exact ih h off.2
    · cases h
    · rw [ih h off.2, nodeAt_set, if_neg off.1, nodeAt]
      split <;> rfl

/-- The place beside a file is below the directory of the file, and not on the way to it. -/
theorem beside_not_mem_waypoints {path : Text} (closed : path.getLast? ≠ some Path.separator) :
    Path.absolute (besidePath path) ∉
      waypoints (Path.names (Path.absolute (Path.directory path))) := by
  intro mem
  obtain ⟨above, last, ends⟩ := Path.exists_endsIn path
  have plain := Path.isPlain_append ends.clear clear_beside (by decide)
  have deep := (ends.append clear_beside).absoluteNames_eq plain
  obtain ⟨k, -, same⟩ := List.mem_map.mp mem
  rw [Path.absolute, Path.names_ofNames fun name mem => (Path.isPlain_absoluteNames _ name mem).1,
    ends.absoluteNames_directory closed] at same
  have names := congrArg Path.absoluteNames same
  rw [Path.absoluteNames_ofNames fun name mem =>
      Path.isPlain_absoluteNames _ name (List.mem_of_mem_take mem),
    Path.absolute, Path.absoluteNames_ofNames (Path.isPlain_absoluteNames _), besidePath,
    deep] at names
  have size := congrArg List.length names
  rw [List.length_take, List.length_append, List.length_singleton] at size
  omega

/-- A path that does not end in a separator is obstructed by nothing but a directory that is
already there. -/
theorem obstructed_eq {path : Text} (closed : path.getLast? ≠ some Path.separator) :
    files.obstructed path = files.isDirectory (besidePath path) := by
  unfold obstructed
  cases made : files.makeDirectory (Path.directory path) with
  | error e => rfl
  | ok around =>
    unfold makeDirectory at made
    simp only at made
    split at made
    · cases made
    · have same := nodeAt_of_makeEach made (beside_not_mem_waypoints closed)
      simp only [Except.toOption, Option.getD_some, isDirectory, node?, same]

end FileTree

/-! ## 4. Outcomes -/

namespace Snapshot

/-- The warning about a save that was refused. -/
def refusal (path : Text) (e : FileError) : LogRecord :=
  logRecord .warn <| Text.ofString "could not write save " ++ path ++ Text.ofString ": " ++ e.code

/-- The save is in its file, which holds exactly its text. -/
structure Done (files : FileTree) (path text : Text) (outcome : Written) : Prop where
  result : outcome.result = .ok true
  target : outcome.files.read path = .ok text
  beside : outcome.files.pathExists (besidePath path) = false
  others : files.SameBeyond [Path.absolute path, Path.absolute (besidePath path)] outcome.files
  logs : outcome.logs = []

/-- The save is not in its file, and every file holds what it held. -/
structure Refused (files : FileTree) (path : Text) (outcome : Written) : Prop where
  result : outcome.result = .ok false
  target : outcome.files.text? (Path.absolute path) = files.text? (Path.absolute path)
  beside : outcome.files.pathExists (besidePath path) = false
  others : files.SameBeyond [Path.absolute (besidePath path)] outcome.files
  logs : ∃ e, outcome.logs = [refusal path e]

/-- A save whose way is not obstructed ends in one of two ways: it is done, or it is refused and has
changed no file. -/
theorem save_settled (data : Snapshot Float) (files : FileTree) (path : Text)
    (free : files.obstructed path = false) :
    Done files path data.fileText (data.save files path) ∨
      Refused files path (data.save files path) := by
  unfold Snapshot.save
  split
  · next after replaced =>
    obtain ⟨-, target, beside, others⟩ := FileTree.replaceIn_ok replaced
    exact .inl ⟨rfl, target, beside, others, rfl⟩
  · next e after replaced =>
    have others := FileTree.sameBeyond_of_replaceIn_error replaced
    have directory := FileTree.isDirectory_of_replaceIn_error replaced
    rw [free] at directory
    right
    have target {after} (h : files.SameBeyond [Path.absolute (besidePath path)] after) :
        after.text? (Path.absolute path) = files.text? (Path.absolute path) :=
      h.text?_eq (by simpa using (FileTree.absolute_beside_ne path).symm)
    simp only
    split
    · next stands =>
      split
      · next cleaned hclean =>
        obtain ⟨same, gone⟩ := FileTree.unlink_eq_ok hclean
        have all := others.trans same
        exact ⟨rfl, target all, gone, all, e, rfl⟩
      · next hclean =>
        -- Something stands beside the file, and it is no directory: it can be removed.
        obtain ⟨cleaned, done⟩ := FileTree.exists_unlink stands directory
        rw [done] at hclean
        cases hclean
    · next missing => exact ⟨rfl, target others, by simpa using missing, others, e, rfl⟩

/-- The snapshot of a story that has not begun. -/
def opening : Snapshot Float := .ofState {} "main.vn" 0.0

/-- A directory where the quick save should be. -/
def occupiedFiles : FileTree :=
  ⟨⟨[("/saves", .directory), ("/saves/quick.json", .directory)]⟩⟩

/-- Without any files a save is done; over a directory it is refused. -/
theorem save_settled_quick :
    FileTree.obstructed {} "/saves/quick.json" = false ∧
      occupiedFiles.obstructed "/saves/quick.json" = false ∧
      Done {} "/saves/quick.json" opening.fileText (opening.save {} "/saves/quick.json") ∧
      Refused occupiedFiles "/saves/quick.json"
        (opening.save occupiedFiles "/saves/quick.json") := by
  have free : FileTree.obstructed {} "/saves/quick.json" = false := by decide
  have freeToo : occupiedFiles.obstructed "/saves/quick.json" = false := by decide
  have written : (opening.save {} "/saves/quick.json").result = .ok true := by decide
  have passed : (opening.save occupiedFiles "/saves/quick.json").result = .ok false := by
    decide
  refine ⟨free, freeToo, ?_, ?_⟩
  · rcases save_settled opening {} "/saves/quick.json" free with done | refused
    · exact done
    · rw [refused.result] at written
      cases written
  · rcases save_settled opening occupiedFiles "/saves/quick.json" freeToo with done | refused
    · rw [done.result] at passed
      cases passed
    · exact refused

/-- An error leaves a save exactly if its way is obstructed. -/
theorem save_error_iff (data : Snapshot Float) (files : FileTree) (path : Text) :
    (∃ e, (data.save files path).result = .error e) ↔ files.obstructed path = true := by
  constructor
  · rintro ⟨e, escaped⟩
    by_contra free
    rcases save_settled data files path (by simpa using free) with done | refused
    · rw [done.result] at escaped
      cases escaped
    · rw [refused.result] at escaped
      cases escaped
  · intro blocked
    unfold Snapshot.save
    split
    · next after replaced =>
      obtain ⟨free, -⟩ := FileTree.replaceIn_ok replaced
      rw [blocked] at free
      cases free
    · next e after replaced =>
      have directory := FileTree.isDirectory_of_replaceIn_error replaced
      rw [blocked, FileTree.isDirectory, beq_iff_eq] at directory
      have stands : after.pathExists (besidePath path) = true := by
        rw [FileTree.pathExists, directory]
        rfl
      simp only [stands, if_true, FileTree.unlink, directory]
      exact ⟨_, rfl⟩

/-- A directory beside the quick save. -/
def besetFiles : FileTree :=
  ⟨⟨[("/saves", .directory), ("/saves/quick.json.tmp", .directory)]⟩⟩

/-- The removal of what stands beside the file fails on a directory, and that error leaves the
save. -/
theorem save_escapes :
    (opening.save besetFiles "/saves/quick.json").result = .error .isDirectory ∧
      (opening.save besetFiles "/saves/quick.json").files = besetFiles := by
  decide

end Snapshot
end VisualNovel
