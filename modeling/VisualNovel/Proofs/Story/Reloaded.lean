import VisualNovel.Proofs.Number.Clamp
import VisualNovel.Proofs.Story.SaveFile

/-!
Values that come back from a save file.

`Snapshot.Reread` tells which names a save file gives back. Here it is about the values under these names:
a table that is read back matches the one that was written, entry by entry (`matches_reread`), so that
numbers come back up to the sign of a zero.

`FileTree.AllSaves` says that every save file of a tree is of a kind, whoever wrote it. A story keeps
that as long as the snapshots it writes are read back as such (`FileTree.AllSaves.save`).
-/

namespace VisualNovel

/-! ## 1. Tables -/

/-- A table whose entries are those of another one, in any order, with related values. -/
structure Table.Matches {α β : Type} (R : Text → α → β → Prop) (t : Table α) (t' : Table β) :
    Prop where
  distinct : t'.keys.Nodup
  back : ∀ name b, (name, b) ∈ t'.entries → ∃ a, (name, a) ∈ t.entries ∧ R name a b
  forth : ∀ name a, (name, a) ∈ t.entries → ∃ b, (name, b) ∈ t'.entries ∧ R name a b

/-- Tables that match have related values under each name, or none. -/
theorem Table.Matches.get? {α β : Type} {R : Text → α → β → Prop} {t : Table α} {t' : Table β}
    (h : Matches R t t') (distinct : t.keys.Nodup) (name : Text) :
    Option.Rel (R name) (t.get? name) (t'.get? name) := by
  cases found : t.get? name with
  | some a =>
    obtain ⟨b, mem, related⟩ := h.forth name a (mem_of_lookup found)
    rw [get?_of_mem h.distinct mem]
    exact .some related
  | none =>
    cases other : t'.get? name with
    | none => exact .none
    | some b =>
      obtain ⟨a, mem, -⟩ := h.back name b (mem_of_lookup other)
      rw [get?_of_mem distinct mem] at found
      cases found

theorem Table.Matches.mono {α β : Type} {R R' : Text → α → β → Prop} {t : Table α} {t' : Table β}
    (h : Matches R t t') (weaker : ∀ name a b, R name a b → R' name a b) : Matches R' t t' where
  distinct := h.distinct
  back name b mem := by
    obtain ⟨a, inside, related⟩ := h.back name b mem
    exact ⟨a, inside, weaker name a b related⟩
  forth name a mem := by
    obtain ⟨b, inside, related⟩ := h.forth name a mem
    exact ⟨b, inside, weaker name a b related⟩

/-- Tables that match have the same names. -/
theorem Table.Matches.mem_keys {α β : Type} {R : Text → α → β → Prop} {t : Table α} {t' : Table β}
    (h : Matches R t t') {name : Text} : name ∈ t'.keys ↔ name ∈ t.keys := by
  constructor
  · intro known
    obtain ⟨⟨key, b⟩, mem, rfl⟩ := List.mem_map.mp known
    obtain ⟨a, inside, -⟩ := h.back key b mem
    exact List.mem_map.mpr ⟨_, inside, rfl⟩
  · intro known
    obtain ⟨⟨key, a⟩, mem, rfl⟩ := List.mem_map.mp known
    obtain ⟨b, inside, -⟩ := h.forth key a mem
    exact List.mem_map.mpr ⟨_, inside, rfl⟩

/-- Tables that match have the same number of entries. -/
theorem Table.Matches.size_eq {α β : Type} {R : Text → α → β → Prop} {t : Table α} {t' : Table β}
    (h : Matches R t t') (distinct : t.keys.Nodup) : t'.size = t.size := by
  have same := (List.perm_ext_iff_of_nodup h.distinct distinct).mpr fun _ => h.mem_keys
  simpa [Table.keys, Table.size] using same.length_eq

/-- A record holds the entries of a table that does not have the name which records do not keep. -/
theorem Table.matches_recorded {α : Type} {t : Table α} (distinct : t.keys.Nodup)
    (kept : unrecordedName ∉ t.keys) : Matches (fun _ a b => b = a) t t.recorded := by
  have whole : t.entries.filter (fun e => e.1 ≠ unrecordedName) = t.entries := by
    rw [List.filter_eq_self]
    intro e mem
    simpa using fun same : e.1 = unrecordedName => kept (same ▸ List.mem_map_of_mem mem)
  have perm : t.recorded.entries.Perm t.entries := (perm_recordOrder _).trans (.of_eq whole)
  exact ⟨nodup_keys_recordEntries distinct, fun _ b mem => ⟨b, perm.mem_iff.mp mem, rfl⟩,
    fun _ a mem => ⟨a, perm.mem_iff.mpr mem, rfl⟩⟩

/-- What is read of the fields of an object, one after the other. -/
theorem Table.matches_of_mapM {α : Type} {read : Text → Json → Option α}
    {fields : List (Text × Json)} {entries : List (Text × α)} (distinct : (fields.map (·.1)).Nodup)
    (h : (fields.mapM fun f => (read f.1 f.2).map (f.1, ·)) = some entries) :
    Matches (fun name j a => read name j = some a) ⟨fields⟩ ⟨entries⟩ := by
  refine ⟨by rwa [keys, Snapshot.keys_of_mapM h], ?_, ?_⟩
  all_goals clear distinct
  all_goals
    induction fields generalizing entries with
    | nil =>
      cases h
      simp
    | cons f rest ih =>
      rw [List.mapM_cons] at h
      simp only [Option.bind_eq_bind, Option.bind_eq_some_iff, Option.map_eq_some_iff] at h
      obtain ⟨first, ⟨value, reads, rfl⟩, others, found, same⟩ := h
      cases same
      intro name a mem
      rcases List.mem_cons.mp mem with same | later
      · cases same
        exact ⟨_, List.mem_cons_self, reads⟩
      · obtain ⟨b, mem, related⟩ := ih found name a later
        exact ⟨b, List.mem_cons_of_mem _ mem, related⟩

namespace Snapshot

/-- A table in the file. -/
theorem reread_tableJson {α : Type} {t : Table α} (distinct : t.keys.Nodup) (write : α → Json) :
    Json.reread (tableJson t write) =
      .obj ((recordOrder t.entries).map fun e => (e.1, Json.reread (write e.2))) := by
  have perm := perm_recordOrder t.entries
  have apart : ((recordOrder t.entries).map fun e => (e.1, Json.reread (write e.2))).map (·.1)
      |>.Nodup := by
    rw [List.map_map]
    exact (perm.map Prod.fst).nodup_iff.mpr distinct
  have values : (((recordOrder t.entries).map fun e => (e.1, write e.2)).map
      fun f => (f.1, Json.reread f.2)) =
      (recordOrder t.entries).map fun e => (e.1, Json.reread (write e.2)) := by
    rw [List.map_map]
    rfl
  rw [tableJson, Json.reread, Json.rereadFields_eq_map, Json.orderedFields, values,
    Table.ofEntries_eq apart, recordOrder_map fun e => Json.reread (write e.2),
    recordOrder_recordOrder]

/-- A table that is read back matches the one that was written. -/
theorem matches_reread {α β : Type} {t : Table α} (distinct : t.keys.Nodup) {write : α → Json}
    {read : Text → Json → Option β} {t' : Table β}
    (h : Json.table? read (Json.reread (tableJson t write)) = some t') :
    Table.Matches (fun name a b => read name (Json.reread (write a)) = some b) t t' := by
  have perm := perm_recordOrder t.entries
  rw [reread_tableJson distinct] at h
  obtain ⟨entries, found, rfl⟩ := Option.map_eq_some_iff.mp h
  have apart : ((recordOrder t.entries).map fun e => (e.1, Json.reread (write e.2))).map (·.1)
      |>.Nodup := by
    rw [List.map_map]
    exact (perm.map Prod.fst).nodup_iff.mpr distinct
  obtain ⟨distinct', back, forth⟩ := Table.matches_of_mapM apart found
  refine ⟨distinct', fun name b mem => ?_, fun name a mem => ?_⟩
  · obtain ⟨j, inside, reads⟩ := back name b mem
    obtain ⟨e, written, same⟩ := List.mem_map.mp inside
    cases same
    exact ⟨e.2, perm.mem_iff.mp written, reads⟩
  · exact forth name _ (List.mem_map.mpr ⟨(name, a), perm.mem_iff.mpr mem, rfl⟩)

/-- A number in the file is finite and comes back up to the sign of zero. -/
theorem unsigned_of_finite? {x y : Float} (h : Json.finite? (Json.reread (.num x)) = some y) :
    Number.unsigned y = Number.unsigned x := by
  have finite : Number.isFinite x = true := by
    rw [Json.reread] at h
    split at h
    · assumption
    · cases h
  rw [finite?_reread h, Json.unsigned_rereadNumber finite]

end Snapshot

/-! ## 2. Save files of a kind -/

namespace FileTree

variable {Q Q' : Snapshot Float → Prop} {files : FileTree}

/-- Every file that is read as a save is one of a kind. -/
def AllSaves (Q : Snapshot Float → Prop) (files : FileTree) : Prop :=
  ∀ path text saved, files.nodeAt path = some (.file text) →
    (Json.parse? text).bind Snapshot.ofJson? = some saved → Q saved

/-- Where no text is a save, every save is of any kind. -/
theorem NoSaves.all (h : NoSaves files.text?) (Q : Snapshot Float → Prop) : files.AllSaves Q := by
  intro path text saved node read
  rw [h path text (by rw [text?, node])] at read
  cases read

/-- A snapshot that is read back as one of a kind is written over files. -/
theorem AllSaves.save (h : files.AllSaves Q) {data : Snapshot Float}
    (again : ∀ found, data.Reloaded found → Q found) (path : Text) :
    (data.save files path).files.AllSaves Q := by
  intro place text saved node read
  rcases data.adds_save files path place text node with old | rfl
  · exact h place text saved old read
  · rw [Snapshot.fileText, Json.parse?_indented, Option.bind_some] at read
    exact again saved (Snapshot.reloaded_of_ofJson? read)

/-- What is loaded is of the kind. -/
theorem AllSaves.load (h : files.AllSaves Q) {path : Text} {data : Snapshot Float}
    (found : (Snapshot.load files path).1 = some data) : Q data := by
  unfold Snapshot.load at found
  split at found
  · cases found
  · split at found
    · cases found
    · next j parsed =>
      split at found
      · next read =>
        cases found
        obtain ⟨text, held, parsed⟩ := Option.bind_eq_some_iff.mp parsed
        cases stands : files.read path with
        | ok t =>
          rw [stands] at held
          cases held
          refine h _ _ data (FileTree.nodeAt_of_read stands) ?_
          rw [parsed, Option.bind_some, read]
        | error e =>
          rw [stands] at held
          cases held
      · cases found

end FileTree
end VisualNovel
