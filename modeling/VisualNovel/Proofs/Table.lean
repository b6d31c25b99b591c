import Mathlib
import VisualNovel.Table

/-!
Tables by their names.

A table is seen in two ways: by the value under each name, and by its names in order. `set` and
`erase` are told apart by both, and the statements below say what each does to either view. The
names of a table that was built by `set` are distinct, so that an entry of the list is what its name
finds. A record keeps the order of names that are no index numbers.
-/

namespace VisualNovel
namespace Table

variable {α β : Type}

/-! ## 1. Values under names -/

theorem lookup_cons (key name : Text) (value : α) (entries : List (Text × α)) :
    ((name, value) :: entries).lookup key =
      if key = name then some value else entries.lookup key := by
  by_cases h : key = name
  · simp [h]
  · have hb : (key == name) = false := beq_false_of_ne h
    simp [List.lookup, hb, h]

theorem mem_of_lookup {key : Text} {value : α} {entries : List (Text × α)}
    (h : entries.lookup key = some value) : (key, value) ∈ entries := by
  obtain ⟨before, after, rfl, -⟩ := List.lookup_eq_some_iff.mp h
  simp

theorem lookup_setEntry (name key : Text) (value : α) (entries : List (Text × α)) :
    (setEntry name value entries).lookup key =
      if key = name then some value else entries.lookup key := by
  induction entries with
  | nil => exact lookup_cons key name value []
  | cons e rest ih =>
    obtain ⟨k, old⟩ := e
    by_cases hk : k = name
    · subst hk
      by_cases h : key = k <;> simp [setEntry, lookup_cons, h]
    · by_cases h : key = k
      · subst h
        simp [setEntry, hk]
      · simp [setEntry, hk, lookup_cons, h, ih]

@[simp] theorem get?_set (t : Table α) (name key : Text) (value : α) :
    (t.set name value).get? key = if key = name then some value else t.get? key :=
  lookup_setEntry name key value t.entries

theorem get?_set_self (t : Table α) (name : Text) (value : α) :
    (t.set name value).get? name = some value := by simp

theorem setEntry_setEntry (name : Text) (old value : α) (entries : List (Text × α)) :
    setEntry name value (setEntry name old entries) = setEntry name value entries := by
  induction entries with
  | nil => simp [setEntry]
  | cons e rest ih =>
    by_cases same : e.1 = name
    · simp [setEntry, same]
    · simp [setEntry, same, ih]

/-- What is set last counts, in the place where the name came first. -/
theorem set_set (t : Table α) (name : Text) (old value : α) :
    (t.set name old).set name value = t.set name value := by
  simp [set, setEntry_setEntry]

theorem get?_erase (t : Table α) (name key : Text) :
    (t.erase name).get? key = if key = name then none else t.get? key := by
  obtain ⟨entries⟩ := t
  induction entries with
  | nil => simp [erase, get?]
  | cons e rest ih =>
    obtain ⟨first, value⟩ := e
    simp only [erase, get?] at ih
    simp only [erase, get?, lookup_cons]
    by_cases gone : first = name
    · rw [List.filter_cons_of_neg (by simpa using gone), ih]
      by_cases h : key = name <;> simp [h, gone]
    · rw [List.filter_cons_of_pos (by simpa using gone), lookup_cons, ih]
      by_cases h : key = first
      · simp [h, gone]
      · simp [h]

@[simp] theorem get?_empty (key : Text) : (⟨[]⟩ : Table α).get? key = none := rfl

theorem contains_eq_false {t : Table α} {name : Text} (h : t.contains name = false) :
    t.get? name = none := by
  cases hg : t.get? name with
  | none => rfl
  | some value => simp [contains, hg] at h

/-! ## 2. Names in order -/

theorem keys_setEntry (name : Text) (value : α) (entries : List (Text × α)) :
    (setEntry name value entries).map (·.1) =
      if name ∈ entries.map (·.1) then entries.map (·.1) else entries.map (·.1) ++ [name] := by
  induction entries with
  | nil => rfl
  | cons e rest ih =>
    obtain ⟨key, old⟩ := e
    by_cases hk : key = name
    · subst hk
      simp [setEntry]
    · have hk' : ¬ name = key := fun h => hk h.symm
      simp only [setEntry, if_neg hk, List.map_cons, ih, List.mem_cons, hk', false_or]
      split <;> rfl

/-- Setting a name keeps the order, and a new name comes last. -/
theorem keys_set (t : Table α) (name : Text) (value : α) :
    (t.set name value).keys = if name ∈ t.keys then t.keys else t.keys ++ [name] :=
  keys_setEntry name value t.entries

theorem mem_keys_set {t : Table α} {name key : Text} {value : α} :
    key ∈ (t.set name value).keys ↔ key = name ∨ key ∈ t.keys := by
  rw [keys_set]
  split
  · constructor
    · exact .inr
    · rintro (rfl | h)
      · assumption
      · exact h
  · simp [or_comm]

theorem nodup_keys_set {t : Table α} (h : t.keys.Nodup) (name : Text) (value : α) :
    (t.set name value).keys.Nodup := by
  rw [keys_set]
  split
  · exact h
  · rename_i hn
    rw [List.nodup_append]
    exact ⟨h, by simp, fun a ha b hb => by rw [List.mem_singleton.mp hb]; rintro rfl; exact hn ha⟩

@[simp] theorem keys_map (f : α → β) (t : Table α) : (t.map f).keys = t.keys := by
  simp [keys, map]

@[simp] theorem keys_mapNamed (f : Text → α → β) (t : Table α) : (t.mapNamed f).keys = t.keys := by
  simp [keys, mapNamed]

@[simp] theorem keys_modify (t : Table α) (name : Text) (change : α → α) :
    (t.modify name change).keys = t.keys := by
  simp only [keys, modify, List.map_map]
  apply List.map_congr_left
  intro e _
  by_cases h : e.1 = name <;> simp [h]

theorem mem_keys_erase {t : Table α} {name key : Text} :
    key ∈ (t.erase name).keys ↔ key ∈ t.keys ∧ key ≠ name := by
  simp [keys, erase, and_comm]

theorem erase_of_not_mem {t : Table α} {name : Text} (missing : name ∉ t.keys) :
    t.erase name = t := by
  have all : t.entries.filter (fun e => e.1 ≠ name) = t.entries := by
    rw [List.filter_eq_self]
    intro e mem
    have other : e.1 ≠ name := by
      rintro rfl
      exact missing (List.mem_map_of_mem mem)
    simpa using other
  rw [erase, all]

theorem nodup_keys_erase {t : Table α} (h : t.keys.Nodup) (name : Text) :
    (t.erase name).keys.Nodup := by
  exact h.sublist (List.filter_sublist.map _)

theorem mem_keys_of_get? {t : Table α} {name : Text} {value : α} (h : t.get? name = some value) :
    name ∈ t.keys :=
  List.mem_map.mpr ⟨(name, value), mem_of_lookup h, rfl⟩

theorem mem_keys_iff {t : Table α} {name : Text} : name ∈ t.keys ↔ t.contains name = true := by
  obtain ⟨entries⟩ := t
  induction entries with
  | nil => simp [keys, contains, get?]
  | cons e rest ih =>
    obtain ⟨key, value⟩ := e
    simp only [keys, contains, get?] at ih
    simp only [keys, contains, get?, List.map_cons, List.mem_cons, lookup_cons]
    by_cases h : name = key <;> simp [h, ih]

theorem get?_of_mem {t : Table α} (distinct : t.keys.Nodup) {name : Text} {value : α}
    (h : (name, value) ∈ t.entries) : t.get? name = some value := by
  obtain ⟨entries⟩ := t
  induction entries with
  | nil => cases h
  | cons e rest ih =>
    obtain ⟨key, first⟩ := e
    rw [keys, List.map_cons, List.nodup_cons] at distinct
    rw [get?, lookup_cons]
    rcases List.mem_cons.mp h with same | later
    · cases same
      exact if_pos rfl
    · have other : name ≠ key := by
        rintro rfl
        exact distinct.1 (List.mem_map.mpr ⟨_, later, rfl⟩)
      rw [if_neg other]
      exact ih distinct.2 later

/-! ## 3. Entries set one after another -/

/-- An entry of a table in which a name was set is that name's, or was there before. -/
theorem mem_setEntry {name : Text} {value : α} {entries : List (Text × α)} {e : Text × α}
    (h : e ∈ setEntry name value entries) : e = (name, value) ∨ e ∈ entries := by
  induction entries with
  | nil => exact .inl (List.mem_singleton.mp h)
  | cons first rest ih =>
    obtain ⟨key, old⟩ := first
    rw [setEntry] at h
    split at h
    · next same =>
      subst same
      rcases List.mem_cons.mp h with rfl | later
      · exact .inl rfl
      · exact .inr (List.mem_cons_of_mem _ later)
    · rcases List.mem_cons.mp h with rfl | later
      · exact .inr List.mem_cons_self
      · exact (ih later).imp_right (List.mem_cons_of_mem _)

theorem setEntry_of_not_mem {name : Text} {entries : List (Text × α)}
    (h : name ∉ entries.map (·.1)) (value : α) :
    setEntry name value entries = entries ++ [(name, value)] := by
  induction entries with
  | nil => rfl
  | cons e rest ih =>
    rw [List.map_cons, List.mem_cons, not_or] at h
    rw [setEntry, if_neg (Ne.symm h.1), ih h.2]
    rfl

/-- Entries of distinct names make the table of these entries. -/
theorem ofEntries_eq {entries : List (Text × α)} (h : (entries.map (·.1)).Nodup) :
    ofEntries entries = ⟨entries⟩ := by
  suffices general : ∀ done rest : List (Text × α), ((done ++ rest).map (·.1)).Nodup →
      rest.foldl (fun t e => t.set e.1 e.2) (⟨done⟩ : Table α) = ⟨done ++ rest⟩ by
    simpa [ofEntries, empty] using general [] entries (by simpa using h)
  intro done rest distinct
  induction rest generalizing done with
  | nil => simp
  | cons e rest ih =>
    have fresh : e.1 ∉ done.map (·.1) := by
      rw [List.map_append, List.nodup_append] at distinct
      intro old
      exact distinct.2.2 e.1 old e.1 (by simp) rfl
    rw [List.foldl_cons, set, setEntry_of_not_mem fresh, ih (done ++ [e]) (by simpa using distinct)]
    simp

theorem nodup_keys_ofEntries (entries : List (Text × α)) :
    (ofEntries entries).keys.Nodup := by
  suffices general : ∀ t : Table α, t.keys.Nodup →
      (entries.foldl (fun t e => t.set e.1 e.2) t).keys.Nodup from general _ (by simp [empty, keys])
  induction entries with
  | nil => exact fun _ h => h
  | cons e rest ih => exact fun t h => ih _ (nodup_keys_set h e.1 e.2)

theorem mem_ofEntries {entries : List (Text × α)} {e : Text × α}
    (h : e ∈ (ofEntries entries).entries) : e ∈ entries := by
  suffices general : ∀ t : Table α, e ∈ (entries.foldl (fun t e => t.set e.1 e.2) t).entries →
      e ∈ t.entries ∨ e ∈ entries from (general _ h).resolve_left (by simp [empty])
  clear h
  induction entries with
  | nil => exact fun _ => .inl
  | cons first rest ih =>
    intro t h
    rcases ih _ h with old | later
    · exact (mem_setEntry old).elim (fun same => .inr (same ▸ List.mem_cons_self)) .inl
    · exact .inr (List.mem_cons_of_mem _ later)

theorem mem_values_set {t : Table α} {name : Text} {value v : α}
    (mem : v ∈ (t.set name value).values) : v = value ∨ v ∈ t.values := by
  obtain ⟨e, inside, rfl⟩ := List.mem_map.mp mem
  rcases mem_setEntry inside with rfl | old
  · exact .inl rfl
  · exact .inr (List.mem_map_of_mem old)

theorem mem_values_erase {t : Table α} {name : Text} {v : α}
    (mem : v ∈ (t.erase name).values) : v ∈ t.values := by
  obtain ⟨e, inside, rfl⟩ := List.mem_map.mp mem
  exact List.mem_map_of_mem (List.mem_filter.mp inside).1

theorem mem_values_ofEntries {entries : List (Text × α)} {v : α}
    (mem : v ∈ (ofEntries entries).values) : v ∈ entries.map (·.2) := by
  obtain ⟨e, inside, rfl⟩ := List.mem_map.mp mem
  exact List.mem_map_of_mem (mem_ofEntries inside)

/-! ## 4. Every value changed -/

section Map

variable (f : α → β) (t : Table α) (name : Text)

theorem get?_map : (t.map f).get? name = (t.get? name).map f := by
  obtain ⟨entries⟩ := t
  induction entries with
  | nil => rfl
  | cons e rest ih =>
    obtain ⟨key, value⟩ := e
    simp only [map, get?, List.map_cons, lookup_cons] at ih ⊢
    split
    · rfl
    · exact ih

theorem contains_map : (t.map f).contains name = t.contains name := by
  simp [contains, get?_map]

theorem values_map : (t.map f).values = t.values.map f := by
  simp [values, map]

theorem set_map (value : α) : (t.map f).set name (f value) = (t.set name value).map f := by
  obtain ⟨entries⟩ := t
  simp only [map, set, mk.injEq]
  induction entries with
  | nil => rfl
  | cons e rest ih =>
    simp only [List.map_cons, setEntry]
    split
    · rfl
    · rw [List.map_cons, ih]

/-- A table of changed entries. -/
theorem ofEntries_map (entries : List (Text × α)) :
    ofEntries (entries.map fun e => (e.1, f e.2)) = (ofEntries entries).map f := by
  suffices general : ∀ t : Table α,
      (entries.map fun e => (e.1, f e.2)).foldl (fun t e => t.set e.1 e.2) (t.map f) =
        (entries.foldl (fun t e => t.set e.1 e.2) t).map f from general empty
  induction entries with
  | nil => exact fun _ => rfl
  | cons e rest ih =>
    intro t
    rw [List.map_cons, List.foldl_cons, List.foldl_cons, ← ih, set_map]

theorem erase_map : (t.map f).erase name = (t.erase name).map f := by
  simp [erase, map, List.filter_map, Function.comp_def]

theorem modify_map {change : α → α} {change' : β → β}
    (same : ∀ value, change' (f value) = f (change value)) :
    (t.map f).modify name change' = (t.modify name change).map f := by
  simp only [modify, map, List.map_map, mk.injEq]
  refine List.map_congr_left fun e _ => ?_
  simp only [Function.comp_def]
  split
  · rw [same]
  · rfl

end Map

end Table

/-! ## 5. Records -/

section Records

variable {α β : Type}

/-- Entries keep their order in a record, unless their names are index numbers. -/
theorem recordOrder_eq {entries : List (Text × α)}
    (plain : ∀ e ∈ entries, indexName? e.1 = none) : recordOrder entries = entries := by
  have indexed : entries.filterMap (fun e => (indexName? e.1).map (·, e)) = [] := by
    rw [List.filterMap_eq_nil_iff]
    intro e mem
    simp [plain e mem]
  have others : entries.filter (fun e => (indexName? e.1).isNone) = entries := by
    rw [List.filter_eq_self]
    intro e mem
    simp [plain e mem]
  rw [recordOrder, indexed, others, List.mergeSort_nil]
  rfl

/-- The entries of index numbers, with their numbers. -/
theorem filterMap_indexName?_map (f : Text × α → β) (entries : List (Text × α)) :
    (entries.map fun e => (e.1, f e)).filterMap (fun e => (indexName? e.1).map (·, e)) =
      (entries.filterMap fun e => (indexName? e.1).map (·, e)).map
        fun e => (e.1, (e.2.1, f e.2)) := by
  rw [List.filterMap_map, List.map_filterMap]
  apply List.filterMap_congr
  intro e _
  simp [Option.map_map, Function.comp_def]

/-- The order of a record looks at the names only. -/
theorem recordOrder_map (f : Text × α → β) (entries : List (Text × α)) :
    recordOrder (entries.map fun e => (e.1, f e)) =
      (recordOrder entries).map fun e => (e.1, f e) := by
  have sorted := List.map_mergeSort (r := fun a b : Nat × Text × α => decide (a.1 ≤ b.1))
    (s := fun a b : Nat × Text × β => decide (a.1 ≤ b.1)) (f := fun e => (e.1, (e.2.1, f e.2)))
    (l := entries.filterMap fun e => (indexName? e.1).map (·, e)) (fun _ _ _ _ => rfl)
  simp only [recordOrder]
  rw [filterMap_indexName?_map, ← sorted, List.map_append, List.map_map, List.map_map,
    List.filter_map]
  rfl

/-- What is in the order of a record stays in it. -/
theorem recordOrder_recordOrder (entries : List (Text × α)) :
    recordOrder (recordOrder entries) = recordOrder entries := by
  have ascending := @List.pairwise_mergeSort _ (fun a b : Nat × Text × α => decide (a.1 ≤ b.1))
    (fun a b c => by simpa using Nat.le_trans) (fun a b => by simpa using Nat.le_total a.1 b.1)
    (entries.filterMap fun e => (indexName? e.1).map (·, e))
  have indexed : ∀ e ∈ (entries.filterMap fun e => (indexName? e.1).map (·, e)).mergeSort
      (fun a b => a.1 ≤ b.1), indexName? e.2.1 = some e.1 := by
    intro e mem
    obtain ⟨old, -, found⟩ := List.mem_filterMap.mp (List.mem_mergeSort.mp mem)
    obtain ⟨i, index, rfl⟩ := Option.map_eq_some_iff.mp found
    exact index
  have others : ∀ e ∈ entries.filter (fun e => (indexName? e.1).isNone), indexName? e.1 = none :=
    fun e mem => Option.isNone_iff_eq_none.mp (List.mem_filter.mp mem).2
  unfold recordOrder
  simp only
  generalize (entries.filterMap fun e => (indexName? e.1).map (·, e)).mergeSort
    (fun a b => a.1 ≤ b.1) = sorted at ascending indexed ⊢
  generalize entries.filter (fun e => (indexName? e.1).isNone) = plain at others ⊢
  have again : (sorted.map (·.2) ++ plain).filterMap (fun e => (indexName? e.1).map (·, e)) =
      sorted := by
    have none : plain.filterMap (fun e => (indexName? e.1).map (·, e)) = [] := by
      rw [List.filterMap_eq_nil_iff]
      intro e mem
      rw [others e mem]
      rfl
    rw [List.filterMap_append, none, List.append_nil, List.filterMap_map]
    conv => rhs; rw [← List.filterMap_some (l := sorted)]
    apply List.filterMap_congr
    intro e mem
    simp [indexed e mem]
  have rest : (sorted.map (·.2) ++ plain).filter (fun e => (indexName? e.1).isNone) = plain := by
    rw [List.filter_append, List.filter_eq_nil_iff.mpr, List.filter_eq_self.mpr, List.nil_append]
    · intro e mem
      simp [others e mem]
    · intro e mem
      obtain ⟨old, inside, rfl⟩ := List.mem_map.mp mem
      simp [indexed old inside]
  rw [again, rest, List.mergeSort_of_pairwise ascending]

/-- A record holds every entry. -/
theorem perm_recordOrder (entries : List (Text × α)) : (recordOrder entries).Perm entries := by
  have indexed : ∀ entries : List (Text × α),
      (entries.filterMap fun e => (indexName? e.1).map (·, e)).map (·.2) =
        entries.filter fun e => (indexName? e.1).isSome := by
    intro entries
    induction entries with
    | nil => rfl
    | cons e rest ih =>
      cases found : indexName? e.1 <;> simp [found, ih]
  have sorted := (List.mergeSort_perm (entries.filterMap fun e => (indexName? e.1).map (·, e))
    fun a b => a.1 ≤ b.1).map (·.2)
  rw [indexed] at sorted
  have parts := List.filter_append_perm (fun e => (indexName? e.1).isSome) entries
  simp only [Option.not_isSome] at parts
  exact (sorted.append_right _).trans parts

/-- A record keeps names apart that were apart, and nothing comes to it. -/
theorem Table.nodup_keys_recordEntries {t : Table α} (distinct : t.keys.Nodup) :
    (t.recordEntries.map (·.1)).Nodup := by
  have kept := distinct.sublist ((List.filter_sublist (p := fun e => e.1 ≠ unrecordedName)).map
    Prod.fst)
  exact ((perm_recordOrder _).map Prod.fst).nodup_iff.mpr kept

theorem Table.mem_of_mem_recordEntries {t : Table α} {e : Text × α} (mem : e ∈ t.recordEntries) :
    e ∈ t.entries :=
  (List.mem_filter.mp ((perm_recordOrder _).mem_iff.mp mem)).1

end Records

end VisualNovel
