import VisualNovel.Proofs.Json.Values

/-!
Records: objects whose fields have fixed names.

A record finds its fields by their names, because different strings are different texts
(`Text.ofString_inj`), and its text gives the fields back in their order. What a reader makes of a
value is judged by writing it again: `Regains read write j` says that `j` is read as something that is
written like `j`, up to the signs of zeros. Lists and values that may be `null` regain what their
parts do.
-/

namespace VisualNovel
namespace Text

/-! ## 1. Names -/

/-- The first character of a text and the rest of it. -/
theorem unitsOf_append_inj {c d : Char} {t u : Text} (same : unitsOf c ++ t = unitsOf d ++ u) :
    c = d ∧ t = u := by
  -- No character is half of a pair.
  have scalar : ∀ c : Char, c.toNat < 0xD800 ∨ 0xDFFF < c.toNat ∧ c.toNat < 0x110000 :=
    fun c => c.valid
  have hc := scalar c
  have hd := scalar d
  suffices h : c.toNat = d.toNat ∧ t = u from ⟨Char.ext (UInt32.toNat_inj.mp h.1), h.2⟩
  unfold unitsOf unit at same
  simp only at same
  split at same
  · split at same
    · obtain ⟨unit, rest⟩ := List.cons.inj same
      have unit := congrArg UInt16.toNat unit
      simp only [Nat.toUInt16_eq, UInt16.toNat_ofNat'] at unit
      exact ⟨by omega, rest⟩
    · obtain ⟨unit, rest⟩ := List.cons.inj same
      have unit := congrArg UInt16.toNat unit
      simp only [Nat.toUInt16_eq, UInt16.toNat_ofNat'] at unit
      omega
  · split at same
    · obtain ⟨unit, rest⟩ := List.cons.inj same
      have unit := congrArg UInt16.toNat unit
      simp only [Nat.toUInt16_eq, UInt16.toNat_ofNat'] at unit
      omega
    · obtain ⟨first, rest⟩ := List.cons.inj same
      obtain ⟨second, rest⟩ := List.cons.inj rest
      have first := congrArg UInt16.toNat first
      have second := congrArg UInt16.toNat second
      simp only [Nat.toUInt16_eq, UInt16.toNat_ofNat'] at first second
      exact ⟨by omega, rest⟩

theorem unitsOf_ne_nil (c : Char) : unitsOf c ≠ [] := by
  unfold unitsOf
  split <;> simp

/-- Different strings are different texts. -/
theorem ofString_inj {s t : String} : ofString s = ofString t ↔ s = t := by
  refine ⟨fun same => String.toList_inj.mp ?_, congrArg _⟩
  unfold ofString at same
  generalize s.toList = cs at same
  generalize t.toList = ds at same
  induction cs generalizing ds with
  | nil =>
    cases ds with
    | nil => rfl
    | cons d ds => simp [unitsOf_ne_nil] at same
  | cons c cs ih =>
    cases ds with
    | nil => simp [unitsOf_ne_nil] at same
    | cons d ds =>
      obtain ⟨rfl, rest⟩ := unitsOf_append_inj same
      rw [ih ds rest]

end Text

namespace Json

/-! ## 2. Fields of records -/

/-- Records are looked up by their names. -/
theorem field?_record (fields : List (String × Json)) (name : String) :
    (record fields).field? name = fields.lookup name := by
  rw [record, field?]
  induction fields with
  | nil => rfl
  | cons e rest ih =>
    have same : (Text.ofString name == Text.ofString e.1) = (name == e.1) := by
      rw [Bool.eq_iff_iff, beq_iff_eq, beq_iff_eq, Text.ofString_inj]
    rw [List.map_cons, List.lookup_cons, List.lookup_cons, ih, same]

section Fields

variable {α : Type} {fields : List (String × Json)} {name : String} {read : Json → Option α}

@[simp] theorem need_record : (record fields).need name read = (fields.lookup name).bind read := by
  rw [need, field?_record]

/-- A value that may be `null`. -/
def orNone (read : Json → Option α) : Json → Option (Option α)
  | .null => some none
  | value => (read value).map some

@[simp] theorem needOrNull_record :
    (record fields).needOrNull name read = (fields.lookup name).bind (orNone read) := by
  rw [needOrNull, field?_record]
  cases fields.lookup name with
  | none => rfl
  | some value => cases value <;> rfl

@[simp] theorem allow_record :
    (record fields).allow name read = ((fields.lookup name).elim (some none) (orNone read)) := by
  rw [allow, field?_record]
  cases fields.lookup name with
  | none => rfl
  | some value => cases value <;> rfl

@[simp] theorem orNone_null : orNone read .null = some none := rfl

theorem orNone_of_read {j : Json} {a : α} (solid : j ≠ .null) (reads : read j = some a) :
    orNone read j = some (some a) := by
  cases j with
  | null => exact absurd rfl solid
  | _ => exact congrArg (Option.map some) reads

theorem of_orNone {j : Json} {a : α}
    (h : orNone read j = some (some a)) : read j = some a := by
  unfold orNone at h
  split at h
  · cases h
  · obtain ⟨b, found, same⟩ := Option.map_eq_some_iff.mp h
    rw [found, same]

end Fields

/-! ## 3. Records that are read again -/

/-- Names under which a record keeps its fields in their order. -/
def InOrder (names : List Text) : Prop := names.Nodup ∧ ∀ name ∈ names, indexName? name = none

instance (names : List Text) : Decidable (InOrder names) :=
  inferInstanceAs (Decidable (_ ∧ _))

/-- The fields of a record stay as they are. -/
theorem reread_obj {fields : List (Text × Json)} (inOrder : InOrder (fields.map (·.1))) :
    reread (.obj fields) = .obj (fields.map fun f => (f.1, reread f.2)) := by
  have names : (fields.map fun f => (f.1, reread f.2)).map (·.1) = fields.map (·.1) := by
    rw [List.map_map]
    rfl
  rw [reread, rereadFields_eq_map, orderedFields, Table.ofEntries_eq (by rw [names]; exact inOrder.1),
    recordOrder_eq]
  intro f mem
  exact inOrder.2 f.1 (names ▸ List.mem_map_of_mem mem)

theorem reread_record {fields : List (String × Json)}
    (inOrder : InOrder (fields.map fun f => Text.ofString f.1)) :
    reread (.record fields) = .record (fields.map fun f => (f.1, reread f.2)) := by
  rw [record, reread_obj (by rwa [List.map_map]), record, List.map_map, List.map_map]
  rfl

/-- A field of a record is found again. -/
theorem field?_reread {fields : List (String × Json)}
    (inOrder : InOrder (fields.map fun f => Text.ofString f.1)) {name : String} {value : Json}
    (mem : (name, value) ∈ fields) :
    (reread (.record fields)).field? name = some (reread value) := by
  have names : (fields.map fun f => (Text.ofString f.1, f.2)).map (·.1) =
      fields.map fun f => Text.ofString f.1 := by
    rw [List.map_map]
    rfl
  rw [record, reread_obj (by rwa [names]), List.map_map]
  apply Table.get?_of_mem (t := ⟨_⟩)
  · rw [Table.keys, List.map_map]
    exact inOrder.1
  · exact List.mem_map.mpr ⟨(name, value), mem, rfl⟩

theorem need_reread {α : Type} {fields : List (String × Json)}
    (inOrder : InOrder (fields.map fun f => Text.ofString f.1)) {name : String} {value : Json}
    (mem : (name, value) ∈ fields) (read : Json → Option α) :
    (reread (.record fields)).need name read = read (reread value) := by
  rw [need, field?_reread inOrder mem, Option.bind_some]

theorem needOrNull_reread {α : Type} {fields : List (String × Json)}
    (inOrder : InOrder (fields.map fun f => Text.ofString f.1)) {name : String} {value : Json}
    (mem : (name, value) ∈ fields) (read : Json → Option α) :
    (reread (.record fields)).needOrNull name read = orNone read (reread value) := by
  rw [needOrNull, field?_reread inOrder mem]
  cases reread value <;> rfl

theorem allow_reread {α : Type} {fields : List (String × Json)}
    (inOrder : InOrder (fields.map fun f => Text.ofString f.1)) {name : String} {value : Json}
    (mem : (name, value) ∈ fields) (read : Json → Option α) :
    (reread (.record fields)).allow name read = orNone read (reread value) := by
  rw [allow, field?_reread inOrder mem]
  cases reread value <;> rfl

/-! ## 4. Values that are read as they are written -/

/-- A value is read as something that is written like it, up to the signs of zeros. -/
def Regains {α : Type} (read : Json → Option α) (write : α → Json) (j : Json) : Prop :=
  ∃ a, read j = some a ∧ (write a).unsigned = j.unsigned

section Images

variable {f : Float → Float}

@[simp] theorem mapNumbers_record (fields : List (String × Json)) :
    (record fields).mapNumbers f = record (fields.map fun e => (e.1, e.2.mapNumbers f)) := by
  rw [record, mapNumbers_obj, record, List.map_map, List.map_map]
  rfl

@[simp] theorem mapNumbers_ofText? (t : Option Text) : (ofText? t).mapNumbers f = ofText? t := by
  cases t <;> rfl

@[simp] theorem mapNumbers_ofNumber? (x : Option Float) :
    (ofNumber? x).mapNumbers f = ofNumber? (x.map f) := by
  cases x <;> rfl

@[simp] theorem text?_str (t : Text) : text? (.str t) = some t := rfl

@[simp] theorem bool?_bool (b : Bool) : bool? (.bool b) = some b := rfl

@[simp] theorem orNone_bool (b : Bool) : orNone bool? (.bool b) = some (some b) := rfl

@[simp] theorem orNone_ofText? (t : Option Text) : orNone text? (ofText? t) = some t := by
  cases t <;> rfl

/-- A list of which every item is read. -/
theorem mapM_map {α β γ : Type} {g : α → β} {h : α → γ} {read : β → Option γ} (xs : List α)
    (each : ∀ x ∈ xs, read (g x) = some (h x)) : (xs.map g).mapM read = some (xs.map h) := by
  induction xs with
  | nil => rfl
  | cons x rest ih =>
    rw [List.forall_mem_cons] at each
    rw [List.map_cons, List.mapM_cons, each.1, ih each.2]
    rfl

variable {α : Type} {read : Json → Option α} {write : α → Json}

/-- An array regains what its items do. -/
theorem regains_list {items : List Json} (each : ∀ item ∈ items, Regains read write item) :
    Regains (list? read) (fun xs => .arr (xs.map write)) (.arr items) := by
  suffices found : ∃ xs, items.mapM read = some xs ∧
      (xs.map fun x => (write x).unsigned) = items.map unsigned by
    obtain ⟨xs, reads, same⟩ := found
    refine ⟨xs, reads, ?_⟩
    rw [unsigned, unsigned, mapNumbers_arr, mapNumbers_arr, List.map_map]
    exact congrArg Json.arr same
  induction items with
  | nil => exact ⟨[], rfl, rfl⟩
  | cons item rest ih =>
    rw [List.forall_mem_cons] at each
    obtain ⟨x, read, same⟩ := each.1
    obtain ⟨xs, reads, later⟩ := ih each.2
    exact ⟨x :: xs, by simp [List.mapM_cons, read, reads],
      by rw [List.map_cons, same, later, List.map_cons]⟩

/-- A list whose numbers are changed. -/
theorem regains_image (xs : List α)
    (each : ∀ x ∈ xs, Regains read write ((write x).mapNumbers f)) :
    Regains (list? read) (fun xs => .arr (xs.map write)) ((Json.arr (xs.map write)).mapNumbers f) := by
  rw [mapNumbers_arr]
  apply regains_list
  simpa only [List.forall_mem_map] using each

/-- A value that may be `null`, but is not written so if it is there. -/
theorem regains_orNone (x : Option α)
    (each : ∀ y ∈ x, Regains read write ((write y).mapNumbers f))
    (solid : ∀ y ∈ x, (write y).mapNumbers f ≠ .null) :
    Regains (orNone read) (fun x => orNull (x.map write))
      ((orNull (x.map write)).mapNumbers f) := by
  cases x with
  | none => exact ⟨none, rfl, rfl⟩
  | some y =>
    obtain ⟨z, reads, same⟩ := each y rfl
    exact ⟨some z, orNone_of_read (solid y rfl) reads, same⟩

end Images

end Json
end VisualNovel
