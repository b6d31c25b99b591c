import VisualNovel.Proofs.Json.RoundTrip
import VisualNovel.Proofs.Number.Unsigned
import VisualNovel.Proofs.Table

/-!
Values and their numbers.

JSON text keeps a value up to two things: the numbers, which are read from decimals, and the order of
the fields in an object. `numbers` are the numbers in a value and `mapNumbers` changes them;
`unsigned` leaves out the sign of a zero. A value is `Orderly` if its objects are in the order that a
reader gives them: whatever is read is orderly (`orderly_of_parse?`), and an orderly value comes back
from its text but for its numbers (`Orderly.reread_eq`).
-/

namespace VisualNovel.Json

/-! ## 1. Values by their parts -/

/-- What holds of a value as soon as it holds of its parts holds of every value. -/
@[elab_as_elim]
theorem ofParts {P : Json → Prop} (null : P .null) (bool : ∀ b, P (.bool b)) (num : ∀ x, P (.num x))
    (str : ∀ t, P (.str t)) (arr : ∀ items, (∀ item ∈ items, P item) → P (.arr items))
    (obj : ∀ fields : List (Text × Json), (∀ f ∈ fields, P f.2) → P (.obj fields)) (j : Json) :
    P j := by
  refine @Json.rec P (fun items => ∀ item ∈ items, P item) (fun fields => ∀ f ∈ fields, P f.2)
    (fun f => P f.2) null bool num str arr obj ?_ ?_ ?_ ?_ (fun _ _ => id) j
  · simp
  · exact fun item rest first later => by simpa using ⟨first, later⟩
  · simp
  · exact fun f rest first later => by
      rw [List.forall_mem_cons]
      exact ⟨first, later⟩

/-! ## 2. Numbers -/

mutual

/-- The numbers in a value, in their order. -/
def numbers : Json → List Float
  | .num x => [x]
  | .arr items => itemNumbers items
  | .obj fields => fieldNumbers fields
  | _ => []

/-- The numbers in the items of an array. -/
def itemNumbers : List Json → List Float
  | [] => []
  | item :: rest => numbers item ++ itemNumbers rest

/-- The numbers in the fields of an object. -/
def fieldNumbers : List (Text × Json) → List Float
  | [] => []
  | (_, value) :: rest => numbers value ++ fieldNumbers rest

end

mutual

/-- The value with its numbers changed. -/
def mapNumbers (f : Float → Float) : Json → Json
  | .num x => .num (f x)
  | .arr items => .arr (mapItems f items)
  | .obj fields => .obj (mapFields f fields)
  | other => other

/-- The items of an array with their numbers changed. -/
def mapItems (f : Float → Float) : List Json → List Json
  | [] => []
  | item :: rest => mapNumbers f item :: mapItems f rest

/-- The fields of an object with their numbers changed. -/
def mapFields (f : Float → Float) : List (Text × Json) → List (Text × Json)
  | [] => []
  | (name, value) :: rest => (name, mapNumbers f value) :: mapFields f rest

end

/-- The value with no sign on any zero. -/
def unsigned (j : Json) : Json := j.mapNumbers Number.unsigned

section Maps

variable {f g : Float → Float}

@[simp] theorem mapNumbers_null : mapNumbers f .null = .null := rfl

@[simp] theorem mapNumbers_bool (b : Bool) : mapNumbers f (.bool b) = .bool b := rfl

@[simp] theorem mapNumbers_num (x : Float) : mapNumbers f (.num x) = .num (f x) := rfl

@[simp] theorem mapNumbers_str (t : Text) : mapNumbers f (.str t) = .str t := rfl

theorem mapItems_eq_map (items : List Json) : mapItems f items = items.map (mapNumbers f) := by
  induction items with
  | nil => rfl
  | cons item rest ih => rw [mapItems, ih, List.map_cons]

theorem mapFields_eq_map (fields : List (Text × Json)) :
    mapFields f fields = fields.map fun e => (e.1, e.2.mapNumbers f) := by
  induction fields with
  | nil => rfl
  | cons e rest ih => rw [mapFields, ih, List.map_cons]

theorem mapNumbers_arr (items : List Json) :
    mapNumbers f (.arr items) = .arr (items.map (mapNumbers f)) := by
  rw [mapNumbers, mapItems_eq_map]

theorem mapNumbers_obj (fields : List (Text × Json)) :
    mapNumbers f (.obj fields) = .obj (fields.map fun e => (e.1, e.2.mapNumbers f)) := by
  rw [mapNumbers, mapFields_eq_map]

theorem mem_numbers_item {items : List Json} {item : Json} (mem : item ∈ items) {x : Float}
    (inside : x ∈ item.numbers) : x ∈ numbers (.arr items) := by
  rw [numbers]
  induction items with
  | nil => cases mem
  | cons first rest ih =>
    rw [itemNumbers, List.mem_append]
    rcases List.mem_cons.mp mem with rfl | later
    · exact .inl inside
    · exact .inr (ih later)

theorem mem_numbers_field {fields : List (Text × Json)} {e : Text × Json} (mem : e ∈ fields)
    {x : Float} (inside : x ∈ e.2.numbers) : x ∈ numbers (.obj fields) := by
  rw [numbers]
  induction fields with
  | nil => cases mem
  | cons first rest ih =>
    rw [fieldNumbers, List.mem_append]
    rcases List.mem_cons.mp mem with rfl | later
    · exact .inl inside
    · exact .inr (ih later)

/-- Only the numbers that are there matter. -/
theorem mapNumbers_congr {j : Json} (same : ∀ x ∈ j.numbers, f x = g x) :
    j.mapNumbers f = j.mapNumbers g := by
  induction j using ofParts with
  | null | bool | str => rfl
  | num x => exact congrArg Json.num (same x List.mem_cons_self)
  | arr items ih =>
    rw [mapNumbers_arr, mapNumbers_arr, List.map_congr_left]
    exact fun item mem => ih item mem fun x inside => same x (mem_numbers_item mem inside)
  | obj fields ih =>
    rw [mapNumbers_obj, mapNumbers_obj, List.map_congr_left]
    intro e mem
    rw [ih e mem fun x inside => same x (mem_numbers_field mem inside)]

theorem mapNumbers_mapNumbers (j : Json) :
    (j.mapNumbers g).mapNumbers f = j.mapNumbers fun x => f (g x) := by
  induction j using ofParts with
  | null | bool | str | num => rfl
  | arr items ih =>
    rw [mapNumbers_arr, mapNumbers_arr, mapNumbers_arr, List.map_map, List.map_congr_left]
    exact ih
  | obj fields ih =>
    rw [mapNumbers_obj, mapNumbers_obj, mapNumbers_obj, List.map_map, List.map_congr_left]
    intro e mem
    exact congrArg (Prod.mk e.1) (ih e mem)

/-- Numbers that are changed by the sign of a zero. -/
theorem unsigned_mapNumbers {j : Json}
    (same : ∀ x ∈ j.numbers, Number.unsigned (f x) = Number.unsigned x) :
    (j.mapNumbers f).unsigned = j.unsigned := by
  rw [unsigned, mapNumbers_mapNumbers]
  exact mapNumbers_congr same

@[simp] theorem mapNumbers_id (j : Json) : j.mapNumbers id = j := by
  induction j using ofParts with
  | null | bool | str | num => rfl
  | arr items ih =>
    rw [mapNumbers_arr]
    congr 1
    conv => rhs; rw [← List.map_id items]
    exact List.map_congr_left ih
  | obj fields ih =>
    rw [mapNumbers_obj]
    congr 1
    conv => rhs; rw [← List.map_id fields]
    exact List.map_congr_left fun e mem => congrArg (Prod.mk e.1) (ih e mem)

end Maps

/-! ## 3. Orderly values -/

/-- A value whose objects are records: no name occurs twice, and index numbers come first. -/
inductive Orderly : Json → Prop
  | null : Orderly .null
  | bool (b : Bool) : Orderly (.bool b)
  | num (x : Float) : Orderly (.num x)
  | str (t : Text) : Orderly (.str t)
  | arr {items : List Json} (parts : ∀ item ∈ items, item.Orderly) : Orderly (.arr items)
  | obj {fields : List (Text × Json)} (distinct : (fields.map (·.1)).Nodup)
      (order : recordOrder fields = fields) (parts : ∀ f ∈ fields, f.2.Orderly) :
      Orderly (.obj fields)

/-- The text of an orderly value with finite numbers gives back the value, but for its numbers. -/
theorem Orderly.reread_eq {j : Json} (h : j.Orderly)
    (finite : ∀ x ∈ j.numbers, Number.isFinite x = true) :
    reread j = j.mapNumbers rereadNumber := by
  induction h with
  | null | bool | str => rfl
  | num x => rw [reread, if_pos (finite x List.mem_cons_self), mapNumbers]
  | @arr items _ ih =>
    rw [reread, rereadItems_eq_map, mapNumbers_arr, List.map_congr_left]
    exact fun item mem => ih item mem fun x inside => finite x (mem_numbers_item mem inside)
  | @obj fields distinct order _ ih =>
    have values : (fields.map fun f => (f.1, reread f.2)) =
        fields.map fun f => (f.1, f.2.mapNumbers rereadNumber) := by
      refine List.map_congr_left fun e mem => ?_
      rw [ih e mem fun x inside => finite x (mem_numbers_field mem inside)]
    rw [reread, rereadFields_eq_map, values, orderedFields, Table.ofEntries_eq, recordOrder_map,
      order, mapNumbers_obj]
    rwa [List.map_map]

/-! ## 4. Values that are read -/

/-- The fields of an object that is read, in their order. -/
theorem orderly_orderedFields {fields : List (Text × Json)} (parts : ∀ f ∈ fields, f.2.Orderly) :
    (Json.obj (orderedFields fields)).Orderly := by
  have perm := perm_recordOrder (Table.ofEntries fields).entries
  refine .obj ?_ (recordOrder_recordOrder _) fun f mem => ?_
  · exact (perm.map Prod.fst).nodup_iff.mpr (Table.nodup_keys_ofEntries fields)
  · exact parts f (Table.mem_ofEntries (perm.mem_iff.mp mem))

theorem orderly_of_word? {word t rest : Text} {value j : Json} (orderly : value.Orderly)
    (h : word? word value t = some (j, rest)) : j.Orderly := by
  unfold word? at h
  split at h
  · cases h
    exact orderly
  · cases h

theorem orderly_of_number? {t rest : Text} {j : Json} (h : number? t = some (j, rest)) :
    j.Orderly := by
  have body : ∀ {negative : Bool} {t : Text}, unsignedNumber? negative t = some (j, rest) →
      j.Orderly := by
    intro negative t h
    unfold unsignedNumber? at h
    obtain ⟨_, _, h⟩ := Option.bind_eq_some_iff.mp h
    obtain ⟨_, _, h⟩ := Option.bind_eq_some_iff.mp h
    obtain ⟨_, _, h⟩ := Option.bind_eq_some_iff.mp h
    cases h
    exact .num _
  unfold number? at h
  split at h
  · cases h
  · split at h
    · exact body h
    · exact body h

/-- Every reader of values makes orderly ones. -/
theorem orderly_of_readers (fuel : Nat) :
    (∀ {t rest : Text} {j : Json}, value? fuel t = some (j, rest) → j.Orderly) ∧
    (∀ {done : List Json} {t rest : Text} {j : Json}, (∀ item ∈ done, item.Orderly) →
      elements? fuel done t = some (j, rest) → j.Orderly) ∧
    (∀ {done : List (Text × Json)} {t rest : Text} {j : Json}, (∀ f ∈ done, f.2.Orderly) →
      members? fuel done t = some (j, rest) → j.Orderly) := by
  induction fuel with
  | zero => exact ⟨nofun, fun _ => nofun, fun _ => nofun⟩
  | succ fuel ih =>
    obtain ⟨value, elements, members⟩ := ih
    refine ⟨?_, ?_, ?_⟩
    · intro t rest j h
      rcases t with _ | ⟨u, t⟩
      · cases h
      rw [value?] at h
      split at h
      · obtain ⟨_, _, same⟩ := Option.map_eq_some_iff.mp h
        cases same
        exact .str _
      split at h
      · split at h
        · cases h
        · split at h
          · cases h
            exact .arr (by simp)
          · exact elements (by simp) h
      split at h
      · split at h
        · cases h
        · split at h
          · cases h
            exact .obj (by simp) (by simp [recordOrder]) (by simp)
          · exact members (by simp) h
      split at h
      · exact orderly_of_word? (.bool true) h
      split at h
      · exact orderly_of_word? (.bool false) h
      split at h
      · exact orderly_of_word? .null h
      · exact orderly_of_number? h
    · intro done t rest j parts h
      rw [elements?] at h
      split at h
      · cases h
      · next item after read =>
        have parts : ∀ item' ∈ item :: done, item'.Orderly :=
          List.forall_mem_cons.mpr ⟨value read, parts⟩
        split at h
        · cases h
        · split at h
          · exact elements parts h
          · split at h
            · cases h
              exact .arr fun item mem => parts item (List.mem_reverse.mp mem)
            · cases h
    · intro done t rest j parts h
      rw [members?] at h
      split at h
      · cases h
      split at h
      · split at h
        · cases h
        next name _ _ =>
        split at h
        · cases h
        split at h
        · split at h
          · cases h
          next item after read =>
          have parts : ∀ f ∈ (name, item) :: done, f.2.Orderly :=
            List.forall_mem_cons.mpr ⟨value read, parts⟩
          split at h
          · cases h
          · simp only at h
            split at h
            · exact members parts h
            · split at h
              · cases h
                exact orderly_orderedFields fun f mem => parts f (List.mem_reverse.mp mem)
              · cases h
        · cases h
      · cases h

/-- The value of a text is orderly. -/
theorem orderly_of_parse? {t : Text} {j : Json} (h : parse? t = some j) : j.Orderly := by
  unfold parse? at h
  split at h
  · next value rest read =>
    split at h
    · cases h
      exact (orderly_of_readers _).1 read
    · cases h
  · cases h

end VisualNovel.Json
