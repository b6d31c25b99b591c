import VisualNovel.Proofs.Number.Rounding
import VisualNovel.Proofs.Script.WellFormed
import VisualNovel.Proofs.Story.Change
import VisualNovel.Proofs.Story.SaveFile
import VisualNovel.Proofs.Story.SaveImage

/-!
States whose saves are accepted.

What the reader of save files checks beyond the shape of a snapshot holds of every state of a story:
the next command is counted or a great number, the zoom of the camera is not zero or less, a choice has
an option, no name occurs twice in a table, and messages are laid out as records. A state with this is
`State.Savable`, and a snapshot with it is `Snapshot.Savable`. Every change of a state keeps it, and
every snapshot that is read from a text has it.
-/

namespace VisualNovel

/-! ## 1. The number of the next command -/

namespace Ordinal

/-- A number that is counted, or a great one. -/
def Whole : Ordinal → Prop
  | .nth _ => True
  | .stray x => Number.Great x

theorem whole_ofNumber {x : Float} (great : Number.Great x) : (ofNumber x).Whole := by
  unfold ofNumber
  split
  · split
    · trivial
    · exact great
  · exact great

/-- What stands for a natural number is one. -/
theorem whole_of_toNat? {x : Float} (natural : (Number.toNat? (ofNumber x).number).isSome = true) :
    (ofNumber x).Whole := by
  unfold ofNumber at natural ⊢
  split at natural
  · next n whole =>
    split
    · trivial
    · next large => exact fun _ => ⟨n, whole, Nat.not_lt.mp large⟩
  · next none =>
    rw [number, none] at natural
    cases natural

variable {p : Ordinal}

theorem Whole.next (h : p.Whole) : p.next.Whole := by
  cases p with
  | nth n => trivial
  | stray x => exact whole_ofNumber h.add_one

theorem Whole.advance (h : p.Whole) (k : Nat) : (p.advance k).Whole := by
  induction k generalizing p with
  | zero => exact h
  | succ k ih => exact ih h.next

/-- A finite number of this kind is a natural one. -/
theorem Whole.isSome_toNat? (h : p.Whole) (finite : Number.isFinite p.number = true) :
    (Number.toNat? p.number).isSome = true := by
  cases p with
  | nth n =>
    rcases Nat.lt_or_ge n (2 ^ 53) with small | large
    · rw [number, Number.toNat?_ofNat small]
      rfl
    · obtain ⟨m, whole, -⟩ := Number.great_ofNat (by omega : 2 ^ 52 ≤ n) finite
      rw [number, whole]
      rfl
  | stray x =>
    obtain ⟨m, whole, -⟩ := h finite
    rw [number, whole]
    rfl

end Ordinal

/-! ## 2. Snapshots that are written in order -/

namespace Json

/-- A record whose fields are in order. -/
theorem orderly_record {fields : List (String × Json)}
    (inOrder : InOrder (fields.map fun f => Text.ofString f.1))
    (parts : ∀ f ∈ fields, f.2.Orderly) : (record fields).Orderly := by
  refine .obj ?_ (recordOrder_eq ?_) ?_
  · rw [List.map_map]
    exact inOrder.1
  · rw [List.forall_mem_map]
    exact fun f mem => inOrder.2 _ (List.mem_map_of_mem mem)
  · rw [List.forall_mem_map]
    exact parts

attribute [simp] Orderly.null Orderly.bool Orderly.num Orderly.str

@[simp] theorem orderly_arr {α : Type} {write : α → Json} {xs : List α} :
    (Json.arr (xs.map write)).Orderly ↔ ∀ x ∈ xs, (write x).Orderly := by
  constructor
  · rintro (_ | _ | _ | _ | ⟨parts⟩)
    exact fun x mem => parts _ (List.mem_map_of_mem mem)
  · exact fun each => .arr (List.forall_mem_map.mpr each)

@[simp] theorem orderly_orNull {α : Type} {write : α → Json} {x : Option α} :
    (orNull (x.map write)).Orderly ↔ ∀ y ∈ x, (write y).Orderly := by
  cases x <;> simp [orNull]

@[simp] theorem orderly_ofText? (t : Option Text) : (ofText? t).Orderly := by
  simp [ofText?]

@[simp] theorem orderly_ofNumber? (x : Option Float) : (ofNumber? x).Orderly := by
  simp [ofNumber?]

@[simp] theorem orderly_ofPoint (p : Point) : (ofPoint p).Orderly := .arr (by simp)

@[simp] theorem orderly_ofRect (r : Rect) : (ofRect r).Orderly := .arr (by simp)

@[simp] theorem orderly_ofPoints (ps : List Point) : (ofPoints ps).Orderly := by
  simp [ofPoints]

end Json

namespace Snapshot

/-- A table is a record in order if its names are apart. -/
theorem orderly_tableJson {α : Type} {t : Table α} {write : α → Json} (distinct : t.keys.Nodup)
    (parts : ∀ v ∈ t.values, (write v).Orderly) : (tableJson t write).Orderly := by
  have perm := perm_recordOrder t.entries
  refine .obj ?_ ?_ ?_
  · rw [List.map_map]
    exact (perm.map Prod.fst).nodup_iff.mpr distinct
  · rw [recordOrder_map, recordOrder_recordOrder]
  · rw [List.forall_mem_map]
    exact fun e mem => parts _ (List.mem_map_of_mem (perm.mem_iff.mp mem))

theorem orderly_backgroundJson (b : SavedBackground) : (backgroundJson b).Orderly :=
  Json.orderly_record (by simp only [List.map]; decide) (by simp)

theorem orderly_transitionJson (t : Transition Float) : (transitionJson t).Orderly :=
  Json.orderly_record (by simp only [List.map]; decide) (by simp)

theorem orderly_spriteJson (s : Sprite Float) : (spriteJson s).Orderly :=
  Json.orderly_record (by simp only [List.map]; decide)
    (by simp [orderly_transitionJson])

theorem orderly_itemJson (i : Item) : (itemJson i).Orderly :=
  Json.orderly_record (by simp only [List.map]; decide) (by simp)

theorem orderly_meterJson (m : Meter) : (meterJson m).Orderly :=
  Json.orderly_record (by simp only [List.map]; decide) (by simp)

theorem orderly_buttonJson (b : HudButton) : (buttonJson b).Orderly :=
  Json.orderly_record (by simp only [List.map]; decide) (by simp)

theorem orderly_musicJson (m : Music) : (musicJson m).Orderly :=
  Json.orderly_record (by simp only [List.map]; decide) (by simp)

theorem orderly_option (o : ChoiceOption) : (Json.arr [.str o.text, .str o.target]).Orderly :=
  .arr (by simp)

theorem orderly_waitingJson (w : Waiting Float) : (waitingJson w).Orderly := by
  cases w with
  | choice c =>
    exact Json.orderly_record (by simp only [List.map]; decide) (by simp [orderly_option])
  | question q => exact Json.orderly_record (by simp only [List.map]; decide) (by simp)
  | wait w =>
    cases w <;> exact Json.orderly_record (by simp only [List.map]; decide) (by simp)

theorem orderly_lineJson (l : SavedLine) : (lineJson l).Orderly :=
  Json.orderly_record (by simp only [List.map]; decide) (by simp)

theorem orderly_characterJson {c : Character} (distinct : c.sprites.keys.Nodup) :
    (characterJson c).Orderly := by
  have sprites : (tableJson c.sprites Json.str).Orderly := orderly_tableJson distinct (by simp)
  exact Json.orderly_record (by simp only [List.map]; decide) (by simp [sprites])

theorem orderly_hotspotJson (h : Hotspot) : (hotspotJson h).Orderly := by
  obtain ⟨name, shape, target⟩ := h
  cases shape with
  | rect area =>
    simp only [hotspotJson]
    exact Json.orderly_record (by simp only [List.map]; decide) (by simp)
  | polygon corners =>
    simp only [hotspotJson]
    exact Json.orderly_record (by simp only [List.map]; decide) (by simp)

theorem orderly_mapPointJson (p : MapPoint) : (mapPointJson p).Orderly :=
  Json.orderly_record (by simp only [List.map]; decide) (by simp)

theorem orderly_mapJson (m : MapOverlay) : (mapJson m).Orderly :=
  Json.orderly_record (by simp only [List.map]; decide) (by simp [orderly_mapPointJson])

theorem orderly_cameraJson (c : Camera) : (cameraJson c).Orderly :=
  Json.orderly_record (by simp only [List.map]; decide) (by simp)

theorem orderly_phoneJson {p : Phone} (laid : ∀ m ∈ p.messages, m.Laid) :
    (phoneJson p).Orderly := by
  have messages : ∀ m ∈ p.messages, m.toJson.Orderly := fun m mem => (laid m mem).orderly
  exact Json.orderly_record (by simp only [List.map]; decide) (by simpa using messages)

theorem orderly_ofValue (v : Value) : (Json.ofValue v).Orderly := by
  cases v <;> simp [Json.ofValue]

/-! ## 3. Snapshots that are accepted -/

variable {τ : Type}

/-- What the reader of save files asks of a snapshot with finite numbers, and what keeps its text in
order. -/
structure Savable (data : Snapshot τ) : Prop where
  index : data.index.Whole
  zoom : ¬ data.camera.zoom ≤ 0.0
  options : ∀ c, data.waiting = some (.choice c) → c.options ≠ []
  vars : data.vars.keys.Nodup
  sprites : data.sprites.keys.Nodup
  inventory : data.inventory.keys.Nodup
  meters : data.meters.keys.Nodup
  characters : data.characters.keys.Nodup
  pictures : ∀ c ∈ data.characters.values, c.sprites.keys.Nodup
  messages : ∀ p ∈ data.phone, ∀ m ∈ p.messages, m.Laid

variable {data : Snapshot Float}

theorem Savable.orderly (h : data.Savable) : data.toJson.Orderly := by
  have vars := orderly_tableJson h.vars fun v _ => orderly_ofValue v
  have sprites := orderly_tableJson h.sprites fun s _ => orderly_spriteJson s
  have inventory := orderly_tableJson h.inventory fun i _ => orderly_itemJson i
  have meters := orderly_tableJson h.meters fun m _ => orderly_meterJson m
  have characters := orderly_tableJson h.characters fun c mem =>
    orderly_characterJson (h.pictures c mem)
  refine Json.orderly_record (by simp only [fields, List.map]; decide) ?_
  simp [fields, orderly_backgroundJson, vars, sprites, inventory, meters, orderly_buttonJson,
    orderly_musicJson, orderly_waitingJson, orderly_lineJson, characters, orderly_hotspotJson,
    orderly_mapJson, orderly_cameraJson]
  exact fun p saved => orderly_phoneJson (h.messages p saved)

theorem mem_numbers_field {field : String × Json} (mem : field ∈ data.fields) {x : Float}
    (inside : x ∈ field.2.numbers) : x ∈ data.toJson.numbers :=
  Json.mem_numbers_field (List.mem_map_of_mem mem) inside

theorem hasOptions_eq_true {waiting : Option (Waiting Float)} :
    hasOptions waiting = true ↔ ∀ c, waiting = some (.choice c) → c.options ≠ [] := by
  rcases waiting with _ | _ | c | _ <;> simp [hasOptions]

/-- A snapshot with finite numbers is accepted, also with the signs of its zeros changed, and what is
accepted is written like the snapshot up to such signs. -/
theorem Savable.ofJson?_mapNumbers (h : data.Savable) {f : Float → Float}
    (finite : ∀ x ∈ data.toJson.numbers, Number.isFinite x = true)
    (same : ∀ x ∈ data.toJson.numbers, Number.unsigned (f x) = Number.unsigned x) :
    ∃ found, ofJson? (data.toJson.mapNumbers f) = some found ∧
      found.toJson.unsigned = data.toJson.unsigned := by
  have stays : ∀ x ∈ data.toJson.numbers, Number.isFinite (f x) = true := fun x inside => by
    rw [← Number.isFinite_unsigned, same x inside, Number.isFinite_unsigned, finite x inside]
  -- Only the numbers of the snapshot matter, so that the change may be one to finite numbers.
  obtain ⟨g, everywhere, agrees⟩ : ∃ g : Float → Float, (∀ x, Number.isFinite (g x) = true) ∧
      ∀ x ∈ data.toJson.numbers, f x = g x := by
    refine ⟨fun x => if Number.isFinite (f x) = true then f x else 0.0, ?_, ?_⟩
    · intro x
      beta_reduce
      split
      · assumption
      · decide
    · exact fun x inside => (if_pos (stays x inside)).symm
  rw [Json.mapNumbers_congr agrees]
  have exact : ∀ x ∈ data.toJson.numbers, Number.unsigned (g x) = Number.unsigned x :=
    fun x inside => by rw [← agrees x inside, same x inside]
  have version : version ∈ data.toJson.numbers :=
    mem_numbers_field (List.mem_of_getElem? (i := 0) rfl) List.mem_cons_self
  have index : data.index.number ∈ data.toJson.numbers :=
    mem_numbers_field (List.mem_of_getElem? (i := 2) rfl) List.mem_cons_self
  have zoom : data.camera.zoom ∈ data.toJson.numbers :=
    mem_numbers_field (List.mem_of_getElem? (i := 19) rfl)
      (Json.mem_numbers_field (List.mem_of_getElem? (i := 2) rfl) List.mem_cons_self)
  obtain ⟨found, read, written, place, view, options⟩ :=
    regains_snapshot everywhere h.messages (exact _ version)
  have sameVersion : g Snapshot.version = Snapshot.version :=
    Number.eq_of_unsigned (exact _ version) (by decide)
  have natural : (Number.toNat? found.index.number).isSome = true := by
    rw [place, ← Number.toNat?_unsigned, Number.unsigned_number_ofNumber, exact _ index,
      Number.toNat?_unsigned]
    exact h.index.isSome_toNat? (finite _ index)
  have positive : 0.0 < data.camera.zoom := by
    by_contra other
    exact h.zoom ((Number.le_iff_not_lt (by decide)
      (Number.ordered_of_isFinite (finite _ zoom))).mpr other)
  have ahead : 0.0 < found.camera.zoom := by
    rw [view, Number.eq_of_unsigned (exact _ zoom) (Number.toNat?_ne_zero positive)]
    exact positive
  have chosen : hasOptions found.waiting = true := options ▸ hasOptions_eq_true.mpr h.options
  have number : (data.toJson.mapNumbers g).need "save_version" Json.num? =
      some Snapshot.version := by
    simp [toJson, fields, List.lookup, Json.num?, sameVersion]
  refine ⟨found, ?_, written.trans (Json.unsigned_mapNumbers exact)⟩
  have current : (Snapshot.version == Snapshot.version) = true := by decide
  simp [ofJson?, number, read, natural, ahead, chosen, current]

end Snapshot

/-! ## 4. Snapshots that are read -/

namespace Json

section Parts

variable {α : Type} {j : Json} {name : String} {read : Json → Option α} {a : α}

theorem Orderly.field? (h : j.Orderly) {name : Text} {value : Json}
    (found : j.field? name = some value) : value.Orderly := by
  cases h with
  | obj distinct order parts => exact parts _ (Table.mem_of_lookup found)
  | _ => cases found

theorem Orderly.need (h : j.Orderly) (found : j.need name read = some a) :
    ∃ value, value.Orderly ∧ read value = some a := by
  obtain ⟨value, there, reads⟩ := Option.bind_eq_some_iff.mp found
  exact ⟨value, h.field? there, reads⟩


theorem Orderly.allow (h : j.Orderly) (found : j.allow name read = some (some a)) :
    ∃ value, value.Orderly ∧ read value = some a := by
  unfold Json.allow at found
  split at found
  · cases found
  · cases found
  · next value _ there =>
    obtain ⟨b, reads, same⟩ := Option.map_eq_some_iff.mp found
    cases same
    exact ⟨value, h.field? there, reads⟩

/-- What a list is read from. -/
theorem exists_of_mapM {β : Type} {f : β → Option α} {xs : List β} {ys : List α}
    (h : xs.mapM f = some ys) : ∀ y ∈ ys, ∃ x ∈ xs, f x = some y := by
  induction xs generalizing ys with
  | nil =>
    cases h
    exact nofun
  | cons x rest ih =>
    rw [List.mapM_cons] at h
    obtain ⟨first, reads, h⟩ := Option.bind_eq_some_iff.mp h
    obtain ⟨others, more, h⟩ := Option.bind_eq_some_iff.mp h
    cases h
    rw [List.forall_mem_cons]
    refine ⟨⟨x, List.mem_cons_self, reads⟩, fun y mem => ?_⟩
    obtain ⟨x, inside, same⟩ := ih more y mem
    exact ⟨x, List.mem_cons_of_mem _ inside, same⟩

theorem Orderly.list? (h : j.Orderly) {xs : List α} (found : Json.list? read j = some xs) :
    ∀ x ∈ xs, ∃ value, value.Orderly ∧ read value = some x := by
  cases h with
  | arr parts =>
    intro x mem
    obtain ⟨value, inside, reads⟩ := exists_of_mapM found x mem
    exact ⟨value, parts value inside, reads⟩
  | _ => cases found

theorem Orderly.table? (h : j.Orderly) {read : Text → Json → Option α} {t : Table α}
    (found : Json.table? read j = some t) :
    t.keys.Nodup ∧ ∀ v ∈ t.values, ∃ name value, value.Orderly ∧ read name value = some v := by
  cases h with
  | obj distinct order parts =>
    obtain ⟨entries, each, rfl⟩ := Option.map_eq_some_iff.mp found
    refine ⟨?_, ?_⟩
    · rw [Table.keys, Snapshot.keys_of_mapM each]
      exact distinct
    · intro v mem
      obtain ⟨e, inside, rfl⟩ := List.mem_map.mp mem
      obtain ⟨f, there, reads⟩ := exists_of_mapM each e inside
      obtain ⟨b, found, rfl⟩ := Option.map_eq_some_iff.mp reads
      exact ⟨f.1, f.2, parts f there, found⟩
  | _ => cases found

end Parts

end Json

namespace Snapshot

theorem laid_of_message? {j : Json} (orderly : j.Orderly) {m : PhoneMessage}
    (h : message? j = some m) : m.Laid := by
  cases orderly with
  | obj distinct order parts =>
    obtain ⟨same, side, text⟩ := toJson_of_message? distinct h
    exact ⟨same ▸ .obj distinct order parts, side, text⟩
  | _ => cases h

theorem laid_of_phone? {j : Json} (orderly : j.Orderly) {p : Phone} (h : phone? j = some p) :
    ∀ m ∈ p.messages, m.Laid := by
  unfold phone? at h
  obtain ⟨_, _, h⟩ := Option.bind_eq_some_iff.mp h
  obtain ⟨_, _, h⟩ := Option.bind_eq_some_iff.mp h
  obtain ⟨messages, list, h⟩ := Option.bind_eq_some_iff.mp h
  obtain ⟨_, _, h⟩ := Option.bind_eq_some_iff.mp h
  cases h
  obtain ⟨value, there, reads⟩ := orderly.need list
  intro m mem
  obtain ⟨value, ordered, reads⟩ := there.list? reads m (List.mem_toArray.mp mem)
  exact laid_of_message? ordered reads

theorem nodup_of_character? {j : Json} (orderly : j.Orderly) {ident : Text} {c : Character}
    (h : character? .file ident j = some c) : c.sprites.keys.Nodup := by
  unfold character? at h
  iterate 8 obtain ⟨_, _, h⟩ := Option.bind_eq_some_iff.mp h
  obtain ⟨sprites, table, h⟩ := Option.bind_eq_some_iff.mp h
  cases h
  obtain ⟨value, there, reads⟩ := orderly.need table
  exact (there.table? reads).1

/-- Every snapshot that is read from an orderly value is accepted again. -/
theorem savable_of_ofJson? {j : Json} (orderly : j.Orderly) {data : Snapshot Float}
    (h : ofJson? j = some data) : data.Savable := by
  unfold ofJson? at h
  obtain ⟨_, _, h⟩ := Option.bind_eq_some_iff.mp h
  obtain ⟨again, read, h⟩ := Option.bind_eq_some_iff.mp h
  obtain ⟨valid, same⟩ := Option.ite_none_right_eq_some.mp h
  cases same
  simp only [Bool.and_eq_true, decide_eq_true_eq] at valid
  obtain ⟨⟨⟨_, natural⟩, ahead⟩, options⟩ := valid
  unfold read? at read
  obtain ⟨_, _, read⟩ := Option.bind_eq_some_iff.mp read
  obtain ⟨index, hindex, read⟩ := Option.bind_eq_some_iff.mp read
  obtain ⟨_, _, read⟩ := Option.bind_eq_some_iff.mp read
  obtain ⟨vars, hvars, read⟩ := Option.bind_eq_some_iff.mp read
  obtain ⟨sprites, hsprites, read⟩ := Option.bind_eq_some_iff.mp read
  obtain ⟨inventory, hinventory, read⟩ := Option.bind_eq_some_iff.mp read
  iterate 2 obtain ⟨_, _, read⟩ := Option.bind_eq_some_iff.mp read
  obtain ⟨meters, hmeters, read⟩ := Option.bind_eq_some_iff.mp read
  iterate 5 obtain ⟨_, _, read⟩ := Option.bind_eq_some_iff.mp read
  obtain ⟨characters, hcharacters, read⟩ := Option.bind_eq_some_iff.mp read
  iterate 4 obtain ⟨_, _, read⟩ := Option.bind_eq_some_iff.mp read
  obtain ⟨phone, hphone, read⟩ := Option.bind_eq_some_iff.mp read
  cases read
  obtain ⟨_, _, number⟩ := orderly.need hindex
  obtain ⟨x, _, rfl⟩ := Option.map_eq_some_iff.mp number
  obtain ⟨_, vorder, vread⟩ := orderly.need hvars
  obtain ⟨_, sorder, sread⟩ := orderly.need hsprites
  obtain ⟨_, iorder, iread⟩ := orderly.need hinventory
  obtain ⟨_, morder, mread⟩ := orderly.need hmeters
  obtain ⟨_, corder, cread⟩ := orderly.need hcharacters
  exact
    { index := Ordinal.whole_of_toNat? natural
      zoom := Number.not_le_of_lt ahead
      options := hasOptions_eq_true.mp options
      vars := (vorder.table? vread).1
      sprites := (sorder.table? sread).1
      inventory := (iorder.table? iread).1
      meters := (morder.table? mread).1
      characters := (corder.table? cread).1
      pictures := fun c mem => by
        obtain ⟨ident, value, ordered, reads⟩ := (corder.table? cread).2 c mem
        exact nodup_of_character? ordered reads
      messages := by
        rintro p rfl
        obtain ⟨value, ordered, reads⟩ := orderly.allow hphone
        exact laid_of_phone? ordered reads }

theorem Savable.mapTime {τ σ : Type} {data : Snapshot τ} (h : data.Savable) (f : τ → σ) :
    (data.mapTime f).Savable := by
  refine { h with sprites := (Table.keys_map (·.mapTime f) data.sprites).symm ▸ h.sprites, options := ?_ }
  intro c waiting
  obtain ⟨w, before, same⟩ := Option.map_eq_some_iff.mp waiting
  cases w with
  | choice old =>
    cases same
    exact h.options old before
  | wait w => cases same
  | question q => cases same

end Snapshot

/-! ## 5. States -/

/-- A state whose snapshots are accepted, if their numbers are finite. -/
structure State.Savable {τ : Type} (s : State τ) : Prop where
  index : s.index.Whole
  zoom : ¬ s.camera.zoom ≤ 0.0
  options : ∀ c ∈ s.choice, c.options ≠ []
  vars : s.vars.keys.Nodup
  sprites : s.sprites.keys.Nodup
  inventory : s.inventory.keys.Nodup
  meters : s.meters.keys.Nodup
  characters : s.characters.keys.Nodup
  pictures : ∀ c ∈ s.characters.values, c.sprites.keys.Nodup
  messages : ∀ m ∈ s.phone.messages, m.Laid

/-- A camera at rest. -/
theorem Camera.zoom_empty : ¬ ({} : Camera).zoom ≤ 0.0 := by
  decide

/-- The state of a story that has not begun. -/
theorem State.savable_empty {τ : Type} : ({} : State τ).Savable where
  index := trivial
  zoom := Camera.zoom_empty
  options _ := nofun
  vars := List.nodup_nil
  sprites := List.nodup_nil
  inventory := List.nodup_nil
  meters := List.nodup_nil
  characters := List.nodup_nil
  pictures := nofun
  messages := nofun

namespace Snapshot

variable {τ : Type} [Clock τ]

theorem savable_ofState {s : State τ} (h : s.Savable) (script : Text) (now : τ) :
    (ofState s script now).Savable where
  index := h.index
  zoom := h.zoom
  options c waiting := by
    change waitingOf s now = some (.choice c) at waiting
    unfold waitingOf at waiting
    split at waiting
    · next choice pending =>
      cases waiting
      exact h.options choice pending
    · cases waiting
    · cases waiting
    · cases waiting
  vars := h.vars
  sprites := Table.nodup_keys_recordEntries ((Table.keys_map _ _).symm ▸ h.sprites)
  inventory := Table.nodup_keys_recordEntries h.inventory
  meters := Table.nodup_keys_recordEntries h.meters
  characters := Table.nodup_keys_recordEntries h.characters
  pictures c mem := by
    obtain ⟨e, inside, rfl⟩ := List.mem_map.mp mem
    exact h.pictures _ (List.mem_map_of_mem (Table.mem_of_mem_recordEntries inside))
  messages p saved := by
    change phoneOf s.phone = some p at saved
    unfold phoneOf at saved
    split at saved
    · cases saved
      exact h.messages
    · cases saved

theorem Savable.toState {data : Snapshot τ} (h : data.Savable) (now : τ) :
    (data.toState now).Savable where
  index := h.index
  zoom := h.zoom
  options c pending := by
    change choiceOf data.waiting now = some c at pending
    unfold choiceOf at pending
    split at pending
    · next choice waiting =>
      cases pending
      exact h.options choice waiting
    · cases pending
  vars := h.vars
  sprites := (Table.keys_mapNamed _ _).symm ▸ h.sprites
  inventory := h.inventory
  meters := h.meters
  characters := (Table.keys_mapNamed _ _).symm ▸ h.characters
  pictures c mem := by
    obtain ⟨e, inside, rfl⟩ := List.mem_map.mp mem
    obtain ⟨old, there, rfl⟩ := List.mem_map.mp inside
    exact h.pictures old.2 (List.mem_map_of_mem there)
  messages := by
    cases saved : data.phone with
    | none => simp [Snapshot.toState, saved]
    | some p =>
      simp only [Snapshot.toState, saved, Option.getD_some]
      exact h.messages p saved

end Snapshot

/-! ## 6. Changes -/

theorem PhoneMessage.Laid.plain (side : Side) (text : Text) :
    ({ side, text } : PhoneMessage).Laid where
  orderly := .obj (by simp [PhoneMessage.field, Text.ofString_inj])
    (recordOrder_eq (by simp [PhoneMessage.field]; decide)) (by simp [PhoneMessage.field])
  side := by simp
  text := by simp

namespace State

variable {τ : Type} {s t : State τ} {program : Program}

theorem Savable.removeSprite (h : s.Savable) (id : Text) : (s.removeSprite id).Savable :=
  { h with sprites := Table.nodup_keys_erase h.sprites id }

theorem Savable.hideSprite (h : s.Savable) (name : Text) (transition : Option (Transition τ)) :
    (s.hideSprite name transition).Savable := by
  unfold State.hideSprite
  split
  · split
    · exact { h with sprites := (Table.keys_modify _ _ _).symm ▸ h.sprites }
    · exact h.removeSprite name
  · exact h.removeSprite name

theorem Savable.animate (h : s.Savable) (name : Text) (sprite : Sprite τ) (goal : AnimationGoal)
    (seconds : Float) (ease : Ease) (now : τ) :
    (s.animate name sprite goal seconds ease now).Savable := by
  unfold State.animate
  simp only
  split
  · exact { h with sprites := Table.nodup_keys_set h.sprites name _ }
  · exact { h with }

theorem Savable.moveSprites [Clock τ] (h : s.Savable) (now : τ) : (s.moveSprites now).Savable := by
  have entries : ∀ (entries : List (Text × Tracks τ)) (stage : Table (Sprite τ) × Table (Tracks τ)),
      stage.1.keys.Nodup → (entries.foldl (advanceEntry now) stage).1.keys.Nodup := by
    intro entries
    induction entries with
    | nil => exact fun _ h => h
    | cons entry rest ih =>
      intro stage distinct
      refine ih _ ?_
      unfold advanceEntry
      split
      · exact distinct
      · exact Table.nodup_keys_set distinct _ _
  exact { h with sprites := entries s.tracks.entries (s.sprites, s.tracks) h.sprites }

theorem Savable.addItem (h : s.Savable) (id : Text) (item : Item) : (s.addItem id item).Savable := by
  refine { h with inventory := ?_ }
  unfold State.addItem
  simp only
  split
  · exact Table.nodup_keys_set h.inventory _ _
  · exact Table.nodup_keys_set h.inventory _ _

theorem Savable.takeItem (h : s.Savable) (id : Text) (amount : Float) :
    (s.takeItem id amount).Savable := by
  unfold State.takeItem
  split
  · exact h
  · simp only
    refine { h with inventory := ?_ }
    simp only
    split
    · exact Table.nodup_keys_erase h.inventory id
    · exact Table.nodup_keys_set h.inventory _ _

/-- A character whose pictures are kept under names of their own. -/
theorem Savable.setCharacter (h : s.Savable) {character : Character}
    (distinct : character.sprites.keys.Nodup) (ident : Text) :
    ({ s with characters := s.characters.set ident character } : State τ).Savable :=
  { h with
    characters := Table.nodup_keys_set h.characters _ _
    pictures := fun c mem => by
      rcases Table.mem_values_set mem with rfl | old
      · exact distinct
      · exact h.pictures c old }

theorem Savable.introduceAll (h : s.Savable) (formed : program.WellFormed) :
    (s.introduceAll program).Savable := by
  unfold State.introduceAll
  rw [← Array.foldl_toList]
  have pictures : ∀ c, .define c ∈ program.commands.toList → c.sprites.keys.Nodup := fun c mem =>
    have named : Character.WellFormed Text.IsName _ :=
      formed.commands _ (Array.mem_toList_iff.mp mem)
    named.distinct
  generalize program.commands.toList = commands at pictures
  induction commands generalizing s with
  | nil => exact h
  | cons command rest ih =>
    have later := fun c mem => pictures c (List.mem_cons_of_mem command mem)
    cases command with
    | define c =>
      refine ih ?_ later
      change (s.introduce c).Savable
      unfold State.introduce
      split
      · exact h
      · exact h.setCharacter (pictures c List.mem_cons_self) _
    | _ => exact ih h later

variable [Clock τ]

/-- Every change of a state keeps its snapshots acceptable. -/
theorem Change.savable (formed : program.WellFormed) (change : s.Change program t)
    (h : s.Savable) : t.Savable := by
  cases change with
  | lookAt mem => exact { h with zoom := formed.commands _ mem }
  | lookAhead => exact { h with zoom := Camera.zoom_empty }
  | placeSprite => exact { h with sprites := Table.nodup_keys_set h.sprites _ _ }
  | hideSprite name transition => exact h.hideSprite name transition
  | removeSprite id => exact h.removeSprite id
  | clearSprites => exact { h with sprites := List.nodup_nil }
  | @animate name sprite found goal seconds ease mem now =>
    exact h.animate name sprite goal seconds ease now
  | moveSprites now => exact h.moveSprites now
  | setVariable name value => exact { h with vars := Table.nodup_keys_set h.vars _ _ }
  | refreshMeter name => exact { h with meters := (Table.keys_modify _ _ _).symm ▸ h.meters }
  | setMeter named meter => exact { h with meters := Table.nodup_keys_set h.meters _ _ }
  | eraseMeter name => exact { h with meters := Table.nodup_keys_erase h.meters _ }
  | clearMeters => exact { h with meters := List.nodup_nil }
  | addItem named item => exact h.addItem _ item
  | takeItem id amount => exact h.takeItem id amount
  | clearItems => exact { h with inventory := List.nodup_nil }
  | define mem =>
    have named : Character.WellFormed Text.IsName _ := formed.commands _ mem
    exact h.setCharacter named.distinct _
  | offer free inside mem =>
    refine { h with options := ?_ }
    rintro c ⟨⟩
    have options := (formed.commands _ mem).1
    simpa using options
  | turn pending =>
    have before := h.options _ pending
    refine { h with options := ?_ }
    rintro c ⟨⟩
    exact before
  | choose => exact { h with options := by rintro c ⟨⟩ }
  | openPhone | closePhone => exact { h with messages := by simp }
  | message free side text =>
    refine { h with messages := fun m mem => ?_ }
    rcases Array.mem_push.mp mem with old | rfl
    · exact h.messages m old
    · exact .plain side text
  | showMap => exact { h with index := h.index.advance _ }
  | next => exact { h with index := h.index.next }
  | goto => exact { h with index := trivial }
  | plain | stopAll | stopSprite | say | silence | ask | edit | answer | hold | release | readMessage | mapPoint | closeMap
  | hotspot | eraseHotspot | clearHotspots | button | eraseButton | clearButtons => exact { h with }

end State
end VisualNovel
