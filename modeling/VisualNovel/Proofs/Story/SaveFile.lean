import VisualNovel.Proofs.FileTree
import VisualNovel.Proofs.Json.Records
import VisualNovel.Proofs.Number.Whole
import VisualNovel.Proofs.Story.Snapshot
import VisualNovel.Story.Snapshot.Store

/-!
What a save file gives back.

A save file is read field by field. `Snapshot.Reread` says what a snapshot that is read tells of the
one that was written: the names in its tables, what is waited for, and where its targets lead.
`FileTree.Saves` says that files hold nothing but their first texts and saves of a kind, so that what
is loaded from them was written by the story (`FileTree.Saves.load`).
-/

namespace VisualNovel
namespace Snapshot

/-! ## 1. Fields -/

/-- The fields of a save file keep their order. -/
theorem inOrder_fields (data : Snapshot Float) :
    Json.InOrder (data.fields.map fun f => Text.ofString f.1) := by
  simp only [fields, List.map]
  decide

/-- What is read from a save file, one field after the other. -/
theorem read?_reread (data : Snapshot Float) :
    read? .file (Json.reread data.toJson) = do
      let index ← (Json.finite? (Json.reread (.num data.index.number))).map Ordinal.ofNumber
      let background ← background? .file (Json.reread (backgroundJson data.background))
      let vars ← Json.table? (fun _ => Json.storyValue? Json.finite?)
        (Json.reread (tableJson data.vars Json.ofValue))
      let sprites ← Json.table? (sprite? .file) (Json.reread (tableJson data.sprites spriteJson))
      let inventory ← Json.table? (fun _ => item? .file)
        (Json.reread (tableJson data.inventory itemJson))
      let inventoryPage ← Json.finite? (Json.reread (.num data.inventoryPage))
      let meters ← Json.table? (fun _ => meter? .file)
        (Json.reread (tableJson data.meters meterJson))
      let hud ← Json.list? (button? .file) (Json.reread (.arr (data.hud.map buttonJson)))
      let music ← Json.orNone (music? .file) (Json.reread (.orNull (data.music.map musicJson)))
      let echo ← Json.orNone Json.text? (Json.reread (.ofText? data.echo))
      let waiting ← Json.orNone (waiting? .file)
        (Json.reread (.orNull (data.waiting.map waitingJson)))
      let dialogue ← Json.orNone (line? .file) (Json.reread (.orNull (data.dialogue.map lineJson)))
      let characters ← Json.table? (character? .file)
        (Json.reread (tableJson data.characters characterJson))
      let hotspots ← Json.list? (hotspot? .file)
        (Json.reread (.arr (data.hotspots.map hotspotJson)))
      let map ← map? .file (Json.reread (mapJson data.map))
      let camera ← camera? .file (Json.reread (cameraJson data.camera))
      let phone ← Json.orNone phone? (Json.reread (.orNull (data.phone.map phoneJson)))
      return { data with index, background, vars, sprites, inventory, inventoryPage, meters, hud,
                         music, echo, waiting, dialogue, characters, hotspots, map, camera,
                         phone } := by
  have inOrder := inOrder_fields data
  have nullable : Rules.file.complete = true := rfl
  have number : Rules.file.number = Json.finite? := rfl
  have at' (i : Nat) {f : String × Json} (h : data.fields[i]? = some f) : f ∈ data.fields :=
    List.mem_of_getElem? h
  unfold read? toJson
  simp only [Rules.orNull, nullable, number, if_true, 
    Json.need_reread inOrder (at' 1 rfl), Json.need_reread inOrder (at' 2 rfl),
    Json.need_reread inOrder (at' 3 rfl), Json.need_reread inOrder (at' 4 rfl),
    Json.need_reread inOrder (at' 5 rfl), Json.need_reread inOrder (at' 6 rfl),
    Json.need_reread inOrder (at' 7 rfl), Json.need_reread inOrder (at' 8 rfl),
    Json.need_reread inOrder (at' 9 rfl), Json.need_reread inOrder (at' 10 rfl),
    Json.needOrNull_reread inOrder (at' 11 rfl), Json.allow_reread inOrder (at' 12 rfl),
    Json.needOrNull_reread inOrder (at' 13 rfl), Json.allow_reread inOrder (at' 14 rfl),
    Json.need_reread inOrder (at' 15 rfl), Json.need_reread inOrder (at' 16 rfl),
    Json.need_reread inOrder (at' 17 rfl), Json.need_reread inOrder (at' 18 rfl),
    Json.need_reread inOrder (at' 19 rfl), Json.allow_reread inOrder (at' 20 rfl)]
  rfl

/-! ## 2. Tables and lists -/

theorem keys_of_mapM {α : Type} {read : Text → Json → Option α} {fields : List (Text × Json)}
    {entries : List (Text × α)}
    (h : (fields.mapM fun f => (read f.1 f.2).map (f.1, ·)) = some entries) :
    entries.map (·.1) = fields.map (·.1) := by
  induction fields generalizing entries with
  | nil =>
    cases h
    rfl
  | cons f rest ih =>
    rw [List.mapM_cons] at h
    simp only [Option.bind_eq_bind, Option.bind_eq_some_iff, Option.map_eq_some_iff] at h
    obtain ⟨first, ⟨value, _, rfl⟩, others, found, same⟩ := h
    cases same
    rw [List.map_cons, List.map_cons, ih found]

/-- What every entry of a list keeps, the list keeps. -/
theorem map_of_mapM {α β γ : Type} {read : α → Option β} {f : α → γ} {g : β → γ} {xs : List α}
    {ys : List β} (each : ∀ x y, read x = some y → g y = f x) (h : xs.mapM read = some ys) :
    ys.map g = xs.map f := by
  induction xs generalizing ys with
  | nil =>
    cases h
    rfl
  | cons x rest ih =>
    rw [List.mapM_cons] at h
    simp only [Option.bind_eq_bind, Option.bind_eq_some_iff] at h
    obtain ⟨first, found, others, more, same⟩ := h
    cases same
    rw [List.map_cons, List.map_cons, each x first found, ih more]

/-- The names of a table are found again. -/
theorem keys_table? {α β : Type} {t : Table α} (worded : t.Worded) {write : α → Json}
    {read : Text → Json → Option β} {t' : Table β}
    (h : Json.table? read (Json.reread (tableJson t write)) = some t') : t'.keys = t.keys := by
  have plain : ∀ e ∈ t.entries, indexName? e.1 = none := by
    intro e mem
    exact indexName?_of_isWord (worded.word e.1 (List.mem_map_of_mem mem))
  have names : (t.entries.map fun e => (e.1, write e.2)).map (·.1) = t.keys := by
    rw [List.map_map]
    rfl
  have inOrder : Json.InOrder ((t.entries.map fun e => (e.1, write e.2)).map (·.1)) := by
    rw [names]
    exact ⟨worded.distinct, fun name mem => indexName?_of_isWord (worded.word name mem)⟩
  rw [tableJson, recordOrder_eq plain, Json.reread_obj inOrder] at h
  obtain ⟨entries, found, rfl⟩ := Option.map_eq_some_iff.mp h
  rw [Table.keys, keys_of_mapM found, List.map_map]
  exact names

/-- What every entry keeps in the file, a list keeps. -/
theorem map_list? {α β γ : Type} {read : Json → Option β} {write : α → Json} {f : α → γ} {g : β → γ}
    {xs : List α} {found : List β}
    (each : ∀ x y, read (Json.reread (write x)) = some y → g y = f x)
    (h : Json.list? read (Json.reread (.arr (xs.map write))) = some found) :
    found.map g = xs.map f := by
  rw [Json.reread, Json.rereadItems_eq_map, List.map_map] at h
  change (xs.map (Json.reread ∘ write)).mapM read = some found at h
  rw [List.mapM_map] at h
  exact map_of_mapM each h

/-! ## 3. What is waited for, and the phone -/

/-- A count is found again in the file. -/
theorem ofNumber_rereadNumber {k : Nat} (small : k < Ordinal.bound) :
    Ordinal.ofNumber (Json.rereadNumber (Float.ofNat k)) = .nth k := by
  have less : k < 2 ^ 52 := small
  have whole : Number.toNat? (Float.ofNat k) = some k := Number.toNat?_ofNat (by omega)
  have again : Json.rereadNumber (Float.ofNat k) = Float.ofNat k := by
    have valid := Json.valid_ofNat k
    have closed : Json.Delimited [] := by simp [Json.Delimited]
    have read := Json.number?_numeral valid closed
    rw [List.append_nil] at read
    have text : (Json.Numeral.mk (Text.ofNat k) [] none).text = Number.text (Float.ofNat k) := by
      rw [Number.text_ofNat less]
      simp [Json.Numeral.text, Json.Numeral.fraction, Json.Numeral.tail]
    rw [Json.rereadNumber, ← text, read]
    simp only [Json.Numeral.value, Json.Numeral.exponent, List.append_nil]
    rw [Number.natOfDigits_ofNat]
    exact Number.ofDecimal_natural less
  rw [again, Ordinal.ofNumber, whole]
  exact if_pos small

theorem finite?_reread {x y : Float} (h : Json.finite? (Json.reread (.num x)) = some y) :
    y = Json.rereadNumber x := by
  rw [Json.reread] at h
  split at h
  · rw [Json.finite?] at h
    split at h
    · exact (Option.some.inj h).symm
    · cases h
  · cases h

theorem option?_reread {o o' : ChoiceOption}
    (h : option? (Json.reread (.arr [.str o.text, .str o.target])) = some o') :
    o'.target = o.target := by
  cases h
  rfl

/-- What is read back of the parts of a choice. -/
structure ChoiceReloaded (c c' : Choice Float) : Prop where
  targets : c'.options.map (·.target) = c.options.map (·.target)
  selected : (Json.finite? (Json.reread (.num c.selected.number))).map Ordinal.ofNumber =
    some c'.selected
  default : (Json.orNone Json.finite?
    (Json.reread (.ofNumber? (c.timeoutDefault.map (·.number))))).map (·.map Ordinal.ofNumber) =
      some c'.timeoutDefault

/-- What is written as a choice is read as one, part by part. -/
theorem choiceReloaded_of_waiting? {c : Choice Float} {w : Waiting Float}
    (h : waiting? .file (Json.reread (waitingJson (.choice c))) = some w) :
    ∃ c', w = .choice c' ∧ ChoiceReloaded c c' := by
  obtain ⟨fields, form, inOrder, kind, prompt, options, selected, timeout, default, elapsed⟩ :
      ∃ fields, waitingJson (.choice c) = .record fields ∧
        Json.InOrder (fields.map fun f => Text.ofString f.1) ∧
        ("type", .str "choice") ∈ fields ∧ ("prompt", .str c.prompt) ∈ fields ∧
        ("options", .arr (c.options.map fun o => .arr [.str o.text, .str o.target])) ∈ fields ∧
        ("selected", .num c.selected.number) ∈ fields ∧
        ("timeout_ms", .ofNumber? c.timeout) ∈ fields ∧
        ("timeout_default", .ofNumber? (c.timeoutDefault.map (·.number))) ∈ fields ∧
        ("timeout_elapsed_ms", .num c.started) ∈ fields := by
    refine ⟨_, rfl, ?_, ?_⟩
    · simp only [List.map]
      decide
    · simp
  rw [form] at h
  have nullable : Rules.file.complete = true := rfl
  have number : Rules.file.number = Json.finite? := rfl
  simp only [waiting?, choice?, Rules.orNull, nullable, number, if_true,
    Json.need_reread inOrder kind, Json.need_reread inOrder prompt, Json.need_reread inOrder options,
    Json.need_reread inOrder selected, Json.needOrNull_reread inOrder timeout,
    Json.needOrNull_reread inOrder default, Json.need_reread inOrder elapsed] at h
  have word : Json.text? (Json.reread (.str "choice")) = some (Text.ofString "choice") := rfl
  rw [word, Option.bind_eq_bind, Option.bind_some, if_neg (by decide),
    if_neg (by decide), if_neg (by decide), if_pos rfl] at h
  simp only [Option.bind_eq_bind, Option.bind_eq_some_iff, Option.pure_def, Option.some.injEq] at h
  obtain ⟨c', ⟨prompt', _, options', list, selected', cursor, _, _, default', fallback, _, _, rfl⟩,
    rfl⟩ := h
  exact ⟨_, rfl, map_list? (fun _ _ => option?_reread) list, by rw [cursor]; rfl,
    by rw [fallback]; rfl⟩

/-- The cursor comes back to the option where it was. -/
theorem ChoiceReloaded.cursorInside {c c' : Choice Float} (h : ChoiceReloaded c c')
    (inside : c.CursorInside) : c'.CursorInside := by
  intro short
  have same : c'.options.length = c.options.length := by
    simpa using congrArg List.length h.targets
  have counted : c.options.length < Ordinal.bound := same ▸ short
  obtain ⟨k, less, cursor⟩ := inside counted
  obtain ⟨selected', number, found⟩ := Option.map_eq_some_iff.mp h.selected
  rw [cursor] at number
  refine ⟨k, same ▸ less, ?_⟩
  rw [← found, finite?_reread number]
  exact ofNumber_rereadNumber (Nat.lt_trans less counted)

/-- Only what was written as a choice is read as one. -/
theorem waiting?_choice {j : Json} {c : Choice Float} (h : waiting? .file j = some (.choice c)) :
    j.need "type" Json.text? = some (Text.ofString "choice") := by
  unfold waiting? at h
  obtain ⟨kind, word, h⟩ := Option.bind_eq_some_iff.mp h
  rw [word]
  split at h
  · obtain ⟨_, _, other⟩ := Option.bind_eq_some_iff.mp h
    cases other
  · split at h
    · cases h
    · split at h
      · cases h
      · split at h
        · next same => rw [same]
        · split at h
          · obtain ⟨_, _, other⟩ := Option.bind_eq_some_iff.mp h
            cases other
          · cases h

theorem waiting?_reread {w : Waiting Float} {c' : Choice Float}
    (h : waiting? .file (Json.reread (waitingJson w)) = some (.choice c')) :
    ∃ c, w = .choice c := by
  have kind := waiting?_choice h
  cases w with
  | choice c => exact ⟨c, rfl⟩
  | question q =>
    rw [waitingJson, Json.need_reread (by simp only [List.map]; decide)
      List.mem_cons_self] at kind
    exact absurd kind (by decide)
  | wait w =>
    cases w with
    | timer due =>
      rw [waitingJson, Json.need_reread (by simp only [List.map]; decide)
        List.mem_cons_self] at kind
      exact absurd kind (by decide)
    | voice => exact absurd kind (by decide +kernel)
    | video => exact absurd kind (by decide +kernel)

/-- The phone is again open, again has as many messages, and the newest one is again unread. -/
theorem phone?_reread {p p' : Phone} (h : phone? (Json.reread (phoneJson p)) = some p') :
    p'.active = p.active ∧ p'.unread = p.unread ∧ p'.messages.size = p.messages.size := by
  have inOrder : Json.InOrder (([("active", .bool p.active), ("contact", .str p.contact),
      ("messages", .arr (p.messages.toList.map PhoneMessage.toJson)),
      ("awaiting_advance", .bool p.unread)] : List (String × Json)).map
        fun f => Text.ofString f.1) := by
    simp only [List.map]
    decide
  simp only [phoneJson, phone?, Json.need_reread inOrder (List.mem_of_getElem? (i := 0) rfl),
    Json.need_reread inOrder (List.mem_of_getElem? (i := 1) rfl),
    Json.need_reread inOrder (List.mem_of_getElem? (i := 2) rfl),
    Json.allow_reread inOrder (List.mem_of_getElem? (i := 3) rfl),
    Option.bind_eq_bind, Option.bind_eq_some_iff, Option.pure_def, Option.some.injEq] at h
  obtain ⟨active, same, _, _, messages, list, unread, again, rfl⟩ := h
  cases same
  cases again
  have each : messages.map (fun _ => ()) = p.messages.toList.map fun _ => () :=
    map_list? (fun _ _ _ => rfl) list
  exact ⟨rfl, rfl, by simpa using congrArg List.length each⟩

/-! ## 4. Targets -/

theorem button?_reread {b b' : HudButton} (h : button? .file (Json.reread (buttonJson b)) = some b') :
    b'.target = b.target := by
  obtain ⟨fields, form, inOrder, mem⟩ : ∃ fields, buttonJson b = .record fields ∧
      Json.InOrder (fields.map fun f => Text.ofString f.1) ∧ ("target", .str b.target) ∈ fields :=
    ⟨_, rfl, by simp only [List.map]; decide, by simp⟩
  rw [form] at h
  simp only [button?, Json.need_reread inOrder mem, Option.bind_eq_bind, Option.bind_eq_some_iff,
    Option.pure_def, Option.some.injEq] at h
  obtain ⟨_, _, _, _, _, _, _, _, target, same, _, _, rfl⟩ := h
  cases same
  rfl

theorem hotspot?_reread {h h' : Hotspot} (read : hotspot? .file (Json.reread (hotspotJson h)) = some h') :
    h'.target = h.target := by
  obtain ⟨fields, form, inOrder, mem⟩ : ∃ fields, hotspotJson h = .record fields ∧
      Json.InOrder (fields.map fun f => Text.ofString f.1) ∧ ("target", .str h.target) ∈ fields :=
    ⟨_, rfl, by simp only [List.map]; decide, by simp⟩
  rw [form] at read
  simp only [hotspot?, Json.need_reread inOrder mem, Option.bind_eq_bind, Option.bind_eq_some_iff] at read
  obtain ⟨_, _, target, same, area, _, corners, _, read⟩ := read
  cases same
  cases area with
  | some area =>
    cases read
    rfl
  | none =>
    cases corners with
    | some corners =>
      cases read
      rfl
    | none => cases read

theorem mapPoint?_reread {p p' : MapPoint} (h : mapPoint? .file (Json.reread (mapPointJson p)) = some p') :
    p'.target = p.target := by
  obtain ⟨fields, form, inOrder, mem⟩ : ∃ fields, mapPointJson p = .record fields ∧
      Json.InOrder (fields.map fun f => Text.ofString f.1) ∧ ("target", .str p.target) ∈ fields :=
    ⟨_, rfl, by simp only [List.map]; decide, by simp⟩
  rw [form] at h
  simp only [mapPoint?, Json.need_reread inOrder mem, Option.bind_eq_bind, Option.bind_eq_some_iff,
    Option.pure_def, Option.some.injEq] at h
  obtain ⟨_, _, target, same, _, _, _, _, rfl⟩ := h
  cases same
  rfl

/-- The map is again open, and its points lead to the same places. -/
theorem map?_reread {m m' : MapOverlay} (h : map? .file (Json.reread (mapJson m)) = some m') :
    m'.active = m.active ∧ m'.points.toList.map (·.target) = m.points.toList.map (·.target) := by
  obtain ⟨fields, form, inOrder, active, points⟩ : ∃ fields, mapJson m = .record fields ∧
      Json.InOrder (fields.map fun f => Text.ofString f.1) ∧ ("active", .bool m.active) ∈ fields ∧
      ("points", .arr (m.points.toList.map mapPointJson)) ∈ fields :=
    ⟨_, rfl, by simp only [List.map]; decide, by simp, by simp⟩
  rw [form] at h
  simp only [map?, Json.need_reread inOrder active, Json.need_reread inOrder points,
    Option.bind_eq_bind, Option.bind_eq_some_iff, Option.pure_def, Option.some.injEq] at h
  obtain ⟨active, same, _, _, points, list, rfl⟩ := h
  cases same
  exact ⟨rfl, map_list? (fun _ _ => mapPoint?_reread) list⟩

/-! ## 5. Snapshots that are read again -/

/-- What is read back of the parts of a snapshot. -/
structure Reloaded (data found : Snapshot Float) : Prop where
  script : found.script = data.script
  index : (Json.finite? (Json.reread (.num data.index.number))).map Ordinal.ofNumber =
    some found.index
  vars : Json.table? (fun _ => Json.storyValue? Json.finite?)
    (Json.reread (tableJson data.vars Json.ofValue)) = some found.vars
  sprites : Json.table? (sprite? .file) (Json.reread (tableJson data.sprites spriteJson)) =
    some found.sprites
  inventory : Json.table? (fun _ => item? .file)
    (Json.reread (tableJson data.inventory itemJson)) = some found.inventory
  page : Json.finite? (Json.reread (.num data.inventoryPage)) = some found.inventoryPage
  meters : Json.table? (fun _ => meter? .file)
    (Json.reread (tableJson data.meters meterJson)) = some found.meters
  hud : Json.list? (button? .file) (Json.reread (.arr (data.hud.map buttonJson))) = some found.hud
  waiting : Json.orNone (waiting? .file)
    (Json.reread (.orNull (data.waiting.map waitingJson))) = some found.waiting
  dialogue : Json.orNone (line? .file) (Json.reread (.orNull (data.dialogue.map lineJson))) =
    some found.dialogue
  characters : Json.table? (character? .file)
    (Json.reread (tableJson data.characters characterJson)) = some found.characters
  hotspots : Json.list? (hotspot? .file) (Json.reread (.arr (data.hotspots.map hotspotJson))) =
    some found.hotspots
  map : map? .file (Json.reread (mapJson data.map)) = some found.map
  phone : Json.orNone phone? (Json.reread (.orNull (data.phone.map phoneJson))) = some found.phone

/-- A save file that is read as a snapshot was read part by part. -/
theorem reloaded_of_ofJson? {data found : Snapshot Float}
    (read : ofJson? (Json.reread data.toJson) = some found) : data.Reloaded found := by
  unfold ofJson? at read
  obtain ⟨_, _, read⟩ := Option.bind_eq_some_iff.mp read
  obtain ⟨again, read, rest⟩ := Option.bind_eq_some_iff.mp read
  obtain ⟨_, same⟩ := Option.ite_none_right_eq_some.mp rest
  cases same
  rw [read?_reread] at read
  obtain ⟨index, hindex, read⟩ := Option.bind_eq_some_iff.mp read
  obtain ⟨_, _, read⟩ := Option.bind_eq_some_iff.mp read
  obtain ⟨vars, hvars, read⟩ := Option.bind_eq_some_iff.mp read
  obtain ⟨sprites, hsprites, read⟩ := Option.bind_eq_some_iff.mp read
  obtain ⟨inventory, hinventory, read⟩ := Option.bind_eq_some_iff.mp read
  obtain ⟨page, hpage, read⟩ := Option.bind_eq_some_iff.mp read
  obtain ⟨meters, hmeters, read⟩ := Option.bind_eq_some_iff.mp read
  obtain ⟨hud, hhud, read⟩ := Option.bind_eq_some_iff.mp read
  obtain ⟨_, _, read⟩ := Option.bind_eq_some_iff.mp read
  obtain ⟨_, _, read⟩ := Option.bind_eq_some_iff.mp read
  obtain ⟨waiting, hwaiting, read⟩ := Option.bind_eq_some_iff.mp read
  obtain ⟨dialogue, hdialogue, read⟩ := Option.bind_eq_some_iff.mp read
  obtain ⟨characters, hcharacters, read⟩ := Option.bind_eq_some_iff.mp read
  obtain ⟨hotspots, hhotspots, read⟩ := Option.bind_eq_some_iff.mp read
  obtain ⟨map, hmap, read⟩ := Option.bind_eq_some_iff.mp read
  obtain ⟨_, _, read⟩ := Option.bind_eq_some_iff.mp read
  obtain ⟨phone, hphone, read⟩ := Option.bind_eq_some_iff.mp read
  cases read
  exact ⟨rfl, hindex, hvars, hsprites, hinventory, hpage, hmeters, hhud, hwaiting, hdialogue,
    hcharacters, hhotspots, hmap, hphone⟩

/-- What is read as a choice was written as one. -/
theorem Reloaded.choice {data found : Snapshot Float} (h : data.Reloaded found) {c' : Choice Float}
    (waiting : found.waiting = some (.choice c')) :
    ∃ c, data.waiting = some (.choice c) ∧ ChoiceReloaded c c' := by
  have read := h.waiting
  rw [waiting] at read
  cases written : data.waiting with
  | none =>
    rw [written] at read
    cases read
  | some w =>
    rw [written] at read
    have reads : waiting? .file (Json.reread (waitingJson w)) = some (.choice c') :=
      Json.of_orNone read
    obtain ⟨c, rfl⟩ := waiting?_reread reads
    obtain ⟨_, same, parts⟩ := choiceReloaded_of_waiting? reads
    cases same
    exact ⟨c, rfl, parts⟩

/-- What a save file tells of the snapshot that it was written from. -/
structure Reread (data found : Snapshot Float) : Prop where
  script : found.script = data.script
  index : found.index = Ordinal.ofNumber (Json.rereadNumber data.index.number)
  sprites : data.sprites.Worded → found.sprites.keys = data.sprites.keys
  inventory : data.inventory.Worded → found.inventory.keys = data.inventory.keys
  meters : data.meters.Worded → found.meters.keys = data.meters.keys
  characters : data.characters.Worded → found.characters.keys = data.characters.keys
  waiting : found.waiting.isSome = data.waiting.isSome
  choice : ∀ c', found.waiting = some (.choice c') → ∃ c, data.waiting = some (.choice c) ∧
    c'.options.map (·.target) = c.options.map (·.target) ∧ (c.CursorInside → c'.CursorInside)
  dialogue : found.dialogue.isSome = data.dialogue.isSome
  map : found.map.active = data.map.active
  points : found.map.points.toList.map (·.target) = data.map.points.toList.map (·.target)
  hud : found.hud.map (·.target) = data.hud.map (·.target)
  hotspots : found.hotspots.map (·.target) = data.hotspots.map (·.target)
  phone : ∀ p' ∈ found.phone, ∃ p ∈ data.phone,
    p'.active = p.active ∧ p'.unread = p.unread ∧ p'.messages.size = p.messages.size

theorem isSome_orNone {α β : Type} {read : Json → Option β} {write : α → Json}
    (form : ∀ a, Json.reread (write a) ≠ .null) {value : Option α} {found : Option β}
    (h : Json.orNone read (Json.reread (.orNull (value.map write))) = some found) :
    found.isSome = value.isSome := by
  cases value with
  | none =>
    cases h
    rfl
  | some a =>
    change Json.orNone read (Json.reread (write a)) = some found at h
    unfold Json.orNone at h
    split at h
    · next null => exact absurd null (form a)
    · obtain ⟨b, _, rfl⟩ := Option.map_eq_some_iff.mp h
      rfl

theorem reread_waitingJson (w : Waiting Float) : Json.reread (waitingJson w) ≠ .null := by
  cases w with
  | wait w => cases w <;> exact nofun
  | choice c => exact nofun
  | question q => exact nofun

theorem reread_lineJson (l : SavedLine) : Json.reread (lineJson l) ≠ .null := nofun

/-- A save file that is read as a snapshot tells of the one it was written from. -/
theorem Reloaded.reread {data found : Snapshot Float} (h : data.Reloaded found) :
    data.Reread found := by
  obtain ⟨number, hnumber, index⟩ := Option.map_eq_some_iff.mp h.index
  obtain ⟨active, points⟩ := map?_reread h.map
  refine
    { script := h.script
      index := by rw [← index, finite?_reread hnumber]
      sprites := fun worded => keys_table? worded h.sprites
      inventory := fun worded => keys_table? worded h.inventory
      meters := fun worded => keys_table? worded h.meters
      characters := fun worded => keys_table? worded h.characters
      waiting := isSome_orNone reread_waitingJson h.waiting
      choice := ?_
      dialogue := isSome_orNone reread_lineJson h.dialogue
      map := active
      points
      hud := map_list? (fun _ _ => button?_reread) h.hud
      hotspots := map_list? (fun _ _ => hotspot?_reread) h.hotspots
      phone := ?_ }
  · intro c' waiting
    obtain ⟨c, written, parts⟩ := h.choice waiting
    exact ⟨c, written, parts.targets, parts.cursorInside⟩
  · intro p' saved
    have read := h.phone
    rw [saved] at read
    cases written : data.phone with
    | none =>
      rw [written] at read
      cases read
    | some p =>
      rw [written] at read
      exact ⟨p, rfl, phone?_reread (Json.of_orNone read)⟩

theorem reread_of_ofJson? {data found : Snapshot Float}
    (read : ofJson? (Json.reread data.toJson) = some found) : data.Reread found :=
  (reloaded_of_ofJson? read).reread

/-! ## 6. Snapshots of a story -/

variable {τ : Type}

/-- What holds of every snapshot of a story. -/
structure Faithful (data : Snapshot τ) : Prop where
  sprites : data.sprites.Worded
  inventory : data.inventory.Worded
  meters : data.meters.Worded
  characters : data.characters.Worded
  cursor : ∀ c, data.waiting = some (.choice c) → c.CursorInside
  phone : ∀ p ∈ data.phone, p.active ∨ p.messages ≠ #[]

/-- The snapshot of a regular state. -/
theorem faithful_ofState [Clock τ] {s : State τ} (regular : s.Regular) (script : Text) (now : τ) :
    (ofState s script now).Faithful where
  sprites := by
    have sprites := regular.sprites.of_keys (Table.keys_map (·.mapTime (Clock.ago now)) s.sprites)
    rw [ofState, sprites.recorded_eq]
    exact sprites.erase unrecordedName
  inventory := by
    rw [ofState, regular.inventory.recorded_eq]
    exact regular.inventory.erase unrecordedName
  meters := by
    rw [ofState, regular.meters.recorded_eq]
    exact regular.meters.erase unrecordedName
  characters := by
    rw [ofState, regular.characters.recorded_eq]
    exact regular.characters.erase unrecordedName
  cursor c waiting := by
    change waitingOf s now = some (.choice c) at waiting
    unfold waitingOf at waiting
    split at waiting
    · next choice pending =>
      cases waiting
      exact regular.cursor choice pending
    · cases waiting
    · cases waiting
    · cases waiting
  phone p saved := by
    change phoneOf s.phone = some p at saved
    unfold phoneOf at saved
    split at saved
    · next shown =>
      cases saved
      simpa using shown
    · cases saved

/-- The state of such a snapshot. -/
theorem Faithful.regular [Clock τ] {data : Snapshot τ} (h : data.Faithful) (now : τ) :
    (data.toState now).Regular where
  sprites := h.sprites.of_keys (Table.keys_mapNamed ..)
  inventory := h.inventory
  meters := h.meters
  characters := h.characters.of_keys (Table.keys_mapNamed ..)
  spriteNames := by
    simp only [toState]
    apply Table.OwnNamed.mapNamed h.sprites.distinct
    exact fun _ _ => rfl
  characterNames := by
    simp only [toState]
    apply Table.OwnNamed.mapNamed h.characters.distinct
    exact fun _ _ => rfl
  hud := .ofEntries HudButton.name data.hud
  hotspots := .ofEntries Hotspot.name data.hotspots
  single := by
    rcases waiting : data.waiting with _ | w
    · simp [toState, choiceOf, questionOf, waitOf, waiting]
    · cases w <;> simp [toState, choiceOf, questionOf, waitOf, waiting]
  cursor c pending := by
    change choiceOf data.waiting now = some c at pending
    unfold choiceOf at pending
    split at pending
    · next choice waiting =>
      cases pending
      intro short
      obtain ⟨k, inside, cursor⟩ := h.cursor choice waiting short
      exact ⟨k, inside, by rw [cursor, Ordinal.clampTo_nth inside]⟩
    · cases pending
  line line shown := by
    obtain ⟨saved, _, rfl⟩ := Option.map_eq_some_iff.mp shown
    exact .inl rfl
  phone closed empty := by
    cases saved : data.phone with
    | none => simp [toState, saved]
    | some p =>
      simp only [toState, saved, Option.getD_some] at closed empty
      rcases h.phone p saved with active | some
      · rw [closed] at active
        cases active
      · exact absurd empty some

theorem Faithful.mapTime {σ : Type} {data : Snapshot τ} (h : data.Faithful) (f : τ → σ) :
    (data.mapTime f).Faithful := by
  refine { h with sprites := h.sprites.of_keys (Table.keys_map ..), cursor := ?_ }
  intro c waiting
  obtain ⟨w, before, same⟩ := Option.map_eq_some_iff.mp waiting
  cases w with
  | choice old =>
    cases same
    exact h.cursor old before
  | wait w => cases same
  | question q => cases same

/-- A file that holds the text of such a snapshot gives back another one. -/
theorem Faithful.reread {data found : Snapshot Float} (h : data.Faithful)
    (again : data.Reread found) : found.Faithful where
  sprites := h.sprites.of_keys (again.sprites h.sprites)
  inventory := h.inventory.of_keys (again.inventory h.inventory)
  meters := h.meters.of_keys (again.meters h.meters)
  characters := h.characters.of_keys (again.characters h.characters)
  cursor c' waiting := by
    obtain ⟨c, written, _, keeps⟩ := again.choice c' waiting
    exact keeps (h.cursor c written)
  phone p' saved := by
    obtain ⟨p, written, active, _, size⟩ := again.phone p' saved
    rw [active, ← Array.size_pos_iff, size, Array.size_pos_iff]
    exact h.phone p written

end Snapshot

/-! ## 7. The files of a story -/

namespace FileTree

variable {original : Text → Option Text} {Q : Snapshot Float → Prop} {files : FileTree}

/-- None of the texts is that of a save. -/
def NoSaves (original : Text → Option Text) : Prop :=
  ∀ path text, original path = some text → (Json.parse? text).bind Snapshot.ofJson? = none

/-- Every file has its first text, or holds a snapshot of a kind. -/
def Saves (original : Text → Option Text) (Q : Snapshot Float → Prop) (files : FileTree) : Prop :=
  ∀ path text, files.nodeAt path = some (.file text) →
    original path = some text ∨ ∃ data, Q data ∧ text = data.fileText

/-- The text of the file at a path. -/
def text? (files : FileTree) (path : Text) : Option Text :=
  match files.nodeAt path with
  | some (.file text) => some text
  | _ => none

/-- Whether no file is a save. -/
def holdsNoSave (files : FileTree) : Bool :=
  files.nodes.values.all fun node =>
    match node with
    | .file text => ((Json.parse? text).bind Snapshot.ofJson?).isNone
    | .directory => true

theorem noSaves_text? (h : files.holdsNoSave = true) : NoSaves files.text? := by
  intro path text found
  unfold text? nodeAt at found
  split at found
  · next node =>
    cases found
    split at node
    · cases node
    · have mem := List.mem_map_of_mem (f := (·.2)) (Table.mem_of_lookup node)
      simpa using List.all_eq_true.mp h _ mem
  · cases found

/-- Every file has its first text. -/
def Within (files : FileTree) (original : Text → Option Text) : Prop :=
  ∀ path text, files.nodeAt path = some (.file text) → original path = some text

theorem within_text? (files : FileTree) : files.Within files.text? := by
  intro path text found
  rw [text?, found]

theorem Within.saves (h : files.Within original) (Q : Snapshot Float → Prop) :
    files.Saves original Q := fun path text found => .inl (h path text found)

/-- A save is written over files. -/
theorem Saves.save (h : files.Saves original Q) {data : Snapshot Float} (good : Q data)
    (path : Text) : (data.save files path).files.Saves original Q := by
  intro place text found
  rcases data.adds_save files path place text found with old | rfl
  · exact h place text old
  · exact .inr ⟨data, good, rfl⟩

/-- What is loaded was written, and read again. -/
theorem Saves.load (h : files.Saves original Q) (none : NoSaves original) {path : Text}
    {data : Snapshot Float} (found : (Snapshot.load files path).1 = some data) :
    ∃ written, Q written ∧ written.Reread data := by
  unfold Snapshot.load at found
  split at found
  · cases found
  · split at found
    · cases found
    · next j parsed =>
      split at found
      · next read =>
        cases found
        obtain ⟨text, held, parsed⟩ := Option.bind_eq_some_iff.mp parsed
        have node : files.nodeAt (Path.absolute path) = some (.file text) := by
          cases stands : files.read path with
          | ok t =>
            rw [stands] at held
            cases held
            exact FileTree.nodeAt_of_read stands
          | error e =>
            rw [stands] at held
            cases held
        rcases h _ _ node with first | ⟨saved, good, rfl⟩
        · have none := none _ _ first
          rw [parsed, Option.bind_some, read] at none
          cases none
        · rw [Snapshot.fileText, Json.parse?_indented, Option.some.injEq] at parsed
          subst parsed
          exact ⟨saved, good, Snapshot.reread_of_ofJson? read⟩
      · cases found

end FileTree
end VisualNovel
