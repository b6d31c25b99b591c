import VisualNovel.Proofs.Json.Records
import VisualNovel.Story.Snapshot.Json

/-!
The reader of save files and their writer.

A snapshot is written and read by two descriptions of one format. They agree: each part of a snapshot
that is written, with its numbers changed to finite ones, is read as a part that is written in the same
way (`Json.Regains`), and so is the whole (`regains_snapshot`). Numbers are changed because the
decimals of a file need not give back the numbers that were written. Only two things are asked of the
snapshot itself: the messages on the phone are laid out as records, and what the reader checks at last
holds of it (`ofJson?_image`).
-/

namespace VisualNovel

open Json (Regains)

/-! ## 1. Points and rectangles -/

/-- The point with its numbers changed. -/
def Point.mapNumbers (f : Float → Float) (p : Point) : Point := ⟨f p.x, f p.y⟩

/-- The rectangle with its numbers changed. -/
def Rect.mapNumbers (f : Float → Float) (r : Rect) : Rect := ⟨f r.x, f r.y, f r.width, f r.height⟩

namespace Json

section Shapes

variable {f : Float → Float}

@[simp] theorem mapNumbers_ofPoint (p : Point) :
    (ofPoint p).mapNumbers f = ofPoint (p.mapNumbers f) := rfl

@[simp] theorem mapNumbers_ofRect (r : Rect) :
    (ofRect r).mapNumbers f = ofRect (r.mapNumbers f) := rfl

@[simp] theorem mapNumbers_ofPoints (ps : List Point) :
    (ofPoints ps).mapNumbers f = ofPoints (ps.map (·.mapNumbers f)) := by
  simp [ofPoints, mapNumbers_arr]

@[simp] theorem mapNumbers_ofPoint? (p : Option Point) :
    (orNull (p.map ofPoint)).mapNumbers f = orNull ((p.map (·.mapNumbers f)).map ofPoint) := by
  cases p <;> rfl

variable (finite : ∀ x, Number.isFinite (f x) = true)
include finite

theorem finite?_num (x : Float) : finite? (.num (f x)) = some (f x) := if_pos (finite x)

theorem orNone_number (x : Option Float) :
    orNone finite? (ofNumber? (x.map f)) = some (x.map f) := by
  cases x with
  | none => rfl
  | some x => exact congrArg (Option.map some) (finite?_num finite x)

theorem point?_ofPoint (p : Point) :
    point? finite? (ofPoint (p.mapNumbers f)) = some (p.mapNumbers f) := by
  simp [point?, ofPoint, list?, items?, Point.mapNumbers, finite?_num finite]

theorem orNone_point (p : Option Point) :
    orNone (point? finite?) (orNull (p.map (ofPoint ∘ fun p => p.mapNumbers f))) =
      some (p.map (·.mapNumbers f)) := by
  cases p with
  | none => rfl
  | some p => exact congrArg (Option.map some) (point?_ofPoint finite p)

theorem rect?_ofRect (r : Rect) : rect? finite? (ofRect (r.mapNumbers f)) = some (r.mapNumbers f) := by
  simp [rect?, ofRect, list?, items?, Rect.mapNumbers, finite?_num finite]

theorem orNone_rect (r : Rect) :
    orNone (rect? finite?) (ofRect (r.mapNumbers f)) = some (some (r.mapNumbers f)) :=
  congrArg (Option.map some) (rect?_ofRect finite r)

theorem points?_ofPoints (ps : List Point) :
    list? (point? finite?) (ofPoints (ps.map (·.mapNumbers f))) =
      some (ps.map (·.mapNumbers f)) := by
  rw [ofPoints, List.map_map]
  exact mapM_map ps fun p _ => point?_ofPoint finite p

theorem orNone_points (ps : List Point) :
    orNone (list? (point? finite?)) (ofPoints (ps.map (·.mapNumbers f))) =
      some (some (ps.map (·.mapNumbers f))) :=
  congrArg (Option.map some) (points?_ofPoints finite ps)

end Shapes

end Json

namespace Snapshot

/-! ## 2. Words and tables -/

@[simp] theorem worded?_sceneKind (kind : SceneKind) :
    Json.worded? [SceneKind.color, .image] SceneKind.word (.str kind.word) = some kind := by
  cases kind <;> decide

@[simp] theorem worded?_style (style : TransitionStyle) :
    Json.worded? TransitionStyle.all TransitionStyle.word (.str style.word) = some style := by
  cases style <;> decide

@[simp] theorem worded?_spriteKind (kind : SpriteKind) :
    Json.worded? SpriteKind.all SpriteKind.word (.str kind.word) = some kind := by
  cases kind <;> decide

@[simp] theorem worded?_hudStyle (style : HudStyle) :
    Json.worded? [HudStyle.text, .icon, .both] HudStyle.word (.str style.word) = some style := by
  cases style <;> decide

@[simp] theorem worded?_side (side : Side) :
    Json.worded? [Side.left, .right] Side.word (.str side.word) = some side := by
  cases side <;> decide

@[simp] theorem orNull_file {α : Type} (j : Json) (name : String) (read : Json → Option α) :
    Rules.file.orNull j name read = j.needOrNull name read := rfl

@[simp] theorem number_file : Rules.file.number = Json.finite? := rfl

variable {f : Float → Float}

theorem mapNumbers_tableJson {α : Type} (t : Table α) (write : α → Json) :
    (tableJson t write).mapNumbers f =
      .obj ((recordOrder t.entries).map fun e => (e.1, (write e.2).mapNumbers f)) := by
  rw [tableJson, Json.mapNumbers_obj, List.map_map]
  rfl

/-- A table regains what its values do. Its entries come back in the order of the record, which is
also that in which they were written. -/
theorem regains_table {α : Type} (t : Table α) (read : Text → Json → Option α) (write : α → Json)
    (each : ∀ name value, Regains (read name) write ((write value).mapNumbers f)) :
    Regains (Json.table? read) (fun t => tableJson t write) ((tableJson t write).mapNumbers f) := by
  choose again reads same using each
  refine ⟨⟨(recordOrder t.entries).map fun e => (e.1, again e.1 e.2)⟩, ?_, ?_⟩
  · rw [mapNumbers_tableJson]
    refine congrArg (Option.map Table.mk) (Json.mapM_map _ fun e _ => ?_)
    rw [reads]
    rfl
  · rw [Json.unsigned, Json.unsigned, mapNumbers_tableJson, mapNumbers_tableJson,
      Json.mapNumbers_obj, recordOrder_map, recordOrder_recordOrder, List.map_map, List.map_map]
    congr 1
    apply List.map_congr_left
    exact fun e _ => congrArg (Prod.mk e.1) (same e.1 e.2)

/-! ## 3. Parts without numbers -/

theorem regains_music (m : Music) : Regains (music? .file) musicJson ((musicJson m).mapNumbers f) := by
  refine ⟨m, ?_, ?_⟩
  · have channel := Json.field?_record
      [("path", .str m.path), ("loop", .bool m.loop), ("channel", .str m.channel)] "channel"
    simp only [List.lookup, String.reduceBEq] at channel
    simp [musicJson, music?, List.lookup, channel]
  · simp [musicJson]

theorem regains_line (l : SavedLine) : Regains (line? .file) lineJson ((lineJson l).mapNumbers f) := by
  refine ⟨l, ?_, ?_⟩
  · simp [lineJson, line?, List.lookup]
  · simp [lineJson]

theorem list?_options (options : List ChoiceOption) :
    Json.list? option? ((Json.arr (options.map fun o => .arr [.str o.text, .str o.target])).mapNumbers
      f) = some options := by
  have same := Json.mapM_map (g := Json.mapNumbers f ∘ fun o => .arr [.str o.text, .str o.target])
    (h := id) options fun o _ => (rfl : option? _ = _)
  rw [List.map_id] at same
  rwa [Json.mapNumbers_arr, List.map_map]

/-! ## 4. Messages -/

theorem str_of_worded? {α : Type} {all : List α} {word : α → Text} {j : Json} {a : α}
    (h : Json.worded? all word j = some a) : j = .str (word a) := by
  obtain ⟨t, text, found⟩ := Option.bind_eq_some_iff.mp h
  have same := List.find?_some found
  rw [decide_eq_true_eq] at same
  cases j with
  | str t' =>
    cases text
    rw [same]
  | _ => cases text

/-- A message that is read is written as it was, if no name occurs twice. -/
theorem toJson_of_message? {fields : List (Text × Json)} (distinct : (fields.map (·.1)).Nodup)
    {m : PhoneMessage} (h : message? (.obj fields) = some m) :
    m.toJson = .obj fields ∧ .side ∈ m.layout ∧ .text ∈ m.layout := by
  unfold message? at h
  obtain ⟨side, foundSide, h⟩ := Option.bind_eq_some_iff.mp h
  obtain ⟨text, foundText, h⟩ := Option.bind_eq_some_iff.mp h
  cases h
  obtain ⟨_, lookupSide, readSide⟩ := Option.bind_eq_some_iff.mp foundSide
  obtain ⟨value, lookupText, readText⟩ := Option.bind_eq_some_iff.mp foundText
  obtain rfl := str_of_worded? readSide
  obtain rfl : value = .str text := by
    cases value <;> cases readText
    rfl
  have place : ∀ e ∈ fields, fields.lookup e.1 = some e.2 :=
    fun e mem => Table.get?_of_mem (t := ⟨fields⟩) distinct mem
  -- A field of the message is the only one of its name, hence the one that was read.
  have own : ∀ e ∈ fields, PhoneMessage.field
      { side, text, layout := fields.map MessageField.ofField } (MessageField.ofField e) = e := by
    intro e mem
    have same := place e mem
    unfold MessageField.ofField
    split
    · next named =>
      rw [named] at same
      exact Prod.ext named.symm (Option.some.inj (lookupSide.symm.trans same))
    · split
      · next named =>
        rw [named] at same
        exact Prod.ext named.symm (Option.some.inj (lookupText.symm.trans same))
      · rfl
  refine ⟨?_, ?_, ?_⟩
  · rw [PhoneMessage.toJson]
    simp only [Json.fields?, Option.getD_some, List.map_map]
    congr 1
    conv => rhs; rw [← List.map_id fields]
    exact List.map_congr_left own
  · exact List.mem_map.mpr ⟨_, Table.mem_of_lookup lookupSide, if_pos rfl⟩
  · refine List.mem_map.mpr ⟨_, Table.mem_of_lookup lookupText, ?_⟩
    rw [MessageField.ofField, if_neg (by simp [Text.ofString_inj]), if_pos rfl]

end Snapshot

/-- A message that is laid out as a record: its side and its text are there, and its fields are in
order. -/
structure PhoneMessage.Laid (m : PhoneMessage) : Prop where
  orderly : m.toJson.Orderly
  side : .side ∈ m.layout
  text : .text ∈ m.layout

namespace Snapshot

variable {f : Float → Float}

theorem regains_message {m : PhoneMessage} (laid : m.Laid) :
    Regains message? PhoneMessage.toJson (m.toJson.mapNumbers f) := by
  obtain ⟨orderly, side, text⟩ := laid
  rw [PhoneMessage.toJson] at orderly ⊢
  rw [Json.mapNumbers_obj, List.map_map]
  have distinct : ((m.layout.map ((fun e => (e.1, e.2.mapNumbers f)) ∘ m.field)).map
      (·.1)).Nodup := by
    cases orderly with
    | obj distinct => rwa [List.map_map] at distinct ⊢
  generalize form : m.layout.map ((fun e => (e.1, e.2.mapNumbers f)) ∘ m.field) = fields
    at distinct ⊢
  have there : ∀ field ∈ m.layout,
      fields.lookup (m.field field).1 = some ((m.field field).2.mapNumbers f) := by
    intro field mem
    refine Table.get?_of_mem (t := ⟨fields⟩) distinct (form ▸ ?_)
    exact List.mem_map.mpr ⟨field, mem, rfl⟩
  have read : message? (.obj fields) =
      some { side := m.side, text := m.text, layout := fields.map MessageField.ofField } := by
    have side := there _ side
    have text := there _ text
    simp only [PhoneMessage.field, Json.mapNumbers_str] at side text
    simp [message?, Json.need, Json.field?, Json.fields?, side, text]
  exact ⟨_, read, congrArg Json.unsigned (toJson_of_message? distinct read).1⟩

theorem regains_phone {p : Phone} (laid : ∀ m ∈ p.messages, m.Laid) :
    Regains phone? phoneJson ((phoneJson p).mapNumbers f) := by
  obtain ⟨messages, reads, same⟩ := Json.regains_image (f := f) p.messages.toList fun m mem =>
    regains_message (laid m (Array.mem_toList_iff.mp mem))
  refine ⟨{ p with messages := messages.toArray }, ?_, ?_⟩
  · simp [phoneJson, phone?, List.lookup, reads]
  · simp only [Json.unsigned] at same
    simp [phoneJson, Json.unsigned, same]

/-! ## 5. Parts with numbers -/

variable (finite : ∀ x, Number.isFinite (f x) = true)
include finite

theorem regains_background (b : SavedBackground) :
    Regains (background? .file) backgroundJson ((backgroundJson b).mapNumbers f) := by
  refine ⟨⟨b.kind, b.value, ⟨b.floating.amplitude.map f, b.floating.speed.map f⟩⟩, ?_, ?_⟩
  · simp [backgroundJson, background?, List.lookup, Json.orNone_number finite]
  · simp [backgroundJson]

theorem regains_transition (t : Transition Float) :
    Regains (transition? .file) transitionJson ((transitionJson t).mapNumbers f) := by
  refine ⟨⟨t.style, f t.seconds, f t.started⟩, ?_, ?_⟩
  · simp [transitionJson, transition?, List.lookup, Json.finite?_num finite]
  · simp [transitionJson]

theorem regains_sprite (id : Text) (s : Sprite Float) :
    Regains (sprite? .file id) spriteJson ((spriteJson s).mapNumbers f) := by
  obtain ⟨transition, reads, same⟩ := Json.regains_orNone s.transition
    (fun t _ => regains_transition finite t) fun _ _ => nofun
  refine ⟨{ s with
    id, z := f s.z, pos := s.pos.mapNumbers f, size := s.size.map (·.mapNumbers f)
    alpha := f s.alpha, floating := ⟨s.floating.amplitude.map f, s.floating.speed.map f⟩
    transition }, ?_, ?_⟩
  · simp [spriteJson, sprite?, List.lookup, Json.orNone_number finite, Json.finite?_num finite,
      Json.point?_ofPoint finite, Json.orNone_point finite, reads]
  · simp only [Json.unsigned] at same
    simp [spriteJson, Json.unsigned, same]

theorem regains_item (i : Item) : Regains (item? .file) itemJson ((itemJson i).mapNumbers f) := by
  refine ⟨{ i with count := f i.count }, ?_, ?_⟩
  · simp [itemJson, item?, List.lookup, Json.finite?_num finite]
  · simp [itemJson]

theorem regains_meter (m : Meter) :
    Regains (meter? .file) meterJson ((meterJson m).mapNumbers f) := by
  refine ⟨{ m with min := f m.min, max := f m.max, value := f m.value }, ?_, ?_⟩
  · simp [meterJson, meter?, List.lookup, Json.finite?_num finite]
  · simp [meterJson]

theorem regains_button (b : HudButton) :
    Regains (button? .file) buttonJson ((buttonJson b).mapNumbers f) := by
  refine ⟨{ b with rect := b.rect.mapNumbers f }, ?_, ?_⟩
  · simp [buttonJson, button?, List.lookup, Json.rect?_ofRect finite]
  · simp [buttonJson]

theorem regains_hotspot (h : Hotspot) :
    Regains (hotspot? .file) hotspotJson ((hotspotJson h).mapNumbers f) := by
  obtain ⟨name, shape, target⟩ := h
  cases shape with
  | rect area =>
    refine ⟨⟨name, .rect (area.mapNumbers f), target⟩, ?_, ?_⟩
    · simp [hotspotJson, hotspot?, List.lookup, Json.orNone_rect finite]
    · simp [hotspotJson]
  | polygon corners =>
    refine ⟨⟨name, .polygon (corners.map (·.mapNumbers f)), target⟩, ?_, ?_⟩
    · simp [hotspotJson, hotspot?, List.lookup, Json.orNone_points finite]
    · simp [hotspotJson]

theorem regains_mapPoint (p : MapPoint) :
    Regains (mapPoint? .file) mapPointJson ((mapPointJson p).mapNumbers f) := by
  refine ⟨{ p with pos := p.pos.mapNumbers f, corners := p.corners.map (·.mapNumbers f) }, ?_, ?_⟩
  · simp [mapPointJson, mapPoint?, List.lookup, Json.point?_ofPoint finite,
      Json.points?_ofPoints finite]
  · simp [mapPointJson]

theorem regains_map (m : MapOverlay) : Regains (map? .file) mapJson ((mapJson m).mapNumbers f) := by
  obtain ⟨points, reads, same⟩ := Json.regains_image m.points.toList fun p _ =>
    regains_mapPoint finite p
  refine ⟨{ m with points := points.toArray }, ?_, ?_⟩
  · simp [mapJson, map?, List.lookup, reads]
  · simp only [Json.unsigned] at same
    simp [mapJson, Json.unsigned, same]

theorem camera?_cameraJson (c : Camera) :
    camera? .file ((cameraJson c).mapNumbers f) = some ⟨f c.panX, f c.panY, f c.zoom⟩ := by
  simp [cameraJson, camera?, List.lookup, Json.finite?_num finite]

theorem regains_value (v : Value) :
    Regains (Json.storyValue? Json.finite?) Json.ofValue ((Json.ofValue v).mapNumbers f) := by
  cases v with
  | num x => exact ⟨.num (f x), congrArg (Option.map Value.num) (Json.finite?_num finite x), rfl⟩
  | str t => exact ⟨.str t, rfl, rfl⟩
  | bool b => exact ⟨.bool b, rfl, rfl⟩

theorem regains_character (ident : Text) (c : Character) :
    Regains (character? .file ident) characterJson ((characterJson c).mapNumbers f) := by
  obtain ⟨sprites, reads, same⟩ :=
    regains_table (f := f) c.sprites (fun _ picture => picture.text?) .str fun _ _ => ⟨_, rfl, rfl⟩
  refine ⟨{ c with
    ident, pos := c.pos.map (·.mapNumbers f), z := c.z.map f
    floating := ⟨c.floating.amplitude.map f, c.floating.speed.map f⟩, sprites }, ?_, ?_⟩
  · simp [characterJson, character?, List.lookup, Json.orNone_number finite,
      Json.orNone_point finite, reads]
  · simp only [Json.unsigned] at same
    simp [characterJson, Json.unsigned, same]

/-! ## 6. What is waited for -/

/-- A choice is read with the same options. -/
theorem regains_choice (c : Choice Float) :
    ∃ c', choice? .file ((waitingJson (.choice c)).mapNumbers f) = some c' ∧
      (waitingJson (.choice c')).unsigned = ((waitingJson (.choice c)).mapNumbers f).unsigned ∧
      c'.options = c.options := by
  refine ⟨{ c with
    selected := .ofNumber (f c.selected.number), timeout := c.timeout.map f
    timeoutDefault := ((c.timeoutDefault.map (·.number)).map f).map Ordinal.ofNumber
    started := f c.started }, ?_, ?_, rfl⟩
  · simp only [waitingJson, choice?, List.lookup, Json.mapNumbers_record, List.map_cons, List.map_nil,
      Json.mapNumbers_str, Json.mapNumbers_num, Json.mapNumbers_ofNumber?, Json.need_record,
      Json.needOrNull_record, orNull_file, number_file, String.reduceBEq, Option.bind_eq_bind,
      Option.bind_some, Json.text?_str, list?_options, Json.finite?_num finite,
      Json.orNone_number finite]
    rfl
  · simp only [waitingJson, Json.unsigned, Json.mapNumbers_record, List.map_cons, List.map_nil,
      Json.mapNumbers_num, Json.mapNumbers_str, Json.mapNumbers_arr, List.map_map,
      Json.mapNumbers_ofNumber?, Number.unsigned_number_ofNumber, Option.map_map, Function.comp_def]

omit finite in
theorem waiting?_choice_eq (c : Choice Float) :
    waiting? .file ((waitingJson (.choice c)).mapNumbers f) =
      (choice? .file ((waitingJson (.choice c)).mapNumbers f)).map .choice := by
  have kind : ((waitingJson (.choice c)).mapNumbers f).need "type" Json.text? =
      some (Text.ofString "choice") := by
    simp [waitingJson, List.lookup]
  simp only [waiting?, kind, Option.bind_eq_bind, Option.bind_some, Text.ofString_inj,
    String.reduceEq, if_false, if_true]
  cases choice? .file ((waitingJson (.choice c)).mapNumbers f) <;> rfl

theorem regains_waiting (w : Waiting Float) :
    ∃ w', waiting? .file ((waitingJson w).mapNumbers f) = some w' ∧
      (waitingJson w').unsigned = ((waitingJson w).mapNumbers f).unsigned ∧
      hasOptions (some w') = hasOptions (some w) := by
  cases w with
  | choice c =>
    obtain ⟨c', reads, same, options⟩ := regains_choice finite c
    refine ⟨.choice c', by rw [waiting?_choice_eq, reads, Option.map_some], same, ?_⟩
    rw [hasOptions, options, hasOptions]
  | question q =>
    refine ⟨.question q, ?_, ?_, rfl⟩
    · simp [waitingJson, waiting?, question?, List.lookup, Text.ofString_inj]
    · simp [waitingJson]
  | wait w =>
    cases w with
    | timer due =>
      refine ⟨.wait (.timer (f due)), ?_, ?_, rfl⟩
      · simp [waitingJson, waiting?, List.lookup, Json.finite?_num finite]
      · simp [waitingJson]
    | voice =>
      refine ⟨.wait .voice, ?_, ?_, rfl⟩
      · simp [waitingJson, waiting?, List.lookup, Text.ofString_inj]
      · simp [waitingJson]
    | video =>
      refine ⟨.wait .video, ?_, ?_, rfl⟩
      · simp [waitingJson, waiting?, List.lookup, Text.ofString_inj]
      · simp [waitingJson]

omit finite in
theorem mapNumbers_waitingJson_ne (w : Waiting Float) : (waitingJson w).mapNumbers f ≠ .null := by
  cases w with
  | wait w => cases w <;> exact nofun
  | choice c => exact nofun
  | question q => exact nofun

theorem regains_waiting? (w : Option (Waiting Float)) :
    ∃ w', Json.orNone (waiting? .file) ((Json.orNull (w.map waitingJson)).mapNumbers f) = some w' ∧
      (Json.orNull (w'.map waitingJson)).unsigned =
        ((Json.orNull (w.map waitingJson)).mapNumbers f).unsigned ∧
      hasOptions w' = hasOptions w := by
  cases w with
  | none => exact ⟨none, rfl, rfl, rfl⟩
  | some w =>
    obtain ⟨w', read, same, options⟩ := regains_waiting finite w
    exact ⟨some w', Json.orNone_of_read (mapNumbers_waitingJson_ne w) read, same, options⟩

/-! ## 7. Snapshots -/

/-- A snapshot is read from its own fields, with the place, the zoom and the options of a choice that
the reader checks afterwards. -/
theorem regains_snapshot {data : Snapshot Float}
    (laid : ∀ p ∈ data.phone, ∀ m ∈ p.messages, m.Laid)
    (known : Number.unsigned (f version) = Number.unsigned version) :
    ∃ found, read? .file (data.toJson.mapNumbers f) = some found ∧
      found.toJson.unsigned = (data.toJson.mapNumbers f).unsigned ∧
      found.index = .ofNumber (f data.index.number) ∧ found.camera.zoom = f data.camera.zoom ∧
      hasOptions found.waiting = hasOptions data.waiting := by
  obtain ⟨background, readBackground, _⟩ := regains_background finite data.background
  obtain ⟨vars, readVars, _⟩ := regains_table data.vars _ _ fun _ => regains_value finite
  obtain ⟨sprites, readSprites, _⟩ := regains_table data.sprites _ _ (regains_sprite finite)
  obtain ⟨inventory, readInventory, _⟩ :=
    regains_table data.inventory _ _ fun _ => regains_item finite
  obtain ⟨meters, readMeters, _⟩ := regains_table data.meters _ _ fun _ => regains_meter finite
  obtain ⟨hud, readHud, _⟩ := Json.regains_image data.hud fun b _ => regains_button finite b
  obtain ⟨music, readMusic, _⟩ :=
    Json.regains_orNone (f := f) data.music (fun m _ => regains_music m) fun _ _ => nofun
  obtain ⟨waiting, readWaiting, _, options⟩ := regains_waiting? finite data.waiting
  obtain ⟨dialogue, readDialogue, _⟩ :=
    Json.regains_orNone (f := f) data.dialogue (fun l _ => regains_line l) fun _ _ => nofun
  obtain ⟨characters, readCharacters, _⟩ :=
    regains_table data.characters _ _ (regains_character finite)
  obtain ⟨hotspots, readHotspots, _⟩ :=
    Json.regains_image data.hotspots fun h _ => regains_hotspot finite h
  obtain ⟨map, readMap, _⟩ := regains_map finite data.map
  obtain ⟨phone, readPhone, _⟩ :=
    Json.regains_orNone (f := f) data.phone (fun p saved => regains_phone (laid p saved))
      fun _ _ => nofun
  refine ⟨{ data with
    index := .ofNumber (f data.index.number), background, vars, sprites, inventory
    inventoryPage := f data.inventoryPage, meters, hud, music, waiting, dialogue, characters
    hotspots, map, camera := ⟨f data.camera.panX, f data.camera.panY, f data.camera.zoom⟩, phone },
    ?_, ?_, rfl, rfl, options⟩
  · simp [toJson, fields, read?, List.lookup, Json.finite?_num finite, camera?_cameraJson finite,
      readBackground, readVars, readSprites, readInventory, readMeters, readHud, readMusic,
      readWaiting, readDialogue, readCharacters, readHotspots, readMap, readPhone]
  · simp only [Json.unsigned] at *
    simp [toJson, fields, cameraJson, Number.unsigned_number_ofNumber, *]

end Snapshot
end VisualNovel
