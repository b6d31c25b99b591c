import VisualNovel.Proofs.Script.WellFormed
import VisualNovel.Proofs.Story.Change
import VisualNovel.Proofs.Story.Snapshot

/-!
Regular states stay regular.

Each change that a story makes to its state keeps it `Regular`. Most changes touch one part of the
state, and the statement about such a change is one about that part. Characters are only ever added
outside a new game, so that a line keeps its speaker as long as it is shown.
-/

namespace VisualNovel

/-! ## 1. Tables that are changed -/

namespace Table

variable {α : Type} {t : Table α} {name : α → Text}

/-- A value that is found has the name it is found under. -/
theorem OwnNamed.get?_eq (h : t.OwnNamed name) {key : Text} {value : α}
    (found : t.get? key = some value) : name value = key :=
  (h.own (key, value) (mem_of_lookup found)).symm

theorem OwnNamed.set_of_eq (h : t.OwnNamed name) {key : Text} {value : α} (own : name value = key) :
    (t.set key value).OwnNamed name := own ▸ h.set value

theorem OwnNamed.modify (h : t.OwnNamed name) (key : Text) {change : α → α}
    (same : ∀ value, name (change value) = name value) : (t.modify key change).OwnNamed name where
  own e mem := by
    obtain ⟨old, inside, rfl⟩ := List.mem_map.mp mem
    have own := h.own old inside
    split
    · exact own.trans (same old.2).symm
    · exact own
  distinct := by
    rw [keys_modify]
    exact h.distinct

theorem Worded.set_known (h : t.Worded) {key : Text} (known : key ∈ t.keys) (value : α) :
    (t.set key value).Worded := h.set (h.word key known) value

end Table

namespace State

variable {τ : Type} {s : State τ}

/-! ## 2. Sprites -/

theorem Regular.removeSprite (h : s.Regular) (id : Text) : (s.removeSprite id).Regular :=
  { h with sprites := h.sprites.erase id, spriteNames := h.spriteNames.erase id }

theorem Regular.clearSprites (h : s.Regular) : s.clearSprites.Regular :=
  { h with sprites := .empty, spriteNames := .empty }

theorem Regular.placeSprite (h : s.Regular) (screen : Screen) {sprite : Sprite τ}
    (word : sprite.id.IsWord) (pos : Option Point) : (s.placeSprite screen sprite pos).Regular :=
  { h with sprites := h.sprites.set word _, spriteNames := h.spriteNames.set_of_eq rfl }

theorem Regular.hideSprite (h : s.Regular) (name : Text) (transition : Option (Transition τ)) :
    (s.hideSprite name transition).Regular := by
  unfold State.hideSprite
  split
  · split
    · next t _ =>
      have spriteNames : (s.sprites.modify name fun sprite =>
          { sprite with transition := some t, leaving := true }).OwnNamed Sprite.id := by
        apply h.spriteNames.modify
        exact fun _ => rfl
      exact { h with sprites := h.sprites.of_keys (Table.keys_modify ..), spriteNames }
    · exact h.removeSprite name
  · exact h.removeSprite name

theorem id_put (sprite : Sprite τ) (action : TrackAction) (values : List Float) :
    (sprite.put action values).id = sprite.id := by
  cases action <;> rfl

/-- A sprite that is found may be put back with other numbers. -/
theorem Regular.setSprite (h : s.Regular) {name : Text} {old new : Sprite τ}
    (found : s.sprites.get? name = some old) (same : new.id = old.id) :
    ({ s with sprites := s.sprites.set name new } : State τ).Regular :=
  { h with
    sprites := h.sprites.set_known (Table.mem_keys_of_get? found) new
    spriteNames := h.spriteNames.set_of_eq (same.trans (h.spriteNames.get?_eq found)) }

theorem Regular.setTracks (h : s.Regular) (tracks : Table (Tracks τ)) :
    ({ s with tracks } : State τ).Regular := { h with }

theorem Regular.animate (h : s.Regular) {name : Text} {sprite : Sprite τ}
    (found : s.sprites.get? name = some sprite) (goal : AnimationGoal) (seconds : Float)
    (ease : Ease) (now : τ) : (s.animate name sprite goal seconds ease now).Regular := by
  unfold State.animate
  simp only
  split
  · exact (h.setSprite found (id_put ..)).setTracks _
  · exact h.setTracks _

section Motion

variable [Clock τ]

theorem id_advanceTrack (now : τ) (moving : Sprite τ × Tracks τ) (action : TrackAction) :
    (advanceTrack now moving action).1.id = moving.1.id := by
  unfold advanceTrack
  split
  · rfl
  · exact id_put ..

theorem id_advanceAll (now : τ) (actions : List TrackAction) (moving : Sprite τ × Tracks τ) :
    (actions.foldl (advanceTrack now) moving).1.id = moving.1.id := by
  induction actions generalizing moving with
  | nil => rfl
  | cons action rest ih => exact (ih _).trans (id_advanceTrack now moving action)

theorem Regular.advanceEntry (h : s.Regular) (now : τ) (tracks : Table (Tracks τ))
    (entry : Text × Tracks τ) :
    ({ s with sprites := (advanceEntry now (s.sprites, tracks) entry).1 } : State τ).Regular := by
  unfold VisualNovel.advanceEntry
  cases found : s.sprites.get? entry.1 with
  | none => simpa [found] using { h with }
  | some sprite =>
    exact h.setSprite found (id_advanceAll now _ (sprite, entry.2))

/-- Sprites that move keep their names and their places. -/
theorem Regular.moveSprites (h : s.Regular) (now : τ) : (s.moveSprites now).Regular := by
  have entries : ∀ (entries : List (Text × Tracks τ)) (sprites : Table (Sprite τ))
      (tracks : Table (Tracks τ)), ({ s with sprites } : State τ).Regular →
      ({ s with sprites := (entries.foldl (VisualNovel.advanceEntry now) (sprites, tracks)).1 } :
        State τ).Regular := by
    intro entries
    induction entries with
    | nil => exact fun _ _ h => h
    | cons entry rest ih =>
      intro sprites tracks h
      exact ih _ _ (h.advanceEntry now tracks entry)
  exact (entries s.tracks.entries s.sprites s.tracks { h with }).setTracks _

end Motion

/-! ## 3. Variables, meters and items -/

theorem Regular.refreshMeter (h : s.Regular) (name : Text) : (s.refreshMeter name).Regular :=
  { h with meters := h.meters.of_keys (Table.keys_modify ..) }

theorem Regular.setVariable (h : s.Regular) (name : Text) (value : Value) :
    (s.setVariable name value).Regular :=
  have changed : ({ s with vars := s.vars.set name value } : State τ).Regular := { h with }
  changed.refreshMeter name

theorem Regular.addItem (h : s.Regular) {id : Text} (word : id.IsWord) (item : Item) :
    (s.addItem id item).Regular := by
  refine { h with inventory := ?_ }
  unfold State.addItem
  simp only
  split
  · exact h.inventory.set word _
  · exact h.inventory.set word _

theorem Regular.takeItem (h : s.Regular) (id : Text) (amount : Float) :
    (s.takeItem id amount).Regular := by
  unfold State.takeItem
  split
  · exact h
  · next old found =>
    simp only
    refine { h with inventory := ?_ }
    simp only
    split
    · exact h.inventory.erase id
    · exact h.inventory.set_known (Table.mem_keys_of_get? found) _

theorem Regular.scroll (h : s.Regular) (perPage delta : Float) : (s.scroll perPage delta).Regular :=
  { h with }

/-! ## 4. Characters -/

/-- A line that is not shown needs no speaker. -/
theorem LineSpoken.of_none {s : State τ} (silent : s.dialogue = none) : s.LineSpoken := by
  intro line shown
  rw [silent] at shown
  cases shown

/-- A character may be set who does not speak the line that is shown. -/
theorem LineSpoken.setCharacter (h : s.LineSpoken) {ident : Text} (character : Character)
    (quiet : s.dialogue = none ∨ ident ∉ s.characters.keys ∧ ident = unrecordedName) :
    ({ s with characters := s.characters.set ident character } : State τ).LineSpoken := by
  rcases quiet with silent | ⟨new, rfl⟩
  · exact .of_none silent
  · intro line shown
    rcases h line shown with spoken | ⟨speaker, _⟩
    · by_cases own : line.speaker = some unrecordedName
      · exact .inr ⟨own, Table.mem_keys_set.mpr (.inl rfl)⟩
      · left
        have same : line.speaker.bind (s.characters.set unrecordedName character).get? =
            line.speaker.bind s.characters.get? := by
          cases speaker : line.speaker with
          | none => rfl
          | some name =>
            have other : name ≠ unrecordedName := fun h => own (h ▸ speaker)
            rw [Option.bind_some, Option.bind_some, Table.get?_set, if_neg other]
        rw [same]
        exact spoken
    · exact .inr ⟨speaker, Table.mem_keys_set.mpr (.inl rfl)⟩

theorem Regular.setCharacter (h : s.Regular) {character : Character}
    (word : character.ident.IsWord)
    (quiet : s.dialogue = none ∨
      character.ident ∉ s.characters.keys ∧ character.ident = unrecordedName) :
    ({ s with characters := s.characters.set character.ident character } : State τ).Regular :=
  { h with
    characters := h.characters.set word character
    characterNames := h.characterNames.set character
    line := h.line.setCharacter character quiet }

/-- The characters that a program defines are known, but for the one whom no record keeps. -/
def Knows (s : State τ) (program : Program) : Prop :=
  ∀ c, .define c ∈ program.commands → c.ident ∈ s.characters.keys ∨ c.ident = unrecordedName

/-- All characters that a program defines are known. -/
def Introduced (s : State τ) (program : Program) : Prop :=
  ∀ c, .define c ∈ program.commands → c.ident ∈ s.characters.keys

theorem mem_keys_introduce {c : Character} {name : Text} :
    name ∈ (s.introduce c).characters.keys ↔ name = c.ident ∨ name ∈ s.characters.keys := by
  unfold introduce
  split
  · next known =>
    constructor
    · exact .inr
    · rintro (rfl | old)
      · exact Table.mem_keys_iff.mpr known
      · exact old
  · exact Table.mem_keys_set

theorem dialogue_introduce (c : Character) : (s.introduce c).dialogue = s.dialogue := by
  unfold introduce
  split <;> rfl

theorem Regular.introduce (h : s.Regular) {c : Character} (word : c.ident.IsWord)
    (quiet : s.dialogue = none ∨ c.ident ∈ s.characters.keys ∨ c.ident = unrecordedName) :
    (s.introduce c).Regular := by
  unfold State.introduce
  split
  · exact h
  · next new =>
    have missing : c.ident ∉ s.characters.keys := fun old => new (Table.mem_keys_iff.mp old)
    refine h.setCharacter word ?_
    rcases quiet with silent | known | unrecorded
    · exact .inl silent
    · exact absurd known missing
    · exact .inr ⟨missing, unrecorded⟩

/-- Adds the character of a command that defines one. -/
def introduceOf (s : State τ) : Command → State τ
  | .define c => s.introduce c
  | _ => s

theorem introduceAll_eq (s : State τ) (program : Program) :
    s.introduceAll program = program.commands.toList.foldl introduceOf s := by
  rw [introduceAll, ← Array.foldl_toList]
  rfl

theorem mem_keys_introduceOf {command : Command} {name : Text} :
    name ∈ (s.introduceOf command).characters.keys ↔
      (∃ c, command = .define c ∧ c.ident = name) ∨ name ∈ s.characters.keys := by
  cases command with
  | define c => simp [introduceOf, mem_keys_introduce, eq_comm]
  | _ => simp [introduceOf]

/-- The characters afterwards are those that were known and those that the program defines. -/
theorem mem_keys_introduceAll {program : Program} {name : Text} :
    name ∈ (s.introduceAll program).characters.keys ↔
      (∃ c, .define c ∈ program.commands ∧ c.ident = name) ∨ name ∈ s.characters.keys := by
  rw [introduceAll_eq]
  simp only [← Array.mem_toList_iff]
  generalize program.commands.toList = commands
  induction commands generalizing s with
  | nil => simp
  | cons command rest ih =>
    rw [List.foldl_cons, ih, mem_keys_introduceOf]
    constructor
    · rintro (⟨c, later, rfl⟩ | ⟨c, rfl, rfl⟩ | old)
      · exact .inl ⟨c, List.mem_cons_of_mem _ later, rfl⟩
      · exact .inl ⟨c, List.mem_cons_self, rfl⟩
      · exact .inr old
    · rintro (⟨c, mem, rfl⟩ | old)
      · rcases List.mem_cons.mp mem with same | later
        · exact .inr (.inl ⟨c, same.symm, rfl⟩)
        · exact .inl ⟨c, later, rfl⟩
      · exact .inr (.inr old)

theorem introduced_introduceAll (s : State τ) (program : Program) :
    (s.introduceAll program).Introduced program :=
  fun c mem => mem_keys_introduceAll.mpr (.inl ⟨c, mem, rfl⟩)

theorem Regular.introduceAll (h : s.Regular) {program : Program}
    (formed : program.WellFormed)
    (quiet : s.dialogue = none ∨ s.Knows program) : (s.introduceAll program).Regular := by
  rw [introduceAll_eq]
  have known : ∀ c, .define c ∈ program.commands.toList →
      c.ident.IsWord ∧
        (s.dialogue = none ∨ c.ident ∈ s.characters.keys ∨ c.ident = unrecordedName) := by
    intro c mem
    have named : c.WellFormed Text.IsName := formed.commands _ (Array.mem_toList_iff.mp mem)
    exact ⟨named.ident.word, quiet.imp_right fun knows => knows c (Array.mem_toList_iff.mp mem)⟩
  clear quiet formed
  generalize program.commands.toList = commands at known
  induction commands generalizing s with
  | nil => exact h
  | cons command rest ih =>
    rw [List.foldl_cons]
    have later := fun c mem => known c (List.mem_cons_of_mem command mem)
    cases command with
    | define first =>
      obtain ⟨word, quiet⟩ := known first List.mem_cons_self
      refine ih (h.introduce word quiet) fun c mem => ?_
      obtain ⟨word, quiet⟩ := later c mem
      refine ⟨word, ?_⟩
      rw [introduceOf, dialogue_introduce, mem_keys_introduce]
      exact quiet.imp_right (Or.imp_left .inr)
    | _ => exact ih h later

/-! ## 5. What is waited for -/

/-- A choice is offered with its cursor on the first option. -/
theorem Regular.offer (h : s.Regular) (free : s.Free) {choice : Choice τ}
    (some : choice.options ≠ []) (first : choice.selected = .nth 0) :
    ({ s with choice := Option.some choice } : State τ).Regular :=
  { h with
    single := by simp [free.question, free.wait]
    cursor := by
      rintro c ⟨⟩ _
      exact ⟨0, List.length_pos_iff.mpr some, first⟩ }

theorem Regular.ask (h : s.Regular) (free : s.Free) (question : Question) :
    ({ s with question := some question } : State τ).Regular :=
  { h with single := by simp [free.choice, free.wait] }

theorem Regular.hold (h : s.Regular) (free : s.Free) (wait : Wait τ) :
    ({ s with wait := some wait } : State τ).Regular :=
  { h with single := by simp [free.choice, free.question] }

/-- A line is spoken by its speaker. -/
theorem Regular.say (h : s.Regular) (speaker : Option Text) (text : Text) :
    ({ s with dialogue := some (Dialogue.spoken speaker (s.speaker? speaker) text) } :
      State τ).Regular := by
  have nobody : s.characters.get? [] = none := by
    cases found : s.characters.get? [] with
    | none => rfl
    | some c => exact absurd (h.characters.word [] (Table.mem_keys_of_get? found)) (by decide)
  have same : s.speaker? speaker = speaker.bind s.characters.get? := by
    cases speaker with
    | none => rfl
    | some name =>
      cases name with
      | nil => simp [speaker?, nobody]
      | cons u rest => simp [speaker?, Option.filter]
  refine { h with line := ?_ }
  rintro line ⟨⟩
  exact .inl (by rw [same]; rfl)

theorem Regular.silent (h : s.Regular) : ({ s with dialogue := none } : State τ).Regular :=
  { h with line := .of_none rfl }

theorem Regular.chosen (h : s.Regular) : ({ s with choice := none } : State τ).Regular :=
  { h with
    single := ⟨by simp, h.single.2⟩
    cursor := by simp }

theorem Regular.answered (h : s.Regular) : ({ s with question := none } : State τ).Regular :=
  { h with single := ⟨fun some => ⟨rfl, (h.single.1 some).2⟩, by simp⟩ }

theorem Regular.waited (h : s.Regular) : ({ s with wait := none } : State τ).Regular :=
  { h with single := ⟨fun some => ⟨(h.single.1 some).1, rfl⟩, fun _ => rfl⟩ }

/-- A cursor moves from option to option. -/
theorem Regular.moveCursor (h : s.Regular) {choice : Choice τ} (pending : s.choice = some choice)
    {selected : Ordinal} (inside : ({ choice with selected } : Choice τ).CursorInside) :
    ({ s with choice := some { choice with selected } } : State τ).Regular :=
  { h with
    single := ⟨fun _ => h.single.1 (by rw [pending]; rfl), h.single.2⟩
    cursor := by
      rintro c ⟨⟩
      exact inside }

theorem Regular.readMessage (h : s.Regular) :
    ({ s with phone := { s.phone with unread := false } } : State τ).Regular := by
  refine { h with phone := fun closed empty => ?_ }
  simp only at closed empty ⊢
  rw [h.phone closed empty]

theorem Regular.dismiss (h : s.Regular) : s.dismiss.2.Regular := by
  unfold State.dismiss
  split
  · exact h.readMessage
  · split
    · exact h.silent
    · exact h

@[simp] theorem characters_dismiss (s : State τ) : s.dismiss.2.characters = s.characters := by
  unfold dismiss
  split
  · rfl
  · split <;> rfl

theorem Regular.removeAll (h : s.Regular) (gone : List Text) :
    (gone.foldl State.removeSprite s).Regular := by
  induction gone generalizing s with
  | nil => exact h
  | cons id rest ih => exact ih (h.removeSprite id)

@[simp] theorem characters_removeAll (s : State τ) (gone : List Text) :
    (gone.foldl State.removeSprite s).characters = s.characters := by
  induction gone generalizing s with
  | nil => rfl
  | cons id rest ih => exact ih (s.removeSprite id)

@[simp] theorem characters_expire [Clock τ] (s : State τ) (now : τ) (voicePlaying : Bool) :
    (s.expire now voicePlaying).characters = s.characters := characters_removeAll ..

/-- The passing of time ends things, and begins none. -/
theorem Regular.expire [Clock τ] (h : s.Regular) (now : τ) (voicePlaying : Bool) :
    (s.expire now voicePlaying).Regular := by
  unfold State.expire
  extract_lets wait notification blend gone
  apply Regular.removeAll
  refine { h with single := ?_ }
  have ended : s.wait = none → wait = none := by
    intro none
    simp [wait, none]
  exact ⟨fun some => ⟨(h.single.1 some).1, ended (h.single.1 some).2⟩,
    fun some => ended (h.single.2 some)⟩

end State

/-! ## 6. Cursors -/

theorem Ordinal.ofInt_natCast {k : Nat} (small : k < Ordinal.bound) :
    Ordinal.ofInt (Int.ofNat k) = .nth k := by
  have inside : (decide (0 ≤ Int.ofNat k) && decide (Int.ofNat k < Ordinal.bound)) = true := by
    rw [Bool.and_eq_true, decide_eq_true_eq, decide_eq_true_eq]
    exact ⟨Int.natCast_nonneg k, Int.ofNat_lt.mpr small⟩
  rw [Ordinal.ofInt, if_pos inside]
  rfl

/-- Turning to a sum that is not negative ends on its remainder. -/
theorem Ordinal.turn_eq {k sum count : Nat} (some : 0 < count) (counted : count < Ordinal.bound)
    {terms : List Int} (same : terms.foldl (· + ·) (Int.ofNat k) = Int.ofNat sum) :
    (Ordinal.nth k).turn terms count = .nth (sum % count) := by
  rw [Ordinal.turn, if_neg (by omega), same]
  have rest : (Int.ofNat sum).tmod (Int.ofNat count) = Int.ofNat (sum % count) := rfl
  rw [rest, Ordinal.ofInt_natCast (Nat.lt_trans (Nat.mod_lt _ some) counted)]

/-- Turning ends on an entry, if it does not begin too far back. -/
theorem Ordinal.turn_inside {k count : Nat} (some : 0 < count) (counted : count < Ordinal.bound)
    {terms : List Int} (ahead : 0 ≤ terms.foldl (· + ·) (Int.ofNat k)) :
    ∃ j < count, (Ordinal.nth k).turn terms count = .nth j := by
  obtain ⟨sum, same⟩ := Int.eq_ofNat_of_zero_le ahead
  exact ⟨sum % count, Nat.mod_lt _ some, Ordinal.turn_eq some counted same⟩

/-- Turning by one entry, back or ahead, ends on an entry. -/
theorem Ordinal.turn_once {k count : Nat} (inside : k < count) (counted : count < Ordinal.bound)
    {terms : List Int} (once : terms = [-1, Int.ofNat count] ∨ terms = [1]) :
    ∃ j < count, (Ordinal.nth k).turn terms count = .nth j := by
  refine turn_inside (Nat.zero_lt_of_lt inside) counted ?_
  rcases once with rfl | rfl
  · simp only [List.foldl_cons, List.foldl_nil, Int.ofNat_eq_natCast]
    omega
  · simp only [List.foldl_cons, List.foldl_nil, Int.ofNat_eq_natCast]
    omega

/-! ## 7. All changes -/

/-- What a program puts something under is a word. -/
theorem Program.WellFormed.word {program : Program} (formed : program.WellFormed) {name : Text}
    (named : program.Names name) : name.IsWord := by
  obtain ⟨c, mem, own⟩ := named
  have spelled := formed.commands c mem
  cases c with
  | «show» | showCharacter | showMeter =>
    cases own
    exact spelled.word
  | addItem =>
    cases own
    exact spelled.1.word
  | _ => cases own

namespace State

variable {τ : Type} {program : Program} {s t : State τ}

/-- The cursor of a choice turns from option to option. -/
theorem Regular.turn (h : s.Regular) {choice : Choice τ} (pending : s.choice = some choice)
    {terms : List Int} (once : terms = [-1, Int.ofNat choice.options.length] ∨ terms = [1]) :
    ({ s with
      choice := some { choice with
        selected := choice.selected.turn terms choice.options.length } } : State τ).Regular := by
  refine h.moveCursor pending fun counted => ?_
  obtain ⟨k, inside, cursor⟩ := h.cursor choice pending counted
  simp only [cursor]
  exact Ordinal.turn_once inside counted once

variable [Clock τ]

/-- Every change that the story of a program makes keeps a state regular. -/
theorem Change.regular (formed : program.WellFormed) (change : s.Change program t)
    (h : s.Regular) : t.Regular := by
  cases change with
  | placeSprite named staying screen pos => exact h.placeSprite screen (formed.word named) pos
  | hideSprite name transition => exact h.hideSprite name transition
  | removeSprite id => exact h.removeSprite id
  | clearSprites => exact h.clearSprites
  | animate found mem now => exact h.animate found _ _ _ now
  | moveSprites now => exact h.moveSprites now
  | refreshMeter name => exact h.refreshMeter name
  | setMeter named meter => exact { h with meters := h.meters.set (formed.word named) meter }
  | eraseMeter name => exact { h with meters := h.meters.erase name }
  | clearMeters => exact { h with meters := .empty }
  | addItem named item => exact h.addItem (formed.word named) item
  | takeItem id amount => exact h.takeItem id amount
  | clearItems => exact { h with inventory := .empty }
  | define mem free =>
    have named : Character.WellFormed Text.IsName _ := formed.commands _ mem
    exact h.setCharacter named.ident.word (.inl free.dialogue)
  | say free speaker text => exact h.say speaker text
  | silence => exact h.silent
  | offer free inside mem =>
    refine h.offer free ?_ rfl
    have options := (formed.commands _ mem).1
    simpa using options
  | turn pending once => exact h.turn pending once
  | choose => exact h.chosen
  | ask free inside question => exact h.ask free question
  | edit pending =>
    refine { h with single := ⟨fun some => ?_, fun _ => h.single.2 (by rw [pending]; rfl)⟩ }
    rw [(h.single.1 some).1] at pending
    cases pending
  | answer => exact h.answered
  | hold free wait => exact h.hold free wait
  | release => exact h.waited
  | openPhone free contact => exact { h with phone := fun closed => by cases closed }
  | message free side text =>
    exact { h with phone := fun _ empty => absurd empty (by simp) }
  | readMessage => exact h.readMessage
  | closePhone free => exact { h with phone := fun _ _ => rfl }
  | hotspot mem => exact { h with hotspots := h.hotspots.set_of_eq rfl }
  | eraseHotspot name => exact { h with hotspots := h.hotspots.erase name }
  | clearHotspots => exact { h with hotspots := .empty }
  | button mem => exact { h with hud := h.hud.set _ }
  | eraseButton name => exact { h with hud := h.hud.erase name }
  | clearButtons => exact { h with hud := .empty }
  | plain | lookAt | lookAhead | stopAll | stopSprite | setVariable | showMap | mapPoint | closeMap
  | next | goto => exact { h with }

/-- No change of a state forgets a character. -/
theorem Change.mem_characters (change : s.Change program t) {name : Text}
    (known : name ∈ s.characters.keys) : name ∈ t.characters.keys := by
  cases change with
  | define => exact Table.mem_keys_set.mpr (.inr known)
  | hideSprite name transition =>
    obtain ⟨_, _, same⟩ := s.hideSprite_frame name transition
    rwa [same]
  | @animate name sprite found goal seconds ease mem now =>
    obtain ⟨_, _, same⟩ := s.animate_frame name sprite goal seconds ease now
    rwa [same]
  | takeItem id amount =>
    obtain ⟨_, same⟩ := s.takeItem_frame id amount
    rwa [same]
  | _ => exact known

end State
end VisualNovel
