import VisualNovel.Proofs.Clock
import VisualNovel.Proofs.Script.Reading
import VisualNovel.Proofs.Table
import VisualNovel.Story.Snapshot

/-!
What a snapshot gives back.

`Snapshot.toState` undoes `Snapshot.ofState` up to the clock and up to what is not saved, for states
that are `Regular`: names are words, what has a name of its own is kept under it, at most one thing
is waited for, the cursor of a choice stands on an option, the line that is shown is that of
its speaker, and a phone without a conversation is the empty one. `State.rebased` says which state
comes back. On a clock that counts exactly a snapshot of it is the snapshot it was made from.
-/

namespace VisualNovel

/-! ## 1. Tables of a record -/

/-- A word is not an index number, because these begin with a digit. -/
theorem indexName?_of_isWord {name : Text} (h : name.IsWord) : indexName? name = none := by
  cases name with
  | nil => rfl
  | cons u rest =>
    have start : (Lexer.isWordStart u || u = Text.unit ':') = true := h
    have units : (Text.unit '0').toNat = 48 ∧ (Text.unit '9').toNat = 57 ∧
        (Text.unit 'A').toNat = 65 ∧ (Text.unit 'a').toNat = 97 ∧ (Text.unit '_').toNat = 95 ∧
        (Text.unit '$').toNat = 36 ∧ (Text.unit ':').toNat = 58 := by
      decide
    have other : Text.isDigit u = false := by
      simp only [Lexer.isWordStart, Text.isLetter, Bool.or_eq_true, Bool.and_eq_true,
        decide_eq_true_eq, UInt16.le_iff_toNat_le, ← UInt16.toNat_inj] at start
      simp only [Text.isDigit, Bool.and_eq_false_iff, decide_eq_false_iff_not,
        UInt16.le_iff_toNat_le]
      omega
    simp [indexName?, other]

namespace Table

variable {α : Type}

/-- The names are words, and no name occurs twice. -/
structure Worded (t : Table α) : Prop where
  word : ∀ name ∈ t.keys, name.IsWord
  distinct : t.keys.Nodup

namespace Worded

variable {t : Table α}

theorem empty : Worded (⟨[]⟩ : Table α) := ⟨by simp [keys], by simp [keys]⟩

theorem set (h : t.Worded) {name : Text} (word : name.IsWord) (value : α) :
    (t.set name value).Worded where
  word key mem := by
    rcases mem_keys_set.mp mem with rfl | old
    · exact word
    · exact h.word key old
  distinct := nodup_keys_set h.distinct _ _

theorem erase (h : t.Worded) (name : Text) : (t.erase name).Worded where
  word key mem := h.word key (mem_keys_erase.mp mem).1
  distinct := nodup_keys_erase h.distinct name

/-- Nothing else matters than the names. -/
theorem of_keys {β : Type} {u : Table β} (h : t.Worded) (same : u.keys = t.keys) : u.Worded := by
  constructor
  · rw [same]
    exact h.word
  · rw [same]
    exact h.distinct

/-- Such a table comes back from a record as it was, but for the name that no record keeps. -/
theorem recorded_eq (h : t.Worded) : t.recorded = t.erase unrecordedName := by
  rw [recorded, recordEntries, recordOrder_eq]
  · rfl
  · intro e mem
    exact indexName?_of_isWord (h.word e.1 (List.mem_map_of_mem (List.mem_filter.mp mem).1))

end Worded

theorem Worded.recorded_of_not_mem {t : Table α} (h : t.Worded) (kept : unrecordedName ∉ t.keys) :
    t.recorded = t := by
  rw [h.recorded_eq, erase_of_not_mem kept]

/-- Every entry is kept under the name it has itself, and no name occurs twice. -/
structure OwnNamed (t : Table α) (name : α → Text) : Prop where
  own : ∀ e ∈ t.entries, e.1 = name e.2
  distinct : t.keys.Nodup

namespace OwnNamed

variable {t : Table α} {name : α → Text}

theorem empty : OwnNamed (⟨[]⟩ : Table α) name := ⟨by simp, by simp [keys]⟩

theorem set (h : t.OwnNamed name) (value : α) : (t.set (name value) value).OwnNamed name where
  own e mem := by
    rcases mem_setEntry mem with rfl | old
    · rfl
    · exact h.own e old
  distinct := nodup_keys_set h.distinct _ _

theorem erase (h : t.OwnNamed name) (gone : Text) : (t.erase gone).OwnNamed name where
  own e mem := h.own e (List.mem_filter.mp mem).1
  distinct := nodup_keys_erase h.distinct gone

/-- The names of such a table say what its values are called. -/
theorem mapNamed_eq (h : t.OwnNamed name) {call : Text → α → α}
    (same : ∀ value, call (name value) value = value) : t.mapNamed call = t := by
  have entries : t.entries.map (fun e => (e.1, call e.1 e.2)) = t.entries.map id := by
    apply List.map_congr_left
    intro e mem
    rw [h.own e mem, same, ← h.own e mem]
    rfl
  rw [mapNamed, entries, List.map_id]

theorem mapNamed {β : Type} {u : Table β} (distinct : u.keys.Nodup) {call : Text → β → α}
    (own : ∀ key value, name (call key value) = key) : (u.mapNamed call).OwnNamed name where
  own e mem := by
    obtain ⟨old, _, rfl⟩ := List.mem_map.mp mem
    exact (own old.1 old.2).symm
  distinct := by
    rw [keys_mapNamed]
    exact distinct

/-- Values that are set one after another under their names. -/
theorem ofEntries (name : α → Text) (values : List α) :
    (Table.ofEntries (values.map fun value => (name value, value))).OwnNamed name := by
  have general : ∀ (done : Table α), done.OwnNamed name →
      ((values.map fun value => (name value, value)).foldl (fun t e => t.set e.1 e.2) done).OwnNamed
        name := by
    induction values with
    | nil => exact fun done h => h
    | cons value rest ih => exact fun done h => ih _ (h.set value)
  exact general _ empty

/-- The values of such a table are enough to build it again. -/
theorem ofEntries_values (h : t.OwnNamed name) :
    Table.ofEntries (t.values.map fun value => (name value, value)) = t := by
  have entries : t.values.map (fun value => (name value, value)) = t.entries := by
    rw [values, List.map_map]
    conv => rhs; rw [← List.map_id t.entries]
    apply List.map_congr_left
    intro e mem
    exact Prod.ext (h.own e mem).symm rfl
  rw [entries, ofEntries_eq h.distinct]

end OwnNamed
end Table

/-! ## 2. Regular states -/

variable {τ : Type}

/-- The line that is shown is that of its speaker. A speaker whom no record keeps can have been
introduced only after the line came out of one. -/
def State.LineSpoken (s : State τ) : Prop :=
  ∀ line ∈ s.dialogue,
    line = Dialogue.spoken line.speaker (line.speaker.bind s.characters.get?) line.text ∨
      (line.speaker = some unrecordedName ∧ unrecordedName ∈ s.characters.keys)

/-- The cursor of a choice that can be counted stands on an option. -/
def Choice.CursorInside (c : Choice τ) : Prop :=
  c.options.length < Ordinal.bound → ∃ k < c.options.length, c.selected = .nth k

/-- What holds of every state that a story comes to. -/
structure State.Regular (s : State τ) : Prop where
  sprites : s.sprites.Worded
  inventory : s.inventory.Worded
  meters : s.meters.Worded
  characters : s.characters.Worded
  spriteNames : s.sprites.OwnNamed Sprite.id
  characterNames : s.characters.OwnNamed Character.ident
  hud : s.hud.OwnNamed HudButton.name
  hotspots : s.hotspots.OwnNamed Hotspot.name
  /-- At most one of the three is waited for that share a place in a snapshot. -/
  single : (s.choice.isSome → s.question = none ∧ s.wait = none) ∧ (s.question.isSome → s.wait = none)
  cursor : ∀ c ∈ s.choice, c.CursorInside
  line : s.LineSpoken
  phone : s.phone.active = false → s.phone.messages = #[] → s.phone = {}

/-- What a state must not hold to come back from a snapshot: an entry under the name that no record
keeps, or a choice too long to be counted. -/
structure State.Storable (s : State τ) : Prop where
  sprites : unrecordedName ∉ s.sprites.keys
  inventory : unrecordedName ∉ s.inventory.keys
  meters : unrecordedName ∉ s.meters.keys
  characters : unrecordedName ∉ s.characters.keys
  choice : ∀ c ∈ s.choice, c.options.length < Ordinal.bound

/-- The state that comes back from a snapshot. What is not saved is gone, and moments keep their
distance to the clock. -/
def State.rebased [Clock τ] (s : State τ) (taken now : τ) : State τ :=
  let began := fun moment => Clock.sub now (Clock.ago taken moment)
  { s with
    background := { s.background with transition := none }
    sprites := s.sprites.map (·.mapTime began)
    tracks := {}
    choice := s.choice.map (·.mapTime began)
    wait := s.wait.map (·.mapTime fun due => Clock.add now (Clock.ahead taken due))
    notification := none
    blend := none
    loading := none
    video := none }

/-- Moments of sprites that are changed twice. -/
theorem Sprite.map_mapTime {σ υ : Type} (f : τ → σ) (g : σ → υ) (sprites : Table (Sprite τ)) :
    (sprites.map (·.mapTime f)).map (·.mapTime g) = sprites.map (·.mapTime fun m => g (f m)) := by
  simp [Table.map, Sprite.mapTime, Transition.mapTime, Function.comp_def]

/-- Sprites that are called by the names they are kept under. -/
theorem Sprite.mapNamed_mapTime {σ υ : Type} (f : τ → σ) (g : σ → υ) {sprites : Table (Sprite τ)}
    (own : sprites.OwnNamed Sprite.id) :
    ((sprites.map (·.mapTime f)).mapNamed fun id sprite => { sprite.mapTime g with id }) =
      sprites.map (·.mapTime fun m => g (f m)) := by
  have renamed : ((sprites.map (·.mapTime f)).mapNamed fun id sprite =>
        { sprite.mapTime g with id }) =
      ((sprites.mapNamed fun id sprite => { sprite with id }).map (·.mapTime f)).map
        (·.mapTime g) := by
    simp [Table.map, Table.mapNamed, Sprite.mapTime, Function.comp_def]
  rw [renamed, own.mapNamed_eq fun _ => rfl, Sprite.map_mapTime]

theorem Ordinal.clampTo_nth {k count : Nat} (inside : k < count) :
    (Ordinal.nth k).clampTo count = .nth k := by
  rw [Ordinal.clampTo, if_neg (by omega), Nat.min_eq_left (by omega)]

namespace Snapshot

theorem dialogueOf_spoken {s : State τ} (spoken : s.LineSpoken)
    (kept : unrecordedName ∉ s.characters.keys) :
    (s.dialogue.map fun d => (⟨d.speaker, d.text⟩ : SavedLine)).map (dialogueOf s.characters) =
      s.dialogue := by
  cases shown : s.dialogue with
  | none => rfl
  | some line =>
    rcases spoken line shown with same | ⟨_, known⟩
    · exact congrArg some same.symm
    · exact absurd known kept

theorem phoneOf_getD {phone : Phone}
    (empty : phone.active = false → phone.messages = #[] → phone = {}) :
    (phoneOf phone).getD {} = phone := by
  unfold phoneOf
  split
  · rfl
  · next closed =>
    simp only [Bool.or_eq_true, Bool.not_eq_true', not_or, Bool.not_eq_true, Bool.not_eq_false,
      Array.isEmpty_iff] at closed
    exact (empty closed.1 closed.2).symm

variable [Clock τ]

/-- What a regular state waits for comes back. -/
theorem blocker_waitingOf {s : State τ} (regular : s.Regular) (storable : s.Storable)
    (taken now : τ) :
    choiceOf (waitingOf s taken) now = (s.rebased taken now).choice ∧
      questionOf (waitingOf s taken) = s.question ∧
      waitOf (waitingOf s taken) now = (s.rebased taken now).wait := by
  obtain ⟨choosing, asking⟩ := regular.single
  cases pending : s.choice with
  | some choice =>
    obtain ⟨noQuestion, noWait⟩ := choosing (by rw [pending]; rfl)
    obtain ⟨k, inside, cursor⟩ := regular.cursor choice pending (storable.choice choice pending)
    have stays : choice.selected.clampTo choice.options.length = choice.selected := by
      rw [cursor, Ordinal.clampTo_nth inside]
    have waiting : waitingOf s taken = some (.choice (choice.mapTime (Clock.ago taken))) := by
      simp [waitingOf, pending]
    rw [waiting, noQuestion]
    simp [choiceOf, questionOf, waitOf, State.rebased, pending, noWait, Choice.mapTime, stays]
  | none =>
    cases asked : s.question with
    | some question =>
      have noWait := asking (by rw [asked]; rfl)
      have waiting : waitingOf s taken = some (.question question) := by
        simp [waitingOf, pending, asked]
      rw [waiting]
      simp [choiceOf, questionOf, waitOf, State.rebased, pending, noWait]
    | none =>
      cases waited : s.wait with
      | some wait =>
        have waiting : waitingOf s taken = some (.wait (wait.mapTime (Clock.ahead taken))) := by
          simp [waitingOf, pending, asked, waited]
        rw [waiting]
        cases wait <;> simp [choiceOf, questionOf, waitOf, State.rebased, pending, waited, Wait.mapTime]
      | none =>
        have waiting : waitingOf s taken = none := by simp [waitingOf, pending, asked, waited]
        rw [waiting]
        simp [choiceOf, questionOf, waitOf, State.rebased, pending, waited]

/-- A regular state comes back from its snapshot. -/
theorem toState_ofState {s : State τ} (regular : s.Regular) (storable : s.Storable)
    (script : Text) (taken now : τ) :
    (ofState s script taken).toState now = s.rebased taken now := by
  obtain ⟨choice, question, wait⟩ := blocker_waitingOf regular storable taken now
  have sprites : (s.sprites.map (·.mapTime (Clock.ago taken))).recorded =
      s.sprites.map (·.mapTime (Clock.ago taken)) :=
    (regular.sprites.of_keys (Table.keys_map ..)).recorded_of_not_mem
      (by simpa using storable.sprites)
  have moved : ((s.sprites.map (·.mapTime (Clock.ago taken))).mapNamed fun id sprite =>
      { sprite.mapTime (Clock.sub now) with id }) = (s.rebased taken now).sprites :=
    Sprite.mapNamed_mapTime _ _ regular.spriteNames
  have called : (s.characters.mapNamed fun ident character => { character with ident }) =
      s.characters :=
    regular.characterNames.mapNamed_eq fun _ => rfl
  simp only [toState, ofState, choice, question, wait, sprites, moved, called,
    regular.inventory.recorded_of_not_mem storable.inventory,
    regular.meters.recorded_of_not_mem storable.meters,
    regular.characters.recorded_of_not_mem storable.characters,
    regular.hud.ofEntries_values, regular.hotspots.ofEntries_values,
    dialogueOf_spoken regular.line storable.characters, phoneOf_getD regular.phone]
  rfl

/-- On an exact clock the state that came back has the snapshot that it came from. -/
theorem ofState_rebased (exact : Clock.Exact τ) (s : State τ) (script : Text) (taken now : τ) :
    ofState (s.rebased taken now) script now = ofState s script taken := by
  have sprites : ((s.rebased taken now).sprites.map (·.mapTime (Clock.ago now))) =
      s.sprites.map (·.mapTime (Clock.ago taken)) := by
    rw [State.rebased, Sprite.map_mapTime]
    simp only [exact.ago_sub]
  have waiting : waitingOf (s.rebased taken now) now = waitingOf s taken := by
    simp only [waitingOf, State.rebased]
    cases s.choice with
    | some choice => simp [Choice.mapTime, exact.ago_sub]
    | none =>
      cases s.question with
      | some question => rfl
      | none =>
        cases s.wait with
        | some wait => cases wait <;> simp [Wait.mapTime, exact.ahead_add]
        | none => rfl
  simp only [ofState, sprites, waiting]
  rfl

end Snapshot

end VisualNovel
