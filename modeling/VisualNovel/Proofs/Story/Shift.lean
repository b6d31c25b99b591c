import VisualNovel.Proofs.Clock
import VisualNovel.Proofs.Story.Regular

/-!
Moments moved all at once.

`State.shift f` is a state with `f` applied to every moment in it: to what a sprite, a background or
a blend remembers as its beginning, to the start of a movement and of a choice, and to what a timer
or a notice waits for. The playback of a video belongs to its player and stays as it is. Where `f`
leaves the times between moments as they are, what can be seen of a state does not change
(`Sprite.isGone`, `Track.sample`), the passing of time commutes with the shift
(`State.expire_shift`, `State.moveSprites_shift`), and a snapshot, which holds durations only, does
not notice it (`Snapshot.ofState_shift`, `Snapshot.toState_shift`).
-/

namespace VisualNovel

variable {τ : Type} {f : τ → τ}

/-- The notice with its moment changed. -/
def Notification.mapTime {σ : Type} (f : τ → σ) (n : Notification τ) : Notification σ :=
  { n with due := f n.due }

/-- The state with all its moments changed. -/
def State.shift (f : τ → τ) (s : State τ) : State τ :=
  { s with
    background := s.background.mapTime f
    sprites := s.sprites.map (·.mapTime f)
    tracks := s.tracks.map (·.mapTime f)
    choice := s.choice.map (·.mapTime f)
    wait := s.wait.map (·.mapTime f)
    notification := s.notification.map (·.mapTime f)
    blend := s.blend.map (·.mapTime f) }

section Fields

variable (s : State τ)

@[simp] theorem State.vars_shift : (s.shift f).vars = s.vars := rfl

@[simp] theorem State.sprites_shift : (s.shift f).sprites = s.sprites.map (·.mapTime f) := rfl

@[simp] theorem State.characters_shift : (s.shift f).characters = s.characters := rfl

@[simp] theorem State.dialogue_shift : (s.shift f).dialogue = s.dialogue := rfl

@[simp] theorem State.choice_shift : (s.shift f).choice = s.choice.map (·.mapTime f) := rfl

@[simp] theorem State.question_shift : (s.shift f).question = s.question := rfl

@[simp] theorem State.wait_shift : (s.shift f).wait = s.wait.map (·.mapTime f) := rfl

@[simp] theorem State.inventory_shift : (s.shift f).inventory = s.inventory := rfl

@[simp] theorem State.inventoryPage_shift : (s.shift f).inventoryPage = s.inventoryPage := rfl

@[simp] theorem State.map_shift : (s.shift f).map = s.map := rfl

@[simp] theorem State.phone_shift : (s.shift f).phone = s.phone := rfl

@[simp] theorem State.video_shift : (s.shift f).video = s.video := rfl

@[simp] theorem State.index_shift : (s.shift f).index = s.index := rfl

end Fields

/-! ## 1. Sprites and their tracks -/

section Tracks

variable (f) (tracks : Tracks τ) (action : TrackAction)

theorem Tracks.get?_mapTime :
    (tracks.mapTime f).get? action = (tracks.get? action).map (·.mapTime f) := by
  cases action <;> rfl

theorem Tracks.put_mapTime (track : Option (Track τ)) :
    (tracks.mapTime f).put action (track.map (·.mapTime f)) =
      (tracks.put action track).mapTime f := by
  cases action <;> rfl

theorem Tracks.isEmpty_mapTime : (tracks.mapTime f).isEmpty = tracks.isEmpty := by
  simp [Tracks.isEmpty, Tracks.get?_mapTime]

theorem Sprite.put_mapTime (sprite : Sprite τ) (values : List Float) :
    (sprite.mapTime f).put action values = (sprite.put action values).mapTime f := by
  cases action <;> rfl

theorem Sprite.numbers_mapTime (sprite : Sprite τ) :
    (sprite.mapTime f).numbers action = sprite.numbers action := by
  cases action <;> rfl

end Tracks

theorem Transition.ofSpec_shift (f : τ → τ) (spec : TransitionSpec) (now : τ) :
    Transition.ofSpec spec (f now) = (Transition.ofSpec spec now).map (·.mapTime f) := by
  simp [Transition.ofSpec, Transition.mapTime, Function.comp_def]

/-- A sprite and its tracks with their moments changed. -/
def shiftMoving (f : τ → τ) (moving : Sprite τ × Tracks τ) : Sprite τ × Tracks τ :=
  (moving.1.mapTime f, moving.2.mapTime f)

/-- All sprites and their tracks with their moments changed. -/
def shiftScene (f : τ → τ) (scene : Table (Sprite τ) × Table (Tracks τ)) :
    Table (Sprite τ) × Table (Tracks τ) :=
  (scene.1.map (·.mapTime f), scene.2.map (·.mapTime f))

section Stage

variable [Clock τ] (shift : Clock.Shift f) (now : τ)

include shift

theorem Transition.isOver_mapTime (t : Transition τ) :
    (t.mapTime f).isOver (f now) = t.isOver now := by
  show Clock.reached (f now) (Clock.after (f t.started) t.seconds) = _
  rw [shift.after, shift.reached, Transition.isOver]

theorem Sprite.isGone_mapTime (sprite : Sprite τ) :
    (sprite.mapTime f).isGone (f now) = sprite.isGone now := by
  simp [Sprite.isGone, Sprite.mapTime, Function.comp_def, Transition.isOver_mapTime shift]

/-- A track shows the same at the same time after its start. -/
theorem Track.sample_mapTime (track : Track τ) :
    (track.mapTime f).sample (f now) = track.sample now := by
  have portion : (track.mapTime f).portion (f now) = track.portion now := by
    simp only [Track.portion, Track.mapTime, shift.between]
  simp only [Track.sample, portion]
  rfl

theorem advanceTrack_shift (moving : Sprite τ × Tracks τ) (action : TrackAction) :
    advanceTrack (f now) (shiftMoving f moving) action =
      shiftMoving f (advanceTrack now moving action) := by
  unfold advanceTrack shiftMoving
  simp only [Tracks.get?_mapTime]
  cases moving.2.get? action with
  | none => rfl
  | some track =>
    simp only [Option.map_some, Track.sample_mapTime shift, Sprite.put_mapTime]
    split
    · rw [← Tracks.put_mapTime f moving.2 action none]
      rfl
    · rfl

/-- The tracks of one sprite after another: what is left of them, and what has become of the
sprite. -/
theorem advanceSprite_shift (moving : Sprite τ × Tracks τ) (actions : List TrackAction) :
    actions.foldl (advanceTrack (f now)) (shiftMoving f moving) =
      shiftMoving f (actions.foldl (advanceTrack now) moving) := by
  induction actions generalizing moving with
  | nil => rfl
  | cons action rest ih =>
    rw [List.foldl_cons, advanceTrack_shift shift, ih]
    rfl

theorem advanceEntry_shift (scene : Table (Sprite τ) × Table (Tracks τ)) (entry : Text × Tracks τ) :
    advanceEntry (f now) (shiftScene f scene) (entry.1, entry.2.mapTime f) =
      shiftScene f (advanceEntry now scene entry) := by
  unfold advanceEntry shiftScene
  simp only [Table.get?_map]
  cases scene.1.get? entry.1 with
  | none => simp only [Option.map_none, Table.erase_map]
  | some sprite =>
    have moved := advanceSprite_shift shift now (sprite, entry.2) TrackAction.all
    simp only [shiftMoving] at moved
    simp only [Option.map_some, moved, Tracks.isEmpty_mapTime, Table.set_map]
    split
    · rw [Table.erase_map]
    · rfl

theorem advanceTracks_shift (sprites : Table (Sprite τ)) (tracks : Table (Tracks τ)) :
    advanceTracks (f now) (sprites.map (·.mapTime f)) (tracks.map (·.mapTime f)) =
      shiftScene f (advanceTracks now sprites tracks) := by
  have each : ∀ (entries : List (Text × Tracks τ)) (scene : Table (Sprite τ) × Table (Tracks τ)),
      (entries.map fun e => (e.1, e.2.mapTime f)).foldl (advanceEntry (f now)) (shiftScene f scene) =
        shiftScene f (entries.foldl (advanceEntry now) scene) := by
    intro entries
    induction entries with
    | nil => exact fun _ => rfl
    | cons entry rest ih =>
      intro scene
      rw [List.map_cons, List.foldl_cons, advanceEntry_shift shift, ih]
      rfl
  exact each tracks.entries (sprites, tracks)

end Stage

/-! ## 2. Operations on a state -/

namespace State

variable (s : State τ)

theorem removeSprite_shift (id : Text) :
    (s.shift f).removeSprite id = (s.removeSprite id).shift f := by
  simp only [removeSprite, shift, Table.erase_map]

theorem introduce_shift (c : Character) :
    (s.shift f).introduce c = (s.introduce c).shift f := by
  unfold introduce
  rw [apply_ite (State.shift f)]
  rfl

theorem introduceAll_shift (program : Program) :
    (s.shift f).introduceAll program = (s.introduceAll program).shift f := by
  rw [introduceAll_eq, introduceAll_eq]
  generalize program.commands.toList = commands
  induction commands generalizing s with
  | nil => rfl
  | cons command rest ih =>
    have one : (s.shift f).introduceOf command = (s.introduceOf command).shift f := by
      cases command with
      | define c => exact s.introduce_shift c
      | _ => rfl
    rw [List.foldl_cons, List.foldl_cons, one, ih]

theorem takeItem_shift (id : Text) (amount : Float) :
    (s.shift f).takeItem id amount = (s.takeItem id amount).shift f := by
  unfold takeItem
  simp only [inventory_shift]
  cases s.inventory.get? id <;> rfl

theorem dismiss_shift : (s.shift f).dismiss = (s.dismiss.1, s.dismiss.2.shift f) := by
  unfold dismiss
  cases unread : s.phone.unread with
  | true =>
    simp only [phone_shift, unread, if_true]
    rfl
  | false =>
    simp only [phone_shift, dialogue_shift, unread, Bool.false_eq_true, if_false]
    cases s.dialogue <;> rfl

/-- A sprite is put at the same place. -/
theorem placeSprite_shift (screen : Screen) (sprite : Sprite τ) (pos : Option Point) :
    (s.shift f).placeSprite screen (sprite.mapTime f) pos =
      (s.placeSprite screen sprite pos).shift f := by
  have place : placeOf (sprite.mapTime f) pos ((s.sprites.get? sprite.id).map (·.mapTime f)) screen =
      placeOf sprite pos (s.sprites.get? sprite.id) screen := by
    cases pos with
    | some p => rfl
    | none =>
      show placeOf { sprite with transition := _ } none _ screen = _
      unfold placeOf
      cases sprite.anchor <;> cases s.sprites.get? sprite.id <;> rfl
  have found : (s.shift f).sprites.get? (sprite.mapTime f).id =
      (s.sprites.get? sprite.id).map (·.mapTime f) := Table.get?_map _ s.sprites sprite.id
  unfold placeSprite
  simp only [found, place]
  simp only [shift, ← Table.set_map]
  simp [Sprite.mapTime, Function.comp_def]

theorem hideSprite_shift (name : Text) (transition : Option (Transition τ)) :
    (s.shift f).hideSprite name (transition.map (·.mapTime f)) =
      (s.hideSprite name transition).shift f := by
  cases transition with
  | none => exact s.removeSprite_shift name
  | some t =>
    unfold hideSprite
    simp only [Option.map_some]
    by_cases time : 0.0 < t.seconds
    · rw [if_pos time, if_pos (show 0.0 < (t.mapTime f).seconds from time)]
      have hidden : (s.sprites.map (·.mapTime f)).modify name (fun sprite =>
            { sprite with transition := some (t.mapTime f), leaving := true }) =
          (s.sprites.modify name fun sprite =>
            { sprite with transition := some t, leaving := true }).map (·.mapTime f) :=
        Table.modify_map _ _ _ fun _ => rfl
      simp only [shift, hidden]
    · rw [if_neg time, if_neg (show ¬ 0.0 < (t.mapTime f).seconds from time)]
      exact s.removeSprite_shift name

theorem animate_shift (name : Text) (sprite : Sprite τ) (goal : AnimationGoal) (seconds : Float)
    (ease : Ease) (now : τ) :
    (s.shift f).animate name (sprite.mapTime f) goal seconds ease (f now) =
      (s.animate name sprite goal seconds ease now).shift f := by
  have tracks : ((s.shift f).tracks.get? name).getD {} =
      ((s.tracks.get? name).getD {}).mapTime f := by
    show ((s.tracks.map (·.mapTime f)).get? name).getD {} = _
    rw [Table.get?_map]
    cases s.tracks.get? name <;> rfl
  unfold animate
  simp only [tracks, Sprite.put_mapTime, Sprite.numbers_mapTime]
  split
  · have done := Tracks.put_mapTime f ((s.tracks.get? name).getD {}) goal.action none
    rw [Option.map_none] at done
    simp only [done, shift, Table.set_map]
  · have begun := fun track => Tracks.put_mapTime f ((s.tracks.get? name).getD {}) goal.action (some track)
    simp only [shift, ← Table.set_map, ← begun]
    rfl

variable [Clock τ] (shift : Clock.Shift f) (now : τ)

include shift

/-- What is over is over at the same time. -/
theorem expire_shift (voicePlaying : Bool) :
    (s.shift f).expire (f now) voicePlaying = (s.expire now voicePlaying).shift f := by
  have removed : ∀ (gone : List Text) (t : State τ),
      gone.foldl removeSprite (t.shift f) = (gone.foldl removeSprite t).shift f := by
    intro gone
    induction gone with
    | nil => exact fun _ => rfl
    | cons id rest ih =>
      intro t
      rw [List.foldl_cons, removeSprite_shift, ih]
      rfl
  have gone : ((s.shift f).sprites.values.filter (·.isGone (f now))).map (·.id) =
      (s.sprites.values.filter (·.isGone now)).map (·.id) := by
    show (((s.sprites.map (·.mapTime f)).values.filter (·.isGone (f now))).map (·.id)) = _
    simp only [Table.values_map, List.filter_map, Function.comp_def, Sprite.isGone_mapTime shift,
      List.map_map]
    rfl
  have notice : (s.notification.map (·.mapTime f)).filter (fun n => !Clock.reached (f now) n.due) =
      (s.notification.filter fun n => !Clock.reached now n.due).map (·.mapTime f) := by
    simp [Option.filter_map, Function.comp_def, Notification.mapTime, shift.reached]
  have blend : (s.blend.map (·.mapTime f)).filter (fun b => !b.isOver (f now)) =
      (s.blend.filter fun b => !b.isOver now).map (·.mapTime f) := by
    simp [Option.filter_map, Function.comp_def, Transition.isOver_mapTime shift]
  unfold expire
  simp only [gone]
  rw [← removed]
  congr 1
  unfold State.shift
  simp only [notice, blend]
  cases s.wait with
  | none => rfl
  | some wait =>
    cases wait with
    | timer due =>
      simp only [Option.map_some, Wait.mapTime, shift.reached]
      split <;> rfl
    | voice => cases voicePlaying <;> rfl
    | video => rfl

theorem moveSprites_shift : (s.shift f).moveSprites (f now) = (s.moveSprites now).shift f := by
  unfold moveSprites
  simp only [State.shift, advanceTracks_shift shift, shiftScene]

end State

/-! ## 3. Snapshots -/

namespace Snapshot

variable [Clock τ] (shift : Clock.Shift f) (now : τ)

include shift

/-- A snapshot does not tell at what time it was taken. -/
theorem ofState_shift (s : State τ) (script : Text) :
    ofState (s.shift f) script (f now) = ofState s script now := by
  have sprites : (s.sprites.map (·.mapTime f)).map (·.mapTime (Clock.ago (f now))) =
      s.sprites.map (·.mapTime (Clock.ago now)) := by
    simp only [Sprite.map_mapTime, shift.ago]
  have waiting : waitingOf (s.shift f) (f now) = waitingOf s now := by
    unfold waitingOf State.shift
    cases s.choice with
    | some choice => simp [Choice.mapTime, shift.ago]
    | none =>
      cases s.question with
      | some question => rfl
      | none =>
        cases s.wait with
        | none => rfl
        | some wait => cases wait <;> simp [Wait.mapTime, shift.ahead]
  unfold ofState
  rw [waiting]
  simp only [State.shift, sprites]
  rfl

/-- A game that goes on from a snapshot later is later in all that it remembers. -/
theorem toState_shift (data : Snapshot τ) :
    data.toState (f now) = (data.toState now).shift f := by
  have sprite : ∀ s : Sprite τ,
      s.mapTime (Clock.sub (f now)) = (s.mapTime (Clock.sub now)).mapTime f := by
    intro s
    simp [Sprite.mapTime, Transition.mapTime, Function.comp_def, shift.sub]
  have choice : choiceOf data.waiting (f now) = (choiceOf data.waiting now).map (·.mapTime f) := by
    unfold choiceOf
    split
    · simp [Choice.mapTime, shift.sub]
    · rfl
  have wait : waitOf data.waiting (f now) = (waitOf data.waiting now).map (·.mapTime f) := by
    unfold waitOf
    split
    · next wait _ => cases wait <;> simp [Wait.mapTime, shift.add]
    · rfl
  unfold toState
  simp only [sprite, choice, wait, State.shift]
  simp [Table.map, Table.mapNamed, Background.mapTime, Sprite.mapTime]

end Snapshot
end VisualNovel
