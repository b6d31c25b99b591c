import VisualNovel.Engine.Execute

/-!
What can happen to the state of a story.

`State.Change` lists the changes that commands, the player and the passing of time make to a state
while a program is played, each with what is known where it is made: a command of the program it comes
from, or that nothing stands in the way of the story. What a change leaves alone is left alone by
name, so that a property of states has to be looked at only where its own parts change.
-/

namespace VisualNovel

/-- A command puts something under a name. -/
def Command.Names (name : Text) : Command → Prop
  | .show sprite => sprite.name = name
  | .showCharacter appearance => appearance.ident = name
  | .addItem id .. => id = name
  | .showMeter meter .. => meter = name
  | _ => False

/-- Some command of a program puts something under a name. -/
def Program.Names (program : Program) (name : Text) : Prop :=
  ∃ c ∈ program.commands, c.Names name

namespace State

variable {τ : Type}

/-- Nothing stands in the way of the story. -/
structure Free (s : State τ) : Prop where
  map : s.map.active = false
  choice : s.choice = none
  question : s.question = none
  phone : s.phone.unread = false
  wait : s.wait = none
  dialogue : s.dialogue = none

/-- The next command is one of so many, or they are done. -/
def Inside (s : State τ) (size : Nat) : Prop := ∃ n ≤ size, s.index = .nth n

/-- A story that is running is free. -/
theorem free_of_running {s : State τ} {length : Nat}
    (running : Status.ofState s length = .running) :
    s.Free ∧ s.index.reaches length = false := by
  unfold Status.ofState at running
  split at running
  · cases running
  · split at running
    · cases running
    · split at running
      · cases running
      · split at running
        · cases running
        · split at running
          · next wait _ => cases wait <;> cases running
          · split at running
            · cases running
            · split at running
              · cases running
              · next map choice question phone _ wait dialogue behind =>
                simp only [Bool.not_eq_true, Option.isSome_eq_false_iff,
                  Option.isNone_iff_eq_none] at map choice question phone dialogue behind
                exact ⟨⟨map, choice, question, phone, wait, dialogue⟩, behind⟩

/-- Introducing characters changes nothing else. -/
theorem introduceAll_frame (s : State τ) (program : Program) :
    ∃ characters, s.introduceAll program = { s with characters } := by
  rw [introduceAll, ← Array.foldl_toList]
  generalize program.commands.toList = commands
  induction commands generalizing s with
  | nil => exact ⟨s.characters, rfl⟩
  | cons command rest ih =>
    cases command with
    | define c =>
      obtain ⟨characters, same⟩ := ih (s.introduce c)
      refine ⟨characters, same.trans ?_⟩
      unfold introduce
      split <;> rfl
    | _ => exact ih s

theorem hideSprite_frame (s : State τ) (name : Text) (transition : Option (Transition τ)) :
    ∃ sprites tracks, s.hideSprite name transition = { s with sprites, tracks } := by
  unfold hideSprite
  split
  · split
    · exact ⟨_, s.tracks, rfl⟩
    · exact ⟨_, _, rfl⟩
  · exact ⟨_, _, rfl⟩

/-- Removing sprites changes nothing but the stage. -/
theorem removeSprites_frame (s : State τ) (gone : List Text) :
    ∃ sprites tracks, gone.foldl removeSprite s = { s with sprites, tracks } := by
  induction gone generalizing s with
  | nil => exact ⟨s.sprites, s.tracks, rfl⟩
  | cons id rest ih =>
    obtain ⟨sprites, tracks, same⟩ := ih (s.removeSprite id)
    exact ⟨sprites, tracks, same⟩

theorem animate_frame (s : State τ) (name : Text) (sprite : Sprite τ) (goal : AnimationGoal)
    (seconds : Float) (ease : Ease) (now : τ) :
    ∃ sprites tracks, s.animate name sprite goal seconds ease now = { s with sprites, tracks } := by
  unfold animate
  simp only
  split
  · exact ⟨_, _, rfl⟩
  · exact ⟨s.sprites, _, rfl⟩

theorem takeItem_frame (s : State τ) (id : Text) (amount : Float) :
    ∃ inventory, s.takeItem id amount = { s with inventory } := by
  unfold takeItem
  split
  · exact ⟨s.inventory, rfl⟩
  · exact ⟨_, rfl⟩

/-- One change of a state, while a program is played. -/
inductive Change [Clock τ] (program : Program) : State τ → State τ → Prop
  /-- Parts that no other part depends on. -/
  | plain {s : State τ} {background : Background τ} {inventoryPage : Float}
      {inventoryOpen hotspotDebug : Bool} {music : Option Music} {echo : Option Text}
      {notification : Option (Notification τ)} {blend : Option (Blend τ)}
      {loading : Option Text} :
      Change program s
        { s with
          background, inventoryPage, inventoryOpen, hotspotDebug, music, echo, notification, blend,
          loading }
  -- The camera.
  | lookAt {s : State τ} {camera : Camera} (mem : .camera camera ∈ program.commands) :
      Change program s { s with camera }
  | lookAhead {s : State τ} : Change program s { s with camera := {} }
  -- Sprites.
  | placeSprite {s : State τ} {sprite : Sprite τ} (named : program.Names sprite.id)
      (staying : sprite.leaving = false) (screen : Screen) (pos : Option Point) :
      Change program s (s.placeSprite screen sprite pos)
  | hideSprite {s : State τ} (name : Text) (transition : Option (Transition τ)) :
      Change program s (s.hideSprite name transition)
  | removeSprite {s : State τ} (id : Text) : Change program s (s.removeSprite id)
  | clearSprites {s : State τ} : Change program s s.clearSprites
  | animate {s : State τ} {name : Text} {sprite : Sprite τ}
      (found : s.sprites.get? name = some sprite) {goal : AnimationGoal} {seconds : Float}
      {ease : Ease} (mem : .animate name goal seconds ease ∈ program.commands) (now : τ) :
      Change program s (s.animate name sprite goal seconds ease now)
  | stopAll {s : State τ} : Change program s { s with tracks := {} }
  | stopSprite {s : State τ} (name : Text) : Change program s { s with tracks := s.tracks.erase name }
  | moveSprites {s : State τ} (now : τ) : Change program s (s.moveSprites now)
  -- Variables, meters and items.
  | setVariable {s : State τ} (name : Text) (value : Value) :
      Change program s { s with vars := s.vars.set name value }
  | refreshMeter {s : State τ} (name : Text) : Change program s (s.refreshMeter name)
  | setMeter {s : State τ} {name : Text} (named : program.Names name) (meter : Meter) :
      Change program s { s with meters := s.meters.set name meter }
  | eraseMeter {s : State τ} (name : Text) :
      Change program s { s with meters := s.meters.erase name }
  | clearMeters {s : State τ} : Change program s { s with meters := {} }
  | addItem {s : State τ} {id : Text} (named : program.Names id) (item : Item) :
      Change program s (s.addItem id item)
  | takeItem {s : State τ} (id : Text) (amount : Float) : Change program s (s.takeItem id amount)
  | clearItems {s : State τ} : Change program s { s with inventory := {} }
  -- Characters and what they say.
  | define {s : State τ} {character : Character} (mem : .define character ∈ program.commands)
      (free : s.Free) :
      Change program s { s with characters := s.characters.set character.ident character }
  | say {s : State τ} (free : s.Free) (speaker : Option Text) (text : Text) :
      Change program s
        { s with dialogue := some (Dialogue.spoken speaker (s.speaker? speaker) text) }
  | silence {s : State τ} : Change program s { s with dialogue := none }
  -- Choices.
  | offer {s : State τ} (free : s.Free) (inside : s.Inside program.commands.size) {prompt : Text}
      {options : List ChoiceOption} {timeout : Option Float} {timeoutDefault : Option Ordinal}
      (mem : .choice prompt options timeout timeoutDefault ∈ program.commands) (shown : Text)
      (fill : Text → Text) (millis : Option Float) (started : τ) :
      Change program s
        { s with
          choice := some
            { prompt := shown, options := options.map fun o => ⟨fill o.text, o.target⟩
              timeout := millis, timeoutDefault, started } }
  | turn {s : State τ} {choice : Choice τ} (pending : s.choice = some choice) {terms : List Int}
      (once : terms = [-1, Int.ofNat choice.options.length] ∨ terms = [1]) :
      Change program s
        { s with
          choice := some
            { choice with selected := choice.selected.turn terms choice.options.length } }
  | choose {s : State τ} : Change program s { s with choice := none }
  -- Questions.
  | ask {s : State τ} (free : s.Free) (inside : s.Inside program.commands.size)
      (question : Question) :
      Change program s { s with question := some question }
  | edit {s : State τ} {question : Question} (pending : s.question = some question)
      (buffer : Text) : Change program s { s with question := some { question with buffer } }
  | answer {s : State τ} : Change program s { s with question := none }
  -- Waiting.
  | hold {s : State τ} (free : s.Free) (wait : Wait τ) : Change program s { s with wait := some wait }
  | release {s : State τ} : Change program s { s with wait := none }
  -- The phone.
  | openPhone {s : State τ} (free : s.Free) (contact : Text) :
      Change program s { s with phone := { active := true, contact } }
  | message {s : State τ} (free : s.Free) (side : Side) (text : Text) :
      Change program s
        { s with
          phone :=
            { s.phone with messages := s.phone.messages.push { side, text }, unread := true } }
  | readMessage {s : State τ} :
      Change program s { s with phone := { s.phone with unread := false } }
  | closePhone {s : State τ} (free : s.Free) : Change program s { s with phone := {} }
  -- The map.
  | showMap {s : State τ} (free : s.Free) (inside : s.Inside program.commands.size) (image : Text)
      {points : List MapPoint}
      (behind : points = Action.leadingPoints (s.index.suffix program.commands.toList)) :
      Change program s
        { s with
          map := ⟨true, some image, points.toArray⟩, index := s.index.advance points.length }
  | mapPoint {s : State τ} {title : Text} {pos : Point} {corners : Option (List Point)}
      {target : Text} (mem : .mapPoint title pos corners target ∈ program.commands) :
      Change program s
        { s with
          map := { s.map with points := s.map.points.push ⟨title, target, pos, corners.getD []⟩ } }
  | closeMap {s : State τ} : Change program s { s with map := { s.map with active := false } }
  -- What can be clicked.
  | hotspot {s : State τ} {name : Text} {shape : HotspotShape} {target : Text}
      (mem : .hotspot name shape target ∈ program.commands) :
      Change program s { s with hotspots := s.hotspots.set name ⟨name, shape, target⟩ }
  | eraseHotspot {s : State τ} (name : Text) :
      Change program s { s with hotspots := s.hotspots.erase name }
  | clearHotspots {s : State τ} : Change program s { s with hotspots := {} }
  | button {s : State τ} {button : HudButton} (mem : .button button ∈ program.commands) :
      Change program s { s with hud := s.hud.set button.name button }
  | eraseButton {s : State τ} (name : Text) : Change program s { s with hud := s.hud.erase name }
  | clearButtons {s : State τ} : Change program s { s with hud := {} }
  -- The next command.
  | next {s : State τ} (running : Status.ofState s program.commands.size = .running) :
      Change program s { s with index := s.index.next }
  | goto {s : State τ} {name : Text} {index : Nat}
      (found : program.labels.get? name = some index) :
      Change program s { s with index := .nth index }

/-- No change of a state touches its video: that is done together with requests. -/
theorem Change.video [Clock τ] {program : Program} {s t : State τ} (change : s.Change program t) :
    t.video = s.video := by
  cases change with
  | hideSprite name transition =>
    obtain ⟨_, _, same⟩ := s.hideSprite_frame name transition
    rw [same]
  | @animate name sprite found goal seconds ease mem now =>
    obtain ⟨_, _, same⟩ := s.animate_frame name sprite goal seconds ease now
    rw [same]
  | takeItem id amount =>
    obtain ⟨_, same⟩ := s.takeItem_frame id amount
    rw [same]
  | _ => rfl

end State
end VisualNovel
