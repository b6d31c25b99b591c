import VisualNovel.Engine.Run

/-!
Playing without a screen.

The runner plays a story on a clock of its own until the player has to decide something. Lines and
messages are collected as texts, waiting is skipped, and a map is offered as a choice. Where the
runner stops is a boundary.
-/

namespace VisualNovel

/-- Why the runner stopped. -/
inductive BoundaryEvent where
  | choices | input | ended
  deriving DecidableEq, Repr, Inhabited

/-- The word for an event. -/
def BoundaryEvent.word : BoundaryEvent → Text
  | .choices => "CHOICES"
  | .input => "INPUT"
  | .ended => "END"

/-- An option that the player has. -/
structure BoundaryChoice where
  index : Ordinal
  text : Text
  deriving DecidableEq, Repr, Inhabited

/-- Where the runner stopped: what was said on the way, and what the player has to decide. -/
structure Boundary where
  event : BoundaryEvent
  texts : List Text := []
  choices : List BoundaryChoice := []
  choicePrompt : Option Text := none
  inputPrompt : Option Text := none
  inputDefault : Option Text := none
  deriving DecidableEq, Repr, Inhabited

/-- A line of dialogue as a text. -/
def Dialogue.line (d : Dialogue) : Text :=
  match d.name with
  | some name => if name.isEmpty then d.text else name ++ Text.ofString ": " ++ d.text
  | none => d.text

/-- A message as a text. -/
def PhoneMessage.line (contact : Text) (m : PhoneMessage) : Text :=
  match m.side with
  | .right => Text.ofString "[phone] me: " ++ m.text
  | .left => ScriptProblem.sentence ["[phone] ", contact, ": ", m.text]

/-- The newest message as a text. -/
def Phone.newest? (phone : Phone) : Option Text :=
  phone.messages.back?.map (PhoneMessage.line phone.contact)

/-- Texts as options, counted from zero. -/
def BoundaryChoice.number (texts : List Text) : List BoundaryChoice :=
  texts.zipIdx.map fun (text, index) => { index := .nth index, text }

/-- How many frames the runner plays at most. -/
def runnerLimit : Nat := 100000

/-- How many milliseconds the runner adds while something plays by itself. -/
def runnerTick : Float := 100.0

namespace Boundary

variable {τ : Type}

/-- The boundary at a choice. -/
def atChoice (texts : List Text) (choice : Option (Choice τ)) : Boundary :=
  { event := .choices
    texts
    choices := BoundaryChoice.number ((choice.map (·.options)).getD [] |>.map (·.text))
    choicePrompt := (choice.map (·.prompt)).filter (!·.isEmpty) }

/-- The boundary at a map. -/
def atMap (texts : List Text) (map : MapOverlay) : Boundary :=
  { event := .choices, texts, choices := BoundaryChoice.number (map.points.toList.map (·.label)) }

/-- The boundary at a question. -/
def atQuestion (texts : List Text) (question : Option Question) : Boundary :=
  { event := .input
    texts
    inputPrompt := question.map (·.prompt)
    inputDefault := question.bind (·.default) }

end Boundary

namespace Action

variable {τ : Type} [Clock τ]

/-- The moment up to which the runner skips while the story waits for a timer. -/
def skipTo (now : τ) (wait : Option (Wait τ)) : τ :=
  match wait with
  | some (.timer due) => Clock.max now due
  | _ => Clock.add now (Clock.ofMillis runnerTick)

/-- Plays at most so many frames from a moment. `said` holds the texts so far, the last one
first. -/
def playAtMost : Nat → τ → List Text → Action τ Boundary
  | 0, _, _ => fail (.runnerStalled runnerLimit)
  | limit + 1, now, said => do
    let status ← frame [] now
    let s ← state
    match status with
    | .titleMenu =>
      takeMenuAction "new_game"
      playAtMost limit now said
    | .pauseMenu =>
      setMenu none
      playAtMost limit now said
    | .dialogue =>
      let _ ← advance
      playAtMost limit now ((s.dialogue.map (·.line)).toList ++ said)
    | .phone =>
      let _ ← advance
      playAtMost limit now (s.phone.newest?.toList ++ said)
    | .waitingTimer => playAtMost limit (skipTo now s.wait) said
    | .waitingVoice | .waitingVideo | .running =>
      playAtMost limit (Clock.add now (Clock.ofMillis runnerTick)) said
    | .waitingChoice => return .atChoice said.reverse s.choice
    | .mapOverlay => return .atMap said.reverse s.map
    | .waitingInput => return .atQuestion said.reverse s.question
    | .ended => return { event := .ended, texts := said.reverse }

/-- Plays until the player has to decide something. -/
def playToBoundary : Action τ Boundary := do playAtMost runnerLimit (← get).now []

/-- Takes an option and plays on. -/
def chooseAndPlay (pick : Ordinal) : Action τ Boundary := do
  choose pick
  playToBoundary

/-- Answers the question and plays on. -/
def submitAndPlay (text : Text) : Action τ Boundary := do
  submit (some text)
  playToBoundary

end Action
end VisualNovel
