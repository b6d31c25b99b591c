import VisualNovel.Player.Agent
import VisualNovel.Player.Rows
import VisualNovel.Player.View

/-!
The text screen: playing in a terminal.

A session holds the project, the game, the view and the size of the terminal. Keys change the
session, and `Session.rows` are the rows that the terminal shows. Whatever fails after the start is
shown as a notice and ends nothing, but an endless loop.
-/

namespace VisualNovel

/-! ## 1. Arguments -/

/-- What the text screen is asked to play, and where it keeps its state. -/
structure ScreenOptions where
  source : ProjectSource
  stateFile : Text
  deriving DecidableEq, Repr, Inhabited

namespace ScreenOptions

/-- The state file of a player who names none. -/
def defaultStateFile : Text := "./.vnscript/player-state.json"

/-- The flags that the text screen knows. -/
def known : List Text := ["example", "project", "state-file"]

/-- Reads the arguments of the text screen. -/
def read (arguments : List Text) : Except PlayerProblem ScreenOptions := do
  let flags ← Flags.read arguments
  match flags.names.find? (!known.contains ·) with
  | some name => throw (.unknownScreenFlag name)
  | none =>
    let stateFile := (flags.get? "state-file").getD defaultStateFile
    if stateFile.isEmpty then throw .emptyStateFile
    return ⟨← ProjectSource.select (flags.get? "project") (flags.get? "example"), stateFile⟩

end ScreenOptions

/-! ## 2. Rows -/

/-- The size of a terminal. -/
structure TerminalSize where
  columns : Nat := 80
  rows : Nat := 24
  deriving DecidableEq, Repr, Inhabited

namespace TerminalSize

/-- The width of the rows: one column is left free on either side. -/
def width (size : TerminalSize) : Nat := max 16 (size.columns - 2)

/-- The rows that are not for lines: title, notice, meters, divider, prompt, choices, hint, keys. -/
def fixedRows : Nat := 6 + choiceRows + 1

/-- The number of rows for lines. -/
def lineRows (size : TerminalSize) (ended : Bool) : Nat :=
  max 1 (size.rows - fixedRows - (if ended then 1 else 0))

end TerminalSize

namespace View

/-- The choices that can be taken at the moment. -/
def openChoices (v : View) : List BoundaryChoice :=
  if v.isStreaming || v.inputMode then [] else v.choices

/-- A row for a choice; a blank where there is none. -/
def choiceRow (v : View) (width row : Nat) : Text :=
  match v.openChoices[v.scroll + row]? with
  | none => " "
  | some choice =>
    Text.ofString (if v.scroll + row = v.cursor then "> " else "  ") ++
      Rows.truncate (width - 2) choice.text

/-- Which choices are shown, if not all of them are. -/
def scrollHint (v : View) : Text :=
  let total := v.openChoices.length
  if total ≤ choiceRows then " "
  else
    ScriptProblem.sentence [Text.ofNat (v.scroll + 1), "-",
      Text.ofNat (min (v.scroll + choiceRows) total), " of ", Text.ofNat total]

/-- The row for the prompt. -/
def promptRow (v : View) : Text :=
  if v.inputMode && !v.isStreaming then
    let default := (v.inputDefault.filter (!·.isEmpty)).map fun t =>
      ScriptProblem.sentence [" (default ", t, ")"]
    ScriptProblem.sentence [v.prompt.getD "input", default.getD [], ": ", v.buffer, "_"]
  else v.prompt.getD "choices (up/down + enter):"

/-- The row for the keys. -/
def keysRow (v : View) : Text :=
  if v.inputMode then "keys: type | enter submit | backspace erase | esc quit"
  else "keys: up/down move | enter choose | s save | l load | r restart | q quit"

/-- The rows for lines: the last ones that fit. -/
def lineRows (v : View) (size : TerminalSize) : List Text :=
  let wrapped := v.visible.flatMap (Rows.wrap size.width)
  wrapped.drop (wrapped.length - size.lineRows v.ended)

end View

/-- A row as the terminal shows it: behind one blank, and without blanks at its end. -/
def paddedRow (t : Text) : Text :=
  ((Text.unit ' ' :: t).reverse.dropWhile Text.isBlank).reverse

/-! ## 3. Sessions -/

/-- A story that is played in a terminal. -/
structure Session where
  project : Project
  stateFile : Text
  game : Game Float
  view : View
  size : TerminalSize := {}

/-- What the player does at a terminal. -/
inductive Stroke where
  | enter
  | up
  | down
  | erase
  | escape
  /-- Text that is typed or pasted. -/
  | text (text : Text)
  /-- A key that has no meaning here. -/
  | other
  deriving DecidableEq, Repr, Inhabited

namespace Session

/-- The rows that the terminal shows. A row without a text takes no place. -/
def rows (s : Session) : List Text :=
  let v := s.view
  let width := s.size.width
  let cut := Rows.truncate width
  let all :=
    [cut s.project.title, cut (ScriptProblem.sentence [v.notice, " | state ", s.stateFile]),
      cut (v.hud.getD " ")] ++
    v.lineRows s.size ++
    [List.replicate width (Text.unit '─'), cut v.promptRow] ++
    (List.range choiceRows).map (v.choiceRow width) ++
    [v.scrollHint] ++ (if v.ended then [Text.ofString "[end]"] else []) ++ [cut v.keysRow]
  (all.filter (!·.isEmpty)).map paddedRow

/-- The session with an action on its view. -/
def see (s : Session) (action : ViewAction) : Session := { s with view := s.view.step action }

/-- The session with a notice. -/
def note (s : Session) (text : Text) : Session := s.see (.notice text)

/-- The session at a boundary of its game. -/
def goTo (s : Session) (game : Game Float) (b : Boundary) (notice : Text) (replace : Bool) :
    Session :=
  { s with game }.see (.boundary b game.state.hudLine replace notice)

/-- Begins to play a project. -/
def start (project : Project) (stateFile : Text) (size : TerminalSize) : Job Session := do
  let (b, game) ← Job.launch (project.start (← Job.files))
  return { project, stateFile, game, view := View.start b game.state.hudLine, size }

/-- Lets the game of the session act and shows the boundary. A failure is shown as a notice. -/
def play (s : Session) (action : Action Float Boundary) (notice : Text) : Job Session := do
  let (result, game) ← Job.act s.game action
  match result with
  | .ok b => return s.goTo game b notice false
  | .error failure =>
    Job.passOn failure
    return { s with game }.note failure.message

/-- Does a job that gives the next session. A failure is shown as a notice. -/
def attempt (s : Session) (job : Job Session) : Job Session := fun world =>
  match job world with
  | .ok next after => .ok next after
  | .error failure after =>
    if failure.isEndless then .error failure after else .ok (s.note failure.message) after

/-- Takes the choice under the cursor. -/
def chooseSelected (s : Session) : Job Session := do
  match s.view.choices[s.view.cursor]? with
  | none => return s.note "no pending choice"
  | some choice =>
    s.play (Action.chooseAndPlay choice.index) (Text.ofString "chose " ++ choice.index.text)

/-- Answers the question with what was typed. -/
def submitBuffer (s : Session) : Job Session :=
  let text := s.view.buffer
  let notice :=
    if text.isEmpty then Text.ofString "accepted default"
    else Text.ofString "entered " ++ Json.quote text
  s.play (Action.submitAndPlay text) notice

/-- Writes the state file. -/
def save (s : Session) : Job Session := do
  if s.view.ended then return s.note "nothing to save after the end"
  let (data, _) ← Job.actOrFail s.game Action.snapshot
  PlayerState.write s.stateFile ⟨s.project.root, data.toJson⟩
  return s.note (Text.ofString "saved to " ++ s.stateFile)

/-- Goes on with another game of the project. -/
def swap (s : Session) (launched : Launched Float Boundary) (notice : Text) : Job Session := do
  let (b, game) ← Job.launch launched
  return s.goTo game b notice true

/-- Goes on from the state file. -/
def load (s : Session) : Job Session := do
  let (state, data) ← PlayerState.read s.stateFile
  if state.project ≠ s.project.root then
    Job.fail (.stateMismatch s.project.root state.project)
  s.swap (s.project.resume (← Job.files) data) (Text.ofString "loaded from " ++ s.stateFile)

/-- Begins the project again. -/
def restart (s : Session) : Job Session := do
  s.swap (s.project.start (← Job.files)) "restarted"

/-- A key while a question is open. -/
def questionStroke (s : Session) : Stroke → Job Session
  | .enter => s.submitBuffer
  | .erase => return s.see .erase
  | .text text => return if text.isEmpty then s else s.see (.type text)
  | _ => return s

/-- A key while choices are open. Nothing stands for the end of the session. -/
def choiceStroke (s : Session) : Stroke → Job (Option Session)
  | .up => return some (s.see (.move (-1)))
  | .down => return some (s.see (.move 1))
  | .enter => some <$> s.chooseSelected
  | .text text =>
    if text = Text.ofString "q" then return none
    else if text = Text.ofString "r" then some <$> s.attempt s.restart
    else if text = Text.ofString "s" then some <$> s.attempt s.save
    else if text = Text.ofString "l" then some <$> s.attempt s.load
    else return some s
  | _ => return some s

/-- What a key makes of a session. Nothing stands for its end. -/
def press (s : Session) (stroke : Stroke) : Job (Option Session) := do
  if stroke = .escape then return none
  else if s.view.isStreaming then
    return some (if stroke = .enter then s.see .flush else s)
  else if s.view.inputMode then some <$> s.questionStroke stroke
  else s.choiceStroke stroke

/-- What several keys make of a session, one after the other. -/
def pressAll (s : Session) : List Stroke → Job (Option Session)
  | [] => return some s
  | stroke :: rest => do
    match ← s.press stroke with
    | none => return none
    | some next => next.pressAll rest

/-- Lets the typing go on for so many units, as long as there is something to type. -/
def type (s : Session) : Nat → Session
  | 0 => s
  | n + 1 => if s.view.isStreaming then (s.see .tick).type n else s

end Session

/-- The first session of the text screen for some arguments. -/
def Session.open (arguments : List Text) (size : TerminalSize) : Job Session := do
  let options ← Agent.checked (ScreenOptions.read arguments)
  let project ← Agent.checked (Project.load (← Job.files) options.source)
  Session.start project options.stateFile size

end VisualNovel
