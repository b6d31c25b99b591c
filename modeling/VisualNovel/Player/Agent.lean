import VisualNovel.Player.Flags
import VisualNovel.Player.Project
import VisualNovel.Player.StateFile

/-!
The agent: playing by requests on the command line.

Each request starts a story or goes on from a state file, plays to the next boundary, writes the
state, and prints lines of the form `NAME:value`. Texts in these lines are quoted, so that a line
feed inside a text does not end its line.
-/

namespace VisualNovel
namespace Agent

/-! ## 1. Lines -/

/-- A line from its parts. -/
def line (parts : List Text) : Text := ScriptProblem.sentence parts

/-- The prompt that belongs to the event of a boundary. -/
def promptOf (b : Boundary) : Option Text :=
  match b.event with
  | .input => b.inputPrompt
  | .choices => b.choicePrompt
  | .ended => none

/-- The default that belongs to the event of a boundary. -/
def defaultOf (b : Boundary) : Option Text :=
  match b.event with
  | .input => b.inputDefault
  | _ => none

/-- The lines for a boundary and the state file that was written, if one was. -/
def boundaryLines (b : Boundary) (stateOut : Option Text) : List Text :=
  [Text.ofString "RESULT:OK", line ["EVENT:", b.event.word]] ++
    b.texts.map (fun t => line ["TEXT_JSON:", Json.quote t]) ++
    (promptOf b).toList.map (fun t => line ["PROMPT_JSON:", Json.quote t]) ++
    b.choices.map (fun c => line ["CHOICE:", c.index.text, "|", Json.quote c.text]) ++
    (defaultOf b).toList.map (fun t => line ["INPUT_DEFAULT_JSON:", Json.quote t]) ++
    [line ["STATE_OUT:", stateOut.getD "NONE"]]

/-- The lines for a failure. -/
def failureLines (failure : Failure) : List Text :=
  let code :=
    match failure with
    | .fault f => f.cause.code
    | .file _ | .noCommand => "CLI_ERROR"
  ["RESULT:ERROR", line ["ERROR_CODE:", code],
    line ["ERROR_MSG_JSON:", Json.quote failure.message]]

/-- The line for an example project. -/
def projectLine (s : Project.Summary) : Text := line ["PROJECT:", s.id, "|", Json.quote s.title]

/-! ## 2. Requests -/

/-- Fails with a problem of a request. -/
def checked {α : Type} (result : Except PlayerProblem α) : Job α :=
  match result with
  | .ok value => return value
  | .error problem => Job.fail problem

/-- Writes the state file while the story still waits for the player, and gives the lines. -/
def settle (project : Project) (game : Game Float) (b : Boundary) (stateOut : Text) :
    Job (List Text) := do
  if b.event = .ended then return boundaryLines b none
  let (data, _) ← Job.actOrFail game Action.snapshot
  PlayerState.write stateOut ⟨project.root, data.toJson⟩
  return boundaryLines b (some stateOut)

/-- The project and the game of a state file, at a boundary. -/
def resume (flags : Flags) : Job (Project × Game Float) := do
  let (state, data) ← PlayerState.read (← checked (flags.need "state-in"))
  let project ← checked (Project.ofDirectory (← Job.files) state.project)
  let (_, game) ← Job.launch (project.resume (← Job.files) data)
  return (project, game)

/-- The number of an option. -/
def choiceOf (argument : Text) : Except PlayerProblem Ordinal :=
  match Number.leadingInteger? argument with
  | some x => .ok (Ordinal.ofNumber x)
  | none => .error (.choiceNotNumber argument)

/-- Lists the example projects. -/
def list : Job (List Text) := do
  match Project.examples (← Job.files) with
  | .ok summaries => return Text.ofString "RESULT:OK" :: summaries.map projectLine
  | .error failure => throw failure

/-- Starts a project. -/
def start (flags : Flags) : Job (List Text) := do
  let stateOut ← checked (flags.need "state-out")
  let source ← checked (ProjectSource.select (flags.get? "project") (flags.get? "example"))
  let project ← checked (Project.load (← Job.files) source)
  let (b, game) ← Job.launch (project.start (← Job.files))
  settle project game b stateOut

/-- Takes an option. -/
def choose (flags : Flags) : Job (List Text) := do
  let stateOut ← checked (flags.need "state-out")
  let pick ← checked (flags.need "choice" >>= choiceOf)
  let (project, game) ← resume flags
  let (b, game) ← Job.actOrFail game (Action.chooseAndPlay pick)
  settle project game b stateOut

/-- Answers a question. -/
def input (flags : Flags) : Job (List Text) := do
  let stateOut ← checked (flags.need "state-out")
  let text ← checked (flags.need "text")
  let (project, game) ← resume flags
  let (b, game) ← Job.actOrFail game (Action.submitAndPlay text)
  settle project game b stateOut

/-- The requests by their names. -/
def requests : List (String × (Flags → Job (List Text))) :=
  [("list", fun _ => list), ("start", start), ("choose", choose), ("input", input)]

/-- Does a request, and gives its lines. -/
def request (arguments : List Text) : Job (List Text) := do
  match arguments with
  | [] => Job.fail .missingSubcommand
  | name :: rest =>
    if name.isEmpty then Job.fail .missingSubcommand
    match requests.find? fun r => Text.ofString r.1 = name with
    | none => Job.fail (.unknownSubcommand name)
    | some (_, run) => run (← checked (Flags.read rest))

/-- The exit code of a request, the lines it prints, and the world afterwards. A request that never
comes back, as the lexer does not, has none of these; it counts as failed here. -/
def run (arguments : List Text) (world : World) : Nat × List Text × World :=
  match request arguments world with
  | .ok lines after => (0, lines, after)
  | .error failure after => (1, failureLines failure, after)

end Agent
end VisualNovel
