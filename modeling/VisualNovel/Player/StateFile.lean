import VisualNovel.Player.World

/-!
State files: where the player keeps a game between two requests.

A state file holds a snapshot together with the project it belongs to. The snapshot is kept as it
was found, so that fields which this library does not know are not lost.
-/

namespace VisualNovel

/-- The content of a state file. -/
structure PlayerState where
  project : Text
  save : Json
  deriving Repr, Inhabited

namespace PlayerState

/-- The name of the format. -/
def schema : Text := "player-state.v1"

/-- A state in JSON. -/
def toJson (s : PlayerState) : Json :=
  .record [("schemaVersion", .str schema), ("projectId", .str s.project), ("save", s.save)]

/-- Writes a state file. -/
def write (path : Text) (s : PlayerState) : Job Unit := Job.replaceFile path s.toJson.compact

mutual

/-- A value as a message shows it: a text as it is, an array by its items, an object by a fixed
word. -/
def spelled : Json → Text
  | .null => "null"
  | .bool true => "true"
  | .bool false => "false"
  | .num x => Number.text x
  | .str t => t
  | .arr items => Text.join "," (spelledItems items)
  | .obj _ => "[object Object]"

/-- The items of an array; `null` is shown as nothing. -/
def spelledItems : List Json → List Text
  | [] => []
  | .null :: rest => [] :: spelledItems rest
  | item :: rest => spelled item :: spelledItems rest

end

/-- The state that a JSON value holds, with its snapshot. -/
def ofJson (j : Json) : Except PlayerProblem (PlayerState × Snapshot Float) := do
  if j.fields?.isNone then throw .stateUnreadable
  let found := j.field? "schemaVersion"
  if found.bind Json.text? ≠ some schema then
    throw (.stateSchema ((found.map spelled).getD "undefined"))
  match (j.need "projectId" Json.text?).filter (!·.isEmpty) with
  | none => throw .stateWithoutProject
  | some project =>
    match j.field? "save" with
    | none => throw .stateSaveInvalid
    | some save =>
      match Snapshot.ofJson? save with
      | none => throw .stateSaveInvalid
      | some data => return (⟨project, save⟩, data)

/-- Reads a state file. -/
def read (path : Text) : Job (PlayerState × Snapshot Float) := do
  let files ← Job.files
  if !files.pathExists path then Job.fail (.stateNotFound path)
  match (files.read path).toOption.bind Json.parse? with
  | none => Job.fail .stateUnreadable
  | some j =>
    match ofJson j with
    | .ok state => return state
    | .error problem => Job.fail problem

end PlayerState
end VisualNovel
