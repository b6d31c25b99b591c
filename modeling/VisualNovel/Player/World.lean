import VisualNovel.Engine.Launch

/-!
The world of the player: its files and its log.

A job works on the world and may fail; what it did before it failed stays done. A game that plays in
a job works on the files of the world.
-/

namespace VisualNovel

/-- The files and the log of the player. -/
structure World where
  files : FileTree
  logs : Array LogRecord := #[]

/-- Works on the world, and may fail. -/
abbrev Job := EStateM Failure World

namespace Job

/-- A fault of a request to the player. -/
def fail {α : Type} (problem : PlayerProblem) : Job α := throw (Failure.player problem)

/-- Lets a failure be handled, unless it stands for an endless loop. -/
def passOn (failure : Failure) : Job Unit := if failure.isEndless then throw failure else pure ()

/-- The files of the world. -/
def files : Job FileTree := return (← get).files

/-- Replaces the files of the world, and adds to its log. -/
def settle (files : FileTree) (logs : List LogRecord) : Job Unit :=
  modify fun w => { files, logs := w.logs ++ logs.toArray }

/-- What a launch gave, with its game. -/
def launch {α : Type} (launched : Launched Float α) : Job (α × Game Float) := do
  match launched with
  | .done value game =>
    settle game.files game.logs.toList
    return (value, { game with logs := #[] })
  | .failed failure files logs =>
    settle files logs
    throw failure

/-- Lets a game act on the files of the world: what the action gave or why it failed, and the game
afterwards. -/
def act {α : Type} (game : Game Float) (action : Action Float α) :
    Job (Except Failure α × Game Float) := do
  let (result, game) : Except Failure α × Game Float :=
    match action { game with files := ← files } with
    | .ok value game => (.ok value, game)
    | .error failure game => (.error failure, game)
  settle game.files game.logs.toList
  return (result, { game with logs := #[] })

/-- The same for an action whose failure fails the job. -/
def actOrFail {α : Type} (game : Game Float) (action : Action Float α) :
    Job (α × Game Float) := do
  let (result, game) ← act game action
  match result with
  | .ok value => return (value, game)
  | .error failure => throw failure

/-- Replaces a file and makes the directory around it. What was done before a failure stays. -/
def replaceFile (path text : Text) : Job Unit := do
  let (result, after) := (← files).replaceIn (Path.directory (Path.absolute path)) path text
  settle after []
  match result with
  | .ok () => return
  | .error e => throw (.file e)

end Job
end VisualNovel
