import VisualNovel.Engine.Run

/-!
How a game comes to be: from a script in a file or in memory, at its beginning or from a snapshot.
-/

namespace VisualNovel

/-- What a game is made from. -/
structure Launch (τ : Type) where
  setup : Setup τ
  library : Library := {}
  files : FileTree
  /-- The path of the outermost script. -/
  script : Text
  /-- The text of the script, for one that is not read from its file. -/
  source : Option Text := none

/-- What comes of a launch: a game and what its first action gave, or a failure with the files and
the log records it leaves. -/
inductive Launched (τ α : Type) where
  | done (value : α) (game : Game τ)
  | failed (failure : Failure) (files : FileTree) (logs : List LogRecord)

/-- Goes on from a snapshot, without a menu; one that cannot be used is a fault. -/
def Action.resume {τ : Type} [Clock τ] (data : Snapshot τ) : Action τ Unit := do
  if ← restore data then setMenu none else fail (.saveUnusable data.script)

namespace Launch

variable {τ : Type} [Clock τ]

/-- The program of a launch, with the library afterwards, and what was logged. -/
def program (launch : Launch τ) : Except Fault (Program × Library) × List LogRecord :=
  match launch.source with
  | some source =>
    let read := Program.ofSource launch.files launch.library.strict (.nth 0) launch.script source
    (read.map fun (program, _) => (program, launch.library.remember program), [])
  | none =>
    let loaded := launch.library.load launch.files launch.script
    (loaded.result.map fun edition => (edition.program, loaded.library), loaded.logs)

/-- The game after an action at its start. -/
def after {α : Type} (launch : Launch τ) (action : Action τ α) : Launched τ α :=
  match launch.program with
  | (.error fault, logs) => .failed (.fault fault) launch.files logs
  | (.ok (program, library), logs) =>
    let start := Game.start launch.setup library launch.files program
    match action { start with logs := logs.toArray } with
    | .ok value game => .done value game
    | .error failure game => .failed failure game.files game.logs.toList

/-- The game before its first command. -/
def load (launch : Launch τ) : Launched τ Unit := launch.after (pure ())

/-- The game where it first waits for something. -/
def create (launch : Launch τ) : Launched τ Unit := launch.after do let _ ← Action.run

/-- The game at a snapshot. -/
def resume (launch : Launch τ) (data : Snapshot τ) : Launched τ Unit :=
  launch.after (Action.resume data)

end Launch
end VisualNovel
