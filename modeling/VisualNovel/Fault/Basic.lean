import VisualNovel.Fault.Play
import VisualNovel.Fault.Player
import VisualNovel.FileTree

/-!
Faults: a cause, and where in which file it was found.

An operation of the library fails with a fault of its own, with an error of the file tree that
nothing handles, or because a snapshot led to a place without a command. `Failure` is the sum of
the three.
-/

namespace VisualNovel

/-- The cause of a fault. -/
inductive Cause where
  | script (problem : ScriptProblem)
  | play (problem : PlayProblem)
  | player (problem : PlayerProblem)
  deriving DecidableEq, Repr, Inhabited

/-- The name of a cause for tools. -/
def Cause.code : Cause → Text
  | .script p => p.code
  | .play p => p.code
  | .player p => p.code

/-- The wording of a cause. -/
def Cause.message : Cause → Text
  | .script p => p.message
  | .play p => p.message
  | .player p => p.message

/-- A cause with the place where it was found, as far as it is known. -/
structure Fault where
  cause : Cause
  span : Option Span := none
  file : Option Text := none
  deriving DecidableEq, Repr, Inhabited

/-- The place of a fault: file, line and column as far as they are known. -/
def Fault.location (f : Fault) : Text :=
  match f.span with
  | none => f.file.getD []
  | some span =>
    let place := Text.ofNat span.first.line ++ Text.ofString ":" ++ Text.ofNat span.first.column
    match f.file with
    | none => place
    | some file => if file.isEmpty then place else file ++ Text.ofString ":" ++ place

/-- Whether a fault stands for an endless loop. The lexer makes no progress at some texts and never
returns, so nothing comes back that could be handled: whoever handles faults passes this one on. -/
def Fault.isEndless (f : Fault) : Bool := f.cause = .script .stalled

/-- Why an operation failed. -/
inductive Failure where
  | fault (fault : Fault)
  | file (error : FileError)
  /-- A story goes on from a place where it has no command. -/
  | noCommand
  deriving DecidableEq, Repr, Inhabited

namespace Failure

/-- A fault in play. -/
def play (problem : PlayProblem) : Failure := .fault { cause := .play problem }

/-- A fault of a request to the player. -/
def player (problem : PlayerProblem) : Failure := .fault { cause := .player problem }

/-- Whether a failure stands for an endless loop. -/
def isEndless : Failure → Bool
  | .fault f => f.isEndless
  | .file _ | .noCommand => false

/-- The wording of a failure. -/
def message : Failure → Text
  | .fault f => f.cause.message
  | .file e => e.code
  | .noCommand => "There is no command to go on with."

end Failure
end VisualNovel
