import VisualNovel.Fault.Basic
import VisualNovel.Table

/-!
Flags: arguments that come in pairs of a name, marked by two dashes, and a value.

A later value of a name counts, in the place of the first. A value that starts with two dashes is
taken for a missing one.
-/

namespace VisualNovel

/-- The values of flags by their names. -/
structure Flags where
  values : Table Text := {}
  deriving DecidableEq, Repr, Inhabited

namespace Flags

/-- The mark of a name. -/
def mark : Text := "--"

/-- Reads arguments behind flags that were read before. -/
def readFrom (flags : Flags) : List Text → Except PlayerProblem Flags
  | [] => .ok flags
  | [argument] =>
    if argument.startsWith mark then .error (.missingValue (argument.drop 2))
    else .error (.strayArgument argument)
  | argument :: value :: rest =>
    if !argument.startsWith mark then .error (.strayArgument argument)
    else if value.startsWith mark then .error (.missingValue (argument.drop 2))
    else readFrom ⟨flags.values.set (argument.drop 2) value⟩ rest

/-- Reads arguments. -/
def read (arguments : List Text) : Except PlayerProblem Flags := readFrom {} arguments

/-- The names that have a value. -/
def names (flags : Flags) : List Text := flags.values.keys

/-- The value of a name. -/
def get? (flags : Flags) (name : Text) : Option Text := flags.values.get? name

/-- The value that a name must have. -/
def need (flags : Flags) (name : Text) : Except PlayerProblem Text :=
  match flags.get? name with
  | some value => .ok value
  | none => .error (.requiredFlag name)

end Flags
end VisualNovel
