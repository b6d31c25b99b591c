import VisualNovel.Script.Lexer
import VisualNovel.Script.Statement

/-!
From files to a program.

A file and the files it includes make one list of commands: first the commands of the file itself,
then those of each included file in turn. The labels of an included file, and the targets that name
them, get the scope of the include in front; a target with the root mark is looked up in the
outermost file, and the target that the player handles itself is never scoped. A file that would
include itself, directly or through others, is refused, so the files of one chain of includes are
distinct and their number bounds its length.
-/

namespace VisualNovel

/-- The commands of a file together with those it includes, and where its labels are. -/
structure ScriptUnit where
  commands : Array Command
  labels : Table Nat
  deriving DecidableEq, Repr, Inhabited

namespace ScriptUnit

/-- The name inside a scope, for names that a scope applies to. -/
def inScope (scope name : Text) : Text :=
  if name.startsWith rootMark || name = inventoryToggle then name
  else scope ++ Text.ofString "." ++ name

/-- Adds labels of an included file that starts at an offset. Each must be new. -/
def addLabels (file scope : Text) (offset : Nat) :
    List (Text × Nat) → Table Nat → Except Fault (Table Nat)
  | [], labels => .ok labels
  | (name, index) :: rest, labels =>
    let full := scope ++ Text.ofString "." ++ name
    if labels.contains full then
      .error { cause := .script (.duplicateLabel full), file := some file }
    else addLabels file scope offset rest (labels.set full (offset + index))

/-- Puts an included file behind what is already there. -/
def append (file scope : Text) (whole part : ScriptUnit) : Except Fault ScriptUnit := do
  let change := inScope scope
  let labels ← addLabels file scope whole.commands.size part.labels.entries whole.labels
  return ⟨whole.commands ++ part.commands.map (Command.mapTargets change (some change)), labels⟩

end ScriptUnit

/-- The draft of a file. -/
def readDraft (files : FileTree) (file source : Text) (counter : Ordinal) :
    Except Fault Draft := do
  let tokens ← tokenize source (some file)
  let start : Draft := { cursor := { tokens := tokens.toArray, file }, counter }
  match Statement.inFile files (tokens.length + 1) start with
  | .ok _ draft => return draft
  | .error fault _ => throw fault

/-- Reads a file and those it includes. `chain` holds the files that led here, this one last, and
`depth` bounds the includes within includes. The result comes with the number of the last check
block. -/
def readUnit (files : FileTree) :
    Nat → List Text → Text → Text → Ordinal → Except Fault (ScriptUnit × Ordinal)
  | 0, _, file, _, _ => .error { cause := .script .stalled, file := some file }
  | depth + 1, chain, file, source, counter => do
    let draft ← readDraft files file source counter
    let step := fun ((whole, counter) : ScriptUnit × Ordinal) (part : Include) => do
      if chain.contains part.path then
        throw { cause := .script (.includeCycle (chain ++ [part.path])), file := some file }
      let text := (files.read part.path).toOption.getD []
      let (unit, counter) ← readUnit files depth (chain ++ [part.path]) part.path text counter
      let whole ← whole.append file part.scope unit
      return (whole, counter)
    draft.includes.foldlM step (⟨draft.commands, draft.labels⟩, draft.counter)

namespace Program

/-- The first target of a list of commands that names no label, with the command. -/
def firstUnknown (labels : Table Nat) (commands : List Command) : Option (Text × Command) :=
  commands.findSome? fun command =>
    (command.targets.find? fun target =>
      target ≠ inventoryToggle && !labels.contains target).map (·, command)

/-- Refuses a program with a target that names no label. -/
def checkTargets (program : Program) : Except Fault Unit :=
  match firstUnknown program.labels program.commands.toList with
  | some (target, command) =>
    .error { cause := .script (.unknownLabel target command.kindWord), file := some program.script }
  | none => .ok ()

/-- The program of a script text. The path of the script is where relative paths start. -/
def ofSource (files : FileTree) (strict : Bool) (counter : Ordinal) (path source : Text) :
    Except Fault (Program × Ordinal) := do
  let script := Path.absolute path
  let (unit, counter) ← readUnit files (files.fileCount + 1) [script] script source counter
  let program : Program :=
    { script, commands := unit.commands.map (Command.mapTargets stripRootMark none),
      labels := unit.labels }
  if strict then checkTargets program
  return (program, counter)

/-- The program of a script file. -/
def ofFile (files : FileTree) (strict : Bool) (counter : Ordinal) (path : Text) :
    Except Fault (Program × Ordinal) :=
  let script := Path.absolute path
  if files.isFile script then
    ofSource files strict counter script ((files.read script).toOption.getD [])
  else .error { cause := .script (.scriptNotFound script) }

end Program
end VisualNovel
