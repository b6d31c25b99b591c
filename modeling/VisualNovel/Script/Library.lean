import VisualNovel.Log
import VisualNovel.Script.Program

/-!
A library of programs that have been read.

Programs are kept under the absolute paths of their scripts, so that a script is read once until it
is taken out. Every program put in gets the next number; two loads gave the same reading of a script
exactly when their numbers agree.
-/

namespace VisualNovel

/-- A program and the number of its reading. -/
structure Edition where
  program : Program
  number : Nat
  deriving Repr, Inhabited

/-- Programs by the absolute paths of their scripts. -/
structure Library where
  strict : Bool := false
  shelf : Table Edition := {}
  /-- The number of readings so far. -/
  readings : Nat := 0
  deriving Repr, Inhabited

namespace Library

/-- Puts a program in, in the place of an earlier one of the same script. -/
def remember (library : Library) (program : Program) : Library :=
  { library with
    shelf := library.shelf.set (Path.absolute program.script) ⟨program, library.readings⟩
    readings := library.readings + 1 }

/-- Whether a script has been read. -/
def has (library : Library) (path : Text) : Bool := library.shelf.contains (Path.absolute path)

/-- Takes a script out. -/
def evict (library : Library) (path : Text) : Library :=
  { library with shelf := library.shelf.erase (Path.absolute path) }

/-- Takes all scripts out. -/
def clear (library : Library) : Library := { library with shelf := {} }

/-- The paths of the scripts, in the order in which they were put in. -/
def paths (library : Library) : List Text := library.shelf.keys

/-- The outcome of a load: the edition or why there is none, the library afterwards, and what was
logged. -/
structure Loaded where
  result : Except Fault Edition
  library : Library
  logs : List LogRecord

/-- Finds a script, and reads it if it is not there. A failed reading changes nothing. -/
def load (library : Library) (files : FileTree) (path : Text) : Loaded :=
  let script := Path.absolute path
  match library.shelf.get? script with
  | some edition => ⟨.ok edition, library, []⟩
  | none =>
    let logs := [⟨.debug, "loader", Text.ofString "parsing " ++ script⟩]
    match Program.ofFile files library.strict (.nth 0) script with
    | .error fault => ⟨.error fault, library, logs⟩
    | .ok (program, _) =>
      ⟨.ok ⟨program, library.readings⟩,
        { library with
          shelf := library.shelf.set script ⟨program, library.readings⟩
          readings := library.readings + 1 },
        logs⟩

end Library
end VisualNovel
