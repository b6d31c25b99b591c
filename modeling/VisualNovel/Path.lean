import VisualNovel.Text.Basic

/-!
Paths with `/` between their names.

The working directory is the root, so every path has one absolute form: `absolute` and `resolve`
give it. A path is taken apart into its names; `.` and empty names stand for nothing, and `..`
removes the name before it. An absolute form is `/` followed by its names, with one `/` between
neighbours.
-/

namespace VisualNovel.Path

/-- The unit between two names. -/
def separator : UInt16 := Text.unit '/'

/-- The root directory. -/
def root : Text := "/"

/-- Whether a path starts at the root. -/
def isAbsolute (p : Text) : Bool := p.head? == some separator

/-- The names between separators, without the empty ones. -/
def names (p : Text) : List Text := (p.splitOn separator).filter (!·.isEmpty)

/-- One name further, on the reversed list of names so far. Above the root nothing is removed. -/
def enter (above : List Text) (name : Text) : List Text :=
  if name = Text.ofString "." then above
  else if name = Text.ofString ".." then above.tail
  else name :: above

/-- The names that a list of names leads to from a directory. -/
def walk (start steps : List Text) : List Text := (steps.foldl enter start.reverse).reverse

/-- The absolute path with the given names. -/
def ofNames (ns : List Text) : Text := root ++ Text.join root ns

/-- The names of the absolute form of a path. -/
def absoluteNames (p : Text) : List Text := walk [] (names p)

/-- The absolute form of a path. -/
def absolute (p : Text) : Text := ofNames (absoluteNames p)

/-- The absolute form of a path that is read from a base directory. -/
def resolve (base p : Text) : Text :=
  if isAbsolute p then absolute p else ofNames (walk (absoluteNames base) (names p))

/-- One name further in a relative path, where `..` above the start is kept. -/
def enterRelative (above : List Text) (name : Text) : List Text :=
  if name = Text.ofString "." then above
  else if name = Text.ofString ".." then
    match above with
    | [] => [name]
    | last :: before => if last = Text.ofString ".." then name :: above else before
  else name :: above

/-- A path without `.`, empty names and `..` where they can be removed; a separator at the end
stays. -/
def normal (p : Text) : Text :=
  let trailing := if p.getLast? == some separator then root else []
  if isAbsolute p then
    match absoluteNames p with
    | [] => root
    | ns => ofNames ns ++ trailing
  else
    match ((names p).foldl enterRelative []).reverse with
    | [] => Text.ofString "." ++ trailing
    | ns => Text.join root ns ++ trailing

/-- Several paths one inside the other. -/
def join (parts : List Text) : Text :=
  match parts.filter (!·.isEmpty) with
  | [] => "."
  | ps => normal (Text.join root ps)

/-- The directory part of a path: everything before its last name. -/
def directory (p : Text) : Text :=
  match p with
  | [] => "."
  | first :: tail =>
    let rooted := first == separator
    let before := (tail.reverse.dropWhile (· == separator)).dropWhile (· != separator)
    match before with
    | [] => if rooted then root else "."
    | _ :: rest => if rooted && rest.isEmpty then "//" else first :: rest.reverse

/-- The last name of the absolute form of a path; the root has the empty name. -/
def lastName (p : Text) : Text := (absoluteNames p).getLast?.getD []

/-- What is left of two lists without their common front. -/
def dropCommon : List Text → List Text → List Text × List Text
  | a :: as, b :: bs => if a = b then dropCommon as bs else (a :: as, b :: bs)
  | as, bs => (as, bs)

/-- The way from one directory to a path: up to the common directory, then down. -/
def relative (start target : Text) : Text :=
  let (up, down) := dropCommon (absoluteNames start) (absoluteNames target)
  Text.join root (up.map (fun _ => Text.ofString "..") ++ down)

/-! ## Paths inside a project -/

/-- The path of a script as a project keeps it: relative to the project directory, and absolute
for a script outside of it. -/
def toProject (projectRoot script : Text) : Text :=
  let way := relative projectRoot script
  if way.startsWith ".." || isAbsolute way then absolute script else way

/-- The absolute form of a path that a project keeps. -/
def fromProject (projectRoot script : Text) : Text := resolve projectRoot script

end VisualNovel.Path
