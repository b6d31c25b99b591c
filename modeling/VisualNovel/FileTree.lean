import VisualNovel.Path
import VisualNovel.Table

/-!
A tree of files and directories.

The tree is a table from absolute paths to nodes; the root is always a directory. The operations
that change it make or demand the directory around a node, so the directory of every node is in
the tree. Each failing operation says what stood in its way and leaves the tree as it was.
-/

namespace VisualNovel

/-- Why an operation on the tree failed. -/
inductive FileError where
  /-- Nothing is there. -/
  | missing
  /-- A directory is where a file should be. -/
  | isDirectory
  /-- A file is where a directory should be on the way. -/
  | notDirectory
  /-- A file is where a directory should be made. -/
  | occupied
  deriving DecidableEq, Repr, Inhabited

/-- The short name of an error of the file tree. -/
def FileError.code : FileError → Text
  | .missing => "ENOENT"
  | .isDirectory => "EISDIR"
  | .notDirectory => "ENOTDIR"
  | .occupied => "EEXIST"

/-- A file with its text, or a directory. -/
inductive FileNode where
  | file (text : Text)
  | directory
  deriving DecidableEq, Repr, Inhabited

/-- Files and directories under their absolute paths. -/
structure FileTree where
  nodes : Table FileNode := {}
  deriving Repr, DecidableEq, Inhabited

namespace FileTree

/-- The node at an absolute path. -/
def nodeAt (t : FileTree) (absolute : Text) : Option FileNode :=
  if absolute = Path.root then some .directory else t.nodes.get? absolute

/-- The node at a path. The empty path leads nowhere. -/
def node? (t : FileTree) (path : Text) : Option FileNode :=
  if path.isEmpty then none else t.nodeAt (Path.absolute path)

/-- Whether there is a file or directory at a path. -/
def pathExists (t : FileTree) (path : Text) : Bool := (t.node? path).isSome

/-- Whether there is a file at a path. -/
def isFile (t : FileTree) (path : Text) : Bool :=
  match t.node? path with
  | some (.file _) => true
  | _ => false

/-- Whether there is a directory at a path. -/
def isDirectory (t : FileTree) (path : Text) : Bool := t.node? path == some .directory

/-- The text of the file at a path. -/
def read (t : FileTree) (path : Text) : Except FileError Text :=
  match t.node? path with
  | some (.file text) => .ok text
  | some .directory => .error .isDirectory
  | none => .error .missing

/-- The absolute paths of the directories on the way to a list of names, the last included. -/
def waypoints (ns : List Text) : List Text :=
  (List.range ns.length).map fun k => Path.ofNames (ns.take (k + 1))

/-- Makes the directories of a list of paths, each inside the one before it. `last` is the one
that was asked for. -/
def makeEach (last : Text) : List Text → FileTree → Except FileError FileTree
  | [], t => .ok t
  | path :: rest, t =>
    match t.nodeAt path with
    | some .directory => makeEach last rest t
    | some (.file _) => .error (if path = last then .occupied else .notDirectory)
    | none => makeEach last rest ⟨t.nodes.set path .directory⟩

/-- Makes a directory and those on the way to it. -/
def makeDirectory (t : FileTree) (path : Text) : Except FileError FileTree :=
  let absolute := Path.absolute path
  if path.isEmpty then .error .missing
  else makeEach absolute (waypoints (Path.names absolute)) t

/-- Writes a file into a directory that exists. -/
def write (t : FileTree) (path text : Text) : Except FileError FileTree :=
  let absolute := Path.absolute path
  if path.isEmpty then .error .missing
  else
    match t.nodeAt absolute with
    | some .directory => .error .isDirectory
    | some (.file _) => .ok ⟨t.nodes.set absolute (.file text)⟩
    | none =>
      match t.nodeAt (Path.directory absolute) with
      | some .directory => .ok ⟨t.nodes.set absolute (.file text)⟩
      | some (.file _) => .error .notDirectory
      | none => .error .missing

/-- Removes a file. -/
def unlink (t : FileTree) (path : Text) : Except FileError FileTree :=
  match t.node? path with
  | some (.file _) => .ok ⟨t.nodes.erase (Path.absolute path)⟩
  | some .directory => .error .isDirectory
  | none => .error .missing

/-- Moves a file to another name, over a file that may be there. -/
def rename (t : FileTree) (source target : Text) : Except FileError FileTree :=
  match t.read source with
  | .error e => .error e
  | .ok text =>
    if t.isDirectory target then .error .isDirectory
    else
      match t.write target text with
      | .error e => .error e
      | .ok moved =>
        if Path.absolute source = Path.absolute target then .ok moved
        else .ok ⟨moved.nodes.erase (Path.absolute source)⟩

/-- The names of what stands directly in a directory. -/
def children (t : FileTree) (path : Text) : Except FileError (List Text) :=
  match t.node? path with
  | none => .error .missing
  | some (.file _) => .error .notDirectory
  | some .directory =>
    let inside := Path.absoluteNames path
    .ok <| t.nodes.keys.filterMap fun key =>
      let ns := Path.names key
      if ns.length = inside.length + 1 && ns.take inside.length = inside then ns.getLast? else none

/-- Puts a file into the tree together with the directories around it. -/
def place (t : FileTree) (path text : Text) : Except FileError FileTree := do
  let around ← t.makeDirectory (Path.directory (Path.absolute path))
  around.write path text

/-- Takes away whatever stands at a path, with everything below it. -/
def remove (t : FileTree) (path : Text) : FileTree :=
  let absolute := Path.absolute path
  let below := absolute ++ Path.root
  ⟨⟨t.nodes.entries.filter fun e => e.1 ≠ absolute && !e.1.startsWith below⟩⟩

/-- The paths of all files, in the order of their units. -/
def filePaths (t : FileTree) : List Text :=
  (t.nodes.entries.filterMap fun e =>
    match e.2 with
    | .file _ => some e.1
    | .directory => none).mergeSort fun a b => decide (a ≤ b)

/-- The number of files. -/
def fileCount (t : FileTree) : Nat :=
  t.nodes.entries.countP fun e =>
    match e.2 with
    | .file _ => true
    | .directory => false

end FileTree
end VisualNovel
