import VisualNovel.Player.CommandLine

/-!
The player as a program.

The player sees the files below the current directory, and that directory is the root of its paths.
The files are read before the command line is run, and what the run has changed is written
afterwards. The text screen takes its keys line by line: an empty line is the enter key.
-/

namespace VisualNovel
namespace Disk

/-- The files and directories below the current directory. A file that is not text counts as there,
without a content. -/
def read : IO FileTree := do
  let here ← IO.currentDir
  let skipped := (Text.ofString here.toString).length
  let mut tree : FileTree := {}
  for place in ← here.walkDir do
    let path := (Text.ofString place.toString).drop skipped
    let next : Except FileError FileTree ←
      if ← place.isDir then pure (tree.makeDirectory path)
      else do
        let text := (String.fromUTF8? (← IO.FS.readBinFile place)).getD ""
        pure (tree.place path (Text.ofString text))
    tree := next.toOption.getD tree
  return tree

/-- The name of a path for the disk. -/
def name (path : Text) : String := "." ++ path.toString

/-- Writes the files that have changed, and removes those that are gone. -/
def write (before after : FileTree) : IO Unit := do
  for path in after.filePaths do
    if let .ok text := after.read path then
      if (before.read path).toOption != some text then
        IO.FS.createDirAll (name (Path.directory path))
        IO.FS.writeFile (name path) text.toString
  for path in before.filePaths do
    if !after.isFile path then IO.FS.removeFile (name path)

end Disk

namespace Terminal

/-- A line of input without its end. -/
def unended (line : String) : String :=
  String.ofList (line.toList.filter fun c => c ≠ '\n' && c ≠ '\r')

/-- The keys that a line of input stands for. Words move the cursor; the answer to a question is
typed and sent off. -/
def strokes (asking : Bool) (line : String) : List Stroke :=
  if line.isEmpty then [.enter]
  else if asking then [.text (Text.ofString line), .enter]
  else if line = "up" then [.up]
  else if line = "down" then [.down]
  else [.text (Text.ofString line)]

/-- Shows the lines of the log that are grave enough. -/
def showLog (logs : List LogRecord) : IO Unit := do
  for record in logs do
    for delivery in ({} : LogRouter).deliver record do
      if let .console _ line := delivery then IO.eprintln line.toString

/-- Plays a session until its end or the end of the input, and gives the world afterwards. A key from
which nothing comes back ends the session. -/
partial def play (input : IO.FS.Stream) (session : Session) (world : World) : IO World := do
  let shown := if session.view.isStreaming then session.see .flush else session
  for row in shown.rows do IO.println row.toString
  let line ← input.getLine
  if line.isEmpty then return world
  match shown.pressAll (strokes shown.view.inputMode (unended line)) world with
  | .ok none after => return after
  | .ok (some next) after => play input next after
  | .error _ after => return after

/-- Runs the player with the arguments of the command line, and gives its exit code. -/
def run (arguments : List String) : IO UInt32 := do
  let files ← Disk.read
  match CommandLine.run (arguments.map Text.ofString) {} { files } with
  | .finished code out err world =>
    showLog world.logs.toList
    IO.print out.toString
    IO.eprint err.toString
    Disk.write files world.files
    return code.toUInt32
  | .screen session world =>
    let after ← play (← IO.getStdin) session world
    showLog after.logs.toList
    Disk.write files after.files
    return 0

end Terminal
end VisualNovel

/-- The player. -/
def main (arguments : List String) : IO UInt32 := VisualNovel.Terminal.run arguments
