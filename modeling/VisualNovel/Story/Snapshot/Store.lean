import VisualNovel.FileTree
import VisualNovel.Json.Parser
import VisualNovel.Log
import VisualNovel.Story.Snapshot.Json

/-!
Save files.

A snapshot is written beside its file first and then moved over it, so that a reader sees the old
file or the new one and never a part. A save that the file tree refuses is logged and reported as
not done; only the removal of what was written beside can still fail. A file that does not hold a
snapshot is passed over with a warning.
-/

namespace VisualNovel

/-- The file of a numbered slot, in a directory beside the quick save. -/
def slotPath (savePath slot : Text) : Text :=
  Path.join [Path.directory savePath, "slots", slot ++ Text.ofString ".json"]

/-- What stands for the details of a file that could not be read: they are not kept. -/
def omittedDetail : Text := "*"

/-- The path beside a file where its new text is written first. -/
def besidePath (path : Text) : Text := path ++ Text.ofString ".tmp"

namespace FileTree

/-- Writes a text beside a file and moves it over the file. The tree is the one that the failing
step left behind. -/
def replace (files : FileTree) (path text : Text) : Except FileError Unit × FileTree :=
  let beside := besidePath path
  match files.write beside text with
  | .error e => (.error e, files)
  | .ok written =>
    match written.rename beside path with
    | .error e => (.error e, written)
    | .ok moved => (.ok (), moved)

/-- The same, with the directory around the file made before. -/
def replaceIn (files : FileTree) (directory path text : Text) : Except FileError Unit × FileTree :=
  match files.makeDirectory directory with
  | .error e => (.error e, files)
  | .ok made => made.replace path text

end FileTree

namespace Snapshot

/-- A log record of the save files. -/
def logRecord (level : LogLevel) (message : Text) : LogRecord := ⟨level, "save", message⟩

/-- The text of a save file. -/
def fileText (data : Snapshot Float) : Text := data.toJson.indented ++ [Text.unit '\n']

/-- The outcome of writing a save file: whether it is written or what stood in the way of cleaning
up, the files afterwards, and what was logged. -/
structure Written where
  result : Except FileError Bool
  files : FileTree
  logs : List LogRecord := []

/-- Writes a save file. -/
def save (data : Snapshot Float) (files : FileTree) (path : Text) : Written :=
  match files.replaceIn (Path.directory path) path data.fileText with
  | (.ok (), after) => ⟨.ok true, after, []⟩
  | (.error e, after) =>
    let logs :=
      [logRecord .warn <|
        Text.ofString "could not write save " ++ path ++ Text.ofString ": " ++ e.code]
    let beside := besidePath path
    if after.pathExists beside then
      match after.unlink beside with
      | .ok cleaned => ⟨.ok false, cleaned, logs⟩
      | .error e => ⟨.error e, after, logs⟩
    else ⟨.ok false, after, logs⟩

/-- The snapshot of a save file, and what was logged about a file that holds none. -/
def load (files : FileTree) (path : Text) : Option (Snapshot Float) × List LogRecord :=
  if !files.pathExists path then (none, [])
  else
    match (files.read path).toOption.bind Json.parse? with
    | none =>
      (none, [logRecord .warn <|
        Text.ofString "ignoring unreadable save " ++ path ++ Text.ofString ": " ++ omittedDetail])
    | some j =>
      match ofJson? j with
      | some data => (some data, [])
      | none =>
        (none, [logRecord .warn <| Text.ofString "ignoring save with unexpected shape: " ++ path])

end Snapshot
end VisualNovel
