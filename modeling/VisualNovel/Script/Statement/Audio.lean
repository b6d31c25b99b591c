import VisualNovel.Script.Statement.Basic

/-!
Statements about sound, video and the store of loaded assets.
-/

namespace VisualNovel.Statement

open Reader

/-- Music starts, on the channel `music` unless another is named, and repeats unless it is told not
to. -/
def play : Reader Command := do
  let channel ← optionalWord "music channel"
  let path ← expectString "music path"
  let loop ← if ← look Cursor.atStatementEnd then pure true else expectBool "music loop"
  endStatement
  return .music (channel.getD "music") path loop

/-- A sound plays once. -/
def sound : Reader Command := do
  let channel ← optionalWord "sound channel"
  let path ← expectString "sound path"
  endStatement
  return .sound channel path

/-- A sound in the background starts or stops. -/
def echo : Reader Command := do
  if ← acceptWord "stop" then
    endStatement
    return .stopEcho
  let path ← expectString "echo path"
  let _ ← acceptWord "start"
  endStatement
  return .echo path

/-- A voice speaks, of a character if one is named. -/
def voice : Reader Command := do
  let character ← optionalWord "character id"
  let path ← expectString "voice path"
  endStatement
  return .voice character path

/-- Sounds end. -/
def mute : Reader Command := do
  let target ← optionalWord "mute target"
  endStatement
  return .mute (target.getD "all")

/-- An asset is loaded ahead. -/
def preload : Reader Command := do
  let kind ← expectWord "asset kind"
  let path ← expectString "asset path"
  endStatement
  return .preload kind path

/-- What a statement does with stored assets. -/
inductive CacheAction where
  | clear | pin | unpin

/-- What a statement clears. -/
inductive ClearKind where
  | images | scripts | stage | script

/-- Stored assets are cleared or held. -/
def cache : Reader Command := do
  let action ← expectOneOf "cache action"
    [("clear", CacheAction.clear), ("pin", .pin), ("unpin", .unpin)] "cache action"
  match action with
  | .clear =>
    let kind ← expectOneOf "cache target"
      [("images", ClearKind.images), ("scripts", .scripts), ("runtime", .stage), ("scene", .stage),
        ("script", .script)] "cache clear target"
    match kind with
    | .script =>
      let path ← expectString "script path"
      endStatement
      return .clearCache (.script path)
    | .images => endStatement; return .clearCache .images
    | .scripts => endStatement; return .clearCache .scripts
    | .stage => endStatement; return .clearCache .stage
  | .pin =>
    let kind ← expectWord "asset kind"
    let path ← expectString "asset path"
    endStatement
    return .pin kind path
  | .unpin =>
    let kind ← expectWord "asset kind"
    let path ← expectString "asset path"
    endStatement
    return .unpin kind path

/-- Assets that nothing shows are given back. -/
def collect : Reader Command := do
  endStatement
  return .collect

/-- One more setting of a video. -/
def videoSetting : Bool × VideoFit → Reader (Bool × VideoFit)
  | (loop, fit) => do
    if ← acceptWord "loop" then
      return (← expectBool "video loop", fit)
    else if ← acceptWord "fit" then
      return (loop, ← expectOneOf "video fit" (VideoFit.all.map fun f => (f.word, f)) "video fit")
    else
      let token ← next
      fail (.unexpectedIn token.value "video")

/-- A video plays or stops. -/
def video : Reader Command := do
  let plays ← expectOneOf "video action" [("play", true), ("stop", false)] "video action"
  if plays then
    let path ← expectString "video path"
    let (loop, fit) ← gather Cursor.atStatementEnd videoSetting (false, .contain)
    endStatement
    return .playVideo path loop fit
  else
    endStatement
    return .stopVideo

end VisualNovel.Statement
