import VisualNovel.Json.Shapes
import VisualNovel.Script.Command

/-!
Commands in JSON, for tools that look at a program or try a single command.

A command is an object with its kind, for some kinds an action, and its fields; a field that the
script leaves out is left out here too. `Command.ofJson?` reads what `Command.toJson` writes.
`CommandJson.targets` and `CommandJson.retarget` work on the object itself and keep all its fields,
also those that no command has.
-/

namespace VisualNovel
namespace CommandJson

/-! ## 1. Writing -/

/-- An operand. -/
def operand : Operand → Json
  | .literal v => .record [("type", .str "literal"), ("value", .ofValue v)]
  | .ref name => .record [("type", .str "ref"), ("name", .str name)]

/-- The fields of a transition. -/
def transitionFields (t : TransitionSpec) : List (String × Json) :=
  Json.givenNum "fade" t.fade ++ Json.givenText "transitionStyle" (t.style.map (·.word)) ++
    Json.givenNum "transitionSeconds" t.seconds

/-- The fields of a gentle movement. -/
def floatFields (f : Floating) : List (String × Json) :=
  Json.givenNum "floatAmp" f.amplitude ++ Json.givenNum "floatSpeed" f.speed

/-- An option of a choice. -/
def option (o : ChoiceOption) : Json := .record [("text", .str o.text), ("target", .str o.target)]

/-- Texts by names. -/
def textTable (t : Table Text) : Json := .obj (t.entries.map fun (k, v) => (k, .str v))

/-- The fields of a character. -/
def characterFields (c : Character) : List (String × Json) :=
  [("ident", .str c.ident)] ++ Json.givenText "displayName" c.displayName ++
    Json.givenText "color" c.color ++ Json.givenText "voiceTag" c.voiceTag ++
    Json.givenPoint "pos" c.pos ++ Json.givenText "anchor" c.anchor ++ Json.givenNum "z" c.z ++
    floatFields c.floating ++ [("sprites", textTable c.sprites)]

/-- The fields of a button. -/
def buttonFields (b : HudButton) : List (String × Json) :=
  [("name", .str b.name), ("style", .str b.style.word)] ++ Json.givenText "text" b.text ++
    Json.givenText "icon" b.icon ++ [("rect", .ofRect b.rect), ("target", .str b.target)]

/-- A command of a kind with its fields. -/
def kinded (kind : String) (fields : List (String × Json)) : Json :=
  .record (("kind", .str kind) :: fields)

/-- A command of a kind and an action with its fields. -/
def acted (kind action : String) (fields : List (String × Json)) : Json :=
  kinded kind (("action", .str action) :: fields)

/-- A command. -/
def write : Command → Json
  | .label name => kinded "label" [("name", .str name)]
  | .say speaker text => kinded "say" (Json.givenText "speaker" speaker ++ [("text", .str text)])
  | .jump target => kinded "jump" [("target", .str target)]
  | .choice prompt options timeout timeoutDefault =>
    kinded "choice" ([("prompt", .str prompt), ("options", .arr (options.map option))] ++
      Json.givenNum "timeout" timeout ++
      Json.givenNum "timeoutDefault" (timeoutDefault.map (·.number)))
  | .scene kind value transition floating =>
    kinded "scene" ([("sceneKind", .str kind.word), ("value", .str value)] ++
      transitionFields transition ++ floatFields floating)
  | .show s =>
    kinded "show" ([("spriteKind", .str s.kind.word), ("name", .str s.name),
        ("value", .str s.value)] ++ Json.givenPoint "size" s.size ++
      Json.givenPoint "pos" s.pos ++ Json.givenText "anchor" s.anchor ++ Json.givenNum "z" s.z ++
      transitionFields s.transition ++ floatFields s.floating)
  | .showCharacter s =>
    kinded "showChar" ([("ident", .str s.ident)] ++ Json.givenText "expression" s.expression ++
      Json.givenPoint "pos" s.pos ++ Json.givenText "anchor" s.anchor ++ Json.givenNum "z" s.z ++
      transitionFields s.transition ++ floatFields s.floating)
  | .hide name transition => kinded "hide" (("name", .str name) :: transitionFields transition)
  | .camera c =>
    kinded "camera" [("panX", .num c.panX), ("panY", .num c.panY), ("zoom", .num c.zoom)]
  | .animate name goal seconds ease =>
    let (action, value) : String × Json :=
      match goal with
      | .move p => ("move", .ofPoint p)
      | .size p => ("size", .ofPoint p)
      | .alpha x => ("alpha", .num x)
    acted "animate" action
      [("name", .str name), ("to", value), ("seconds", .num seconds), ("ease", .str ease.word)]
  | .stopAnimation name => acted "animate" "stop" (Json.givenText "name" name)
  | .music channel path loop =>
    kinded "music" [("channel", .str channel), ("path", .str path), ("loop", .bool loop)]
  | .sound channel path =>
    kinded "sound" (Json.givenText "channel" channel ++ [("path", .str path)])
  | .echo path => acted "echo" "start" [("path", .str path)]
  | .stopEcho => acted "echo" "stop" []
  | .voice character path =>
    kinded "voice" (Json.givenText "character" character ++ [("path", .str path)])
  | .mute target => kinded "mute" [("target", .str target)]
  | .preload kind path => kinded "preload" [("assetKind", .str kind), ("path", .str path)]
  | .clearCache target =>
    match target with
    | .images => kinded "cacheClear" [("target", .str "images")]
    | .scripts => kinded "cacheClear" [("target", .str "scripts")]
    | .stage => kinded "cacheClear" [("target", .str "runtime")]
    | .script path => kinded "cacheClear" [("target", .str "script"), ("path", .str path)]
  | .pin kind path => kinded "cachePin" [("assetKind", .str kind), ("path", .str path)]
  | .unpin kind path => kinded "cacheUnpin" [("assetKind", .str kind), ("path", .str path)]
  | .collect => kinded "gc" []
  | .wait seconds => kinded "wait" [("seconds", .num seconds)]
  | .waitVoice => kinded "waitVoice" []
  | .waitVideo => kinded "waitVideo" []
  | .notify text seconds =>
    kinded "notify" ([("text", .str text)] ++ Json.givenNum "seconds" seconds)
  | .blend style seconds => kinded "blend" [("style", .str style.word), ("seconds", .num seconds)]
  | .save slot => kinded "save" (Json.givenText "slot" slot)
  | .load slot => kinded "load" (Json.givenText "slot" slot)
  | .setVariable name v => kinded "setVar" [("name", .str name), ("value", operand v)]
  | .addVariable name amount => kinded "addVar" [("name", .str name), ("amount", .num amount)]
  | .jumpIf name op v target =>
    kinded "ifJump" [("name", .str name), ("op", .str op.symbol), ("value", operand v),
      ("target", .str target)]
  | .call path resolved label =>
    kinded "call" [("path", .str path), ("resolvedPath", .str resolved), ("label", .str label)]
  | .beginLoading text => acted "loading" "start" (Json.givenText "text" text)
  | .endLoading => acted "loading" "end" []
  | .define c => kinded "characterDef" (characterFields c)
  | .input name prompt default =>
    kinded "input" ([("variable", .str name), ("prompt", .str prompt)] ++
      Json.givenText "defaultValue" default)
  | .openPhone contact => acted "phone" "open" [("contact", .str contact)]
  | .phoneMessage side text => acted "phone" "msg" [("side", .str side.word), ("text", .str text)]
  | .closePhone => acted "phone" "close" []
  | .showMeter name label low high color =>
    acted "meter" "show" ([("variable", .str name), ("label", .str label), ("min", .num low),
      ("max", .num high)] ++ Json.givenText "color" color)
  | .hideMeter name => acted "meter" "hide" [("variable", .str name)]
  | .updateMeter name => acted "meter" "update" [("variable", .str name)]
  | .clearMeters => acted "meter" "clear" []
  | .addItem id name description icon amount =>
    acted "item" "add" ([("id", .str id), ("name", .str name), ("description", .str description)] ++
      Json.givenText "icon" icon ++ [("amount", .num amount)])
  | .removeItem id amount => acted "item" "remove" [("id", .str id), ("amount", .num amount)]
  | .clearItems => acted "item" "clear" []
  | .showMap image => acted "map" "show" [("image", .str image)]
  | .mapPoint title pos corners target =>
    acted "map" "poi" ([("label", .str title), ("pos", .ofPoint pos)] ++
      Json.given "points" (corners.map fun ps => .ofPoints ps) ++ [("target", .str target)])
  | .hideMap => acted "map" "hide" []
  | .playVideo path loop fit =>
    acted "video" "play" [("path", .str path), ("loop", .bool loop), ("fit", .str fit.word)]
  | .stopVideo => acted "video" "stop" []
  | .hotspot name (.rect area) target =>
    kinded "hotspotAdd" [("name", .str name), ("rect", .ofRect area), ("target", .str target)]
  | .hotspot name (.polygon corners) target =>
    kinded "hotspotPoly"
      [("name", .str name), ("points", .ofPoints corners), ("target", .str target)]
  | .removeHotspot name => kinded "hotspotRemove" [("name", .ofText? name)]
  | .debugHotspots enabled => kinded "hotspotDebug" [("enabled", .bool enabled)]
  | .button b => kinded "hudAdd" (buttonFields b)
  | .removeButton name => kinded "hudRemove" [("name", .ofText? name)]

/-! ## 2. Reading -/

/-- An operand. -/
def operand? (j : Json) : Option Operand :=
  if j.textField? "type" = some (Text.ofString "ref") then (j.textField? "name").map .ref
  else (j.need "value" (Json.storyValue? Json.num?)).map .literal

/-- A transition. -/
def transitionSpec (j : Json) : TransitionSpec :=
  { fade := j.numField? "fade"
    style := (j.textField? "transitionStyle").bind TransitionStyle.ofWord?
    seconds := j.numField? "transitionSeconds" }

/-- A gentle movement. -/
def floating (j : Json) : Floating := ⟨j.numField? "floatAmp", j.numField? "floatSpeed"⟩

/-- An option of a choice. -/
def option? (j : Json) : Option ChoiceOption := do
  return ⟨← j.textField? "text", ← j.textField? "target"⟩

/-- A character. -/
def character? (j : Json) : Option Character := do
  let ident ← j.textField? "ident"
  let sprites ← j.allow "sprites" (Json.table? fun _ v => v.text?)
  return { ident, displayName := j.textField? "displayName", color := j.textField? "color",
           voiceTag := j.textField? "voiceTag", pos := j.pointField? "pos",
           anchor := j.textField? "anchor", z := j.numField? "z", floating := floating j,
           sprites := sprites.getD {} }

/-- A button. -/
def button? (j : Json) : Option HudButton := do
  let name ← j.textField? "name"
  let style ← j.need "style" (Json.worded? [HudStyle.text, .icon, .both] HudStyle.word)
  let rect ← j.rectField? "rect"
  let target ← j.textField? "target"
  return { name, style, text := j.textField? "text", icon := j.textField? "icon", rect, target }

/-- What a movement leads to. -/
def goal? (action : String) (value : Json) : Option AnimationGoal :=
  match action with
  | "move" => (Json.point? Json.num? value).map .move
  | "size" => (Json.point? Json.num? value).map .size
  | "alpha" => value.num?.map .alpha
  | _ => none

/-- The word for the action of a command. -/
def actionWord (j : Json) : String := ((j.textField? "action").getD []).toString

/-- A command on the movement of sprites. -/
def animation? (j : Json) : Option Command :=
  if actionWord j = "stop" then some (.stopAnimation (j.textField? "name"))
  else do
    let goal ← goal? (actionWord j) (← j.field? "to")
    let ease ← (← j.textField? "ease") |> Ease.ofWord?
    return .animate (← j.textField? "name") goal (← j.numField? "seconds") ease

/-- A command that does nothing. -/
def idle : Command := .label []

/-- A command on meters. An action that is not known does nothing. -/
def meter? (j : Json) : Option Command := do
  match actionWord j with
  | "show" =>
    return .showMeter (← j.textField? "variable") (← j.textField? "label") (← j.numField? "min")
      (← j.numField? "max") (j.textField? "color")
  | "update" => return .updateMeter (← j.textField? "variable")
  | "hide" => return .hideMeter (← j.textField? "variable")
  | "clear" => return .clearMeters
  | _ => return idle

/-- A command on the inventory. -/
def item? (j : Json) : Option Command := do
  match actionWord j with
  | "add" =>
    return .addItem (← j.textField? "id") (← j.textField? "name") (← j.textField? "description")
      (j.textField? "icon") (← j.numField? "amount")
  | "remove" => return .removeItem (← j.textField? "id") (← j.numField? "amount")
  | _ => return .clearItems

/-- A command on the map. -/
def map? (j : Json) : Option Command := do
  match actionWord j with
  | "hide" => return .hideMap
  | "poi" =>
    return .mapPoint (← j.textField? "label") (← j.pointField? "pos")
      (j.pointsField? "points") (← j.textField? "target")
  | _ => return .showMap (← j.textField? "image")

/-- What a command clears. -/
def cacheTarget? (j : Json) : Option CacheTarget :=
  match ((j.textField? "target").getD []).toString with
  | "images" => some .images
  | "scripts" => some .scripts
  | "script" => some (.script ((j.textField? "path").getD []))
  | "runtime" => some .stage
  | _ => none

/-- What a command takes away: the thing with a name, or everything under `null`. Without a name it
takes nothing away. -/
def removed? (j : Json) : Option (Option Text) :=
  match j.field? "name" with
  | some .null => some none
  | some (.str name) => some (some name)
  | _ => none

/-- A command; nothing for an object that is none. -/
def read? (j : Json) : Option Command := do
  let text := j.textField?
  let number := j.numField?
  let truth := fun key => j.need key Json.bool?
  match ((j.textField? "kind").getD []).toString with
  | "label" => return .label (← text "name")
  | "say" => return .say (text "speaker") (← text "text")
  | "jump" => return .jump (← text "target")
  | "choice" =>
    return .choice (← text "prompt") (← j.need "options" (Json.list? option?)) (number "timeout")
      ((number "timeoutDefault").map Ordinal.ofNumber)
  | "scene" =>
    let kind ← j.need "sceneKind" (Json.worded? [SceneKind.color, .image] SceneKind.word)
    return .scene kind (← text "value") (transitionSpec j) (floating j)
  | "show" =>
    let kind ← j.need "spriteKind" (Json.worded? [AssetKind.image, .rect] AssetKind.word)
    return .show { kind, name := ← text "name", value := ← text "value",
                   size := j.pointField? "size", pos := j.pointField? "pos",
                   anchor := text "anchor", z := number "z", transition := transitionSpec j,
                   floating := floating j }
  | "showChar" =>
    return .showCharacter { ident := ← text "ident", expression := text "expression",
                            pos := j.pointField? "pos", anchor := text "anchor", z := number "z",
                            transition := transitionSpec j, floating := floating j }
  | "hide" => return .hide (← text "name") (transitionSpec j)
  | "camera" => return .camera ⟨← number "panX", ← number "panY", ← number "zoom"⟩
  | "animate" => animation? j
  | "music" => return .music (← text "channel") (← text "path") (← truth "loop")
  | "sound" => return .sound (text "channel") (← text "path")
  | "echo" =>
    match actionWord j, text "path" with
    | "start", some path => return .echo path
    | _, _ => return .stopEcho
  | "voice" => return .voice (text "character") (← text "path")
  | "mute" => return .mute (← text "target")
  | "preload" => return .preload (← text "assetKind") (← text "path")
  | "cacheClear" => return ((cacheTarget? j).map .clearCache).getD idle
  | "cachePin" => return .pin (← text "assetKind") (← text "path")
  | "cacheUnpin" => return .unpin (← text "assetKind") (← text "path")
  | "gc" => return .collect
  | "wait" => return ((number "seconds").map .wait).getD idle
  | "waitVoice" => return .waitVoice
  | "waitVideo" => return .waitVideo
  | "notify" => return .notify (← text "text") (number "seconds")
  | "blend" => return .blend (← (← text "style") |> TransitionStyle.ofWord?) (← number "seconds")
  | "save" => return .save (text "slot")
  | "load" => return .load (text "slot")
  | "setVar" => return .setVariable (← text "name") (← j.need "value" operand?)
  | "addVar" => return .addVariable (← text "name") (← number "amount")
  | "ifJump" =>
    return .jumpIf (← text "name") (← (← text "op") |> CompareOp.ofSymbol?)
      (← j.need "value" operand?) (← text "target")
  | "call" => return .call (← text "path") (← text "resolvedPath") (← text "label")
  | "loading" => return if actionWord j = "start" then .beginLoading (text "text") else .endLoading
  | "characterDef" => (character? j).map .define
  | "input" => return .input (← text "variable") (← text "prompt") (text "defaultValue")
  | "phone" =>
    match actionWord j with
    | "open" => return .openPhone (← text "contact")
    | "msg" =>
      let side ← j.need "side" (Json.worded? [Side.left, .right] Side.word)
      return .phoneMessage side (← text "text")
    | _ => return .closePhone
  | "meter" => meter? j
  | "item" => item? j
  | "map" => map? j
  | "video" =>
    if actionWord j = "stop" then return .stopVideo
    let fit ← j.need "fit" (Json.worded? VideoFit.all VideoFit.word)
    return .playVideo (← text "path") (← truth "loop") fit
  | "hotspotAdd" =>
    return .hotspot (← text "name") (.rect (← j.rectField? "rect")) (← text "target")
  | "hotspotPoly" =>
    return .hotspot (← text "name") (.polygon (← j.pointsField? "points")) (← text "target")
  | "hotspotRemove" => return ((removed? j).map .removeHotspot).getD idle
  | "hotspotDebug" => return .debugHotspots (← truth "enabled")
  | "hudAdd" => (button? j).map .button
  | "hudRemove" => return ((removed? j).map .removeButton).getD idle
  | _ => none

/-! ## 3. Targets -/

/-- The word for the kind of a command. -/
def kindWord (j : Json) : String := ((j.textField? "kind").getD []).toString

/-- Whether an object is a command with one target. -/
def hasTarget (j : Json) : Bool :=
  ["jump", "ifJump", "hotspotAdd", "hotspotPoly", "hudAdd"].contains (kindWord j) ||
    (kindWord j == "map" && actionWord j == "poi")

/-- The object with one of its fields changed. -/
def changeField (name : Text) (change : Json → Json) : Json → Json
  | .obj fields => .obj (fields.map fun f => if f.1 = name then (f.1, change f.2) else f)
  | j => j

/-- A text with a change, and any other value as it is. -/
def changeText (change : Text → Text) : Json → Json
  | .str t => .str (change t)
  | j => j

/-- Changes every item of an array. -/
def changeItems (change : Json → Json) : Json → Json
  | .arr items => .arr (items.map change)
  | j => j

/-- The targets of a command. -/
def targets (j : Json) : List Json :=
  let target := fun (holder : Json) => Json.orNull (holder.field? "target")
  if hasTarget j then [target j]
  else if kindWord j == "choice" then ((j.need "options" Json.items?).getD []).map target
  else []

/-- Changes the targets of a command and, where a second change is given, the name of a label. -/
def retarget (change : Text → Text) (changeLabel : Option (Text → Text)) (j : Json) : Json :=
  if kindWord j == "label" then
    match changeLabel with
    | some rename => changeField "name" (changeText rename) j
    | none => j
  else if hasTarget j then changeField "target" (changeText change) j
  else if kindWord j == "choice" then
    changeField "options" (changeItems (changeField "target" (changeText change))) j
  else j

end CommandJson

/-- A command in JSON. -/
def Command.toJson (command : Command) : Json := CommandJson.write command

/-- The command that an object stands for. -/
def Command.ofJson? (j : Json) : Option Command := CommandJson.read? j

end VisualNovel
