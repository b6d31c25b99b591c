import VisualNovel.Script.Statement.Basic

/-!
Statements about what lies over the picture: phone, meters, items, map, hotspots and buttons.
-/

namespace VisualNovel.Statement

open Reader

/-! ## 1. Phone -/

/-- What happens on the phone. -/
inductive PhoneAction where
  | openUp | message | close

/-- A conversation on the phone. -/
def phone : Reader Command := do
  let action ← expectOneOf "phone action"
    [("open", PhoneAction.openUp), ("msg", .message), ("close", .close)] "phone action"
  match action with
  | .openUp =>
    let contact ← expectString "phone contact"
    endStatement
    return .openPhone contact
  | .message =>
    let side ← expectOneOf "message side" [("left", Side.left), ("right", .right)]
      "phone message side"
    let text ← expectString "message text"
    endStatement
    return .phoneMessage side text
  | .close =>
    endStatement
    return .closePhone

/-! ## 2. Meters -/

/-- What happens to a meter. -/
inductive MeterAction where
  | display | hide | update | clear

/-- A meter that shows a variable. -/
def meter : Reader Command := do
  let action ← expectOneOf "meter action"
    [("show", MeterAction.display), ("hide", .hide), ("update", .update), ("clear", .clear)]
    "meter action"
  match action with
  | .clear =>
    endStatement
    return .clearMeters
  | .hide =>
    let name ← expectWord "meter variable"
    endStatement
    return .hideMeter name
  | .update =>
    let name ← expectWord "meter variable"
    endStatement
    return .updateMeter name
  | .display =>
    let name ← expectWord "meter variable"
    let label ← expectString "meter label"
    let low ← expectNumber "meter min"
    let high ← expectNumber "meter max"
    if high ≤ low then fail .meterRange
    let shade ← if ← acceptWord "color" then some <$> color "meter color" else pure none
    endStatement
    return .showMeter name label low high shade

/-! ## 3. Items -/

/-- What happens to an item. -/
inductive ItemAction where
  | add | remove | clear

/-- One more setting of an item: its icon or its amount. -/
def itemSetting : Option Text × Float → Reader (Option Text × Float)
  | (icon, amount) => do
    if ← acceptWord "icon" then
      return (some (← expectString "item icon"), amount)
    else if ← acceptWord "amount" then
      return (icon, ← expectInt "item amount")
    else
      let token ← next
      fail (.unexpectedIn token.value "item")

/-- An item that the player carries. -/
def item : Reader Command := do
  let action ← expectOneOf "item action"
    [("add", ItemAction.add), ("remove", .remove), ("clear", .clear)] "item action"
  match action with
  | .clear =>
    endStatement
    return .clearItems
  | .remove =>
    let id ← expectWord "item id"
    let amount ← if ← acceptWord "amount" then expectInt "item amount" else pure 1.0
    endStatement
    return .removeItem id amount
  | .add =>
    let id ← expectWord "item id"
    let name ← expectString "item name"
    let description ← expectString "item description"
    let (icon, amount) ← gather Cursor.atStatementEnd itemSetting (none, 1.0)
    endStatement
    return .addItem id name description icon amount

/-! ## 4. Map -/

/-- What happens to the map. -/
inductive MapAction where
  | display | point | hide

/-- The map, or a point on it. -/
def map : Reader Command := do
  let action ← expectOneOf "map action"
    [("show", MapAction.display), ("poi", .point), ("hide", .hide)] "map action"
  match action with
  | .display =>
    let image ← expectString "map image"
    endStatement
    return .showMap image
  | .hide =>
    endStatement
    return .hideMap
  | .point =>
    let title ← expectString "point label"
    let pos ← point "point x" "point y"
    let corners ← points "map point polygon"
    if 0 < corners.length && corners.length < 3 then fail (.tooFewPoints "map point polygon")
    let target ← target
    endStatement
    return .mapPoint title pos (if corners.isEmpty then none else some corners) target

/-! ## 5. Hotspots and buttons -/

/-- What happens to a hotspot. -/
inductive HotspotAction where
  | add | polygon | remove | clear | debug

/-- An area of the world that can be clicked. -/
def hotspot : Reader Command := do
  let action ← expectOneOf "hotspot action"
    [("add", HotspotAction.add), ("poly", .polygon), ("remove", .remove), ("clear", .clear),
      ("debug", .debug)] "hotspot action"
  match action with
  | .clear =>
    endStatement
    return .removeHotspot none
  | .debug =>
    let enabled ← expectOneOf "on or off" [("on", true), ("off", false)] "hotspot debug"
    endStatement
    return .debugHotspots enabled
  | .remove =>
    let name ← expectWord "hotspot name"
    endStatement
    return .removeHotspot (some name)
  | .add =>
    let name ← expectWord "hotspot name"
    let area ← rect
    let target ← target
    endStatement
    return .hotspot name (.rect area) target
  | .polygon =>
    let name ← expectWord "hotspot name"
    let corners ← points "hotspot polygon"
    if corners.length < 3 then fail (.tooFewPoints "hotspot polygon")
    let target ← target
    endStatement
    return .hotspot name (.polygon corners) target

/-- What happens to a button. -/
inductive ButtonAction where
  | add | remove | clear

/-- The icon and the text that a style of button shows. -/
def buttonFace : HudStyle → Reader (Option Text × Option Text)
  | .text => do return (none, some (← expectString "hud text"))
  | .icon => do return (some (← expectString "hud icon"), none)
  | .both => do
    let icon ← expectString "hud icon"
    let text ← expectString "hud text"
    return (some icon, some text)

/-- A button on the screen. -/
def hud : Reader Command := do
  let action ← expectOneOf "hud action"
    [("add", ButtonAction.add), ("remove", .remove), ("clear", .clear)] "hud action"
  match action with
  | .clear =>
    endStatement
    return .removeButton none
  | .remove =>
    let name ← expectWord "hud button name"
    endStatement
    return .removeButton (some name)
  | .add =>
    let name ← expectWord "hud button name"
    let style ← expectOneOf "hud style"
      [("text", HudStyle.text), ("icon", .icon), ("both", .both)] "hud style"
    let (icon, text) ← buttonFace style
    let rect ← rect
    let target ← target
    endStatement
    return .button { name, style, text, icon, rect, target }

end VisualNovel.Statement
