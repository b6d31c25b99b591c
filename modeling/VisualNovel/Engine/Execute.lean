import VisualNovel.Engine.Saving

/-!
What the commands of a story do.

`Action.execute` does one command. It does not look at what the game waits for and it does not move
to the next command: that is the work of the run.
-/

namespace VisualNovel
namespace Action

variable {τ : Type} [Clock τ]

/-! ## 1. Sprites -/

/-- Shows a sprite that a script adds by itself. What the command leaves out is kept from a sprite
of the same name. -/
def showSprite (spec : SpriteSpec) : Action τ Unit := do
  let game ← get
  let existing := game.state.sprites.get? spec.name
  let size ←
    match spec.kind with
    | .image => do
      request (.loadImage spec.value "sprites")
      pure <| spec.size.or <|
        match game.setup.picture spec.value with
        | some surface => some ⟨surface.width, surface.height⟩
        | none => existing.bind (·.size)
    | .rect => do
      let size := (spec.size.or (existing.bind (·.size))).getD ⟨0.0, 0.0⟩
      request (.makeRectSurface spec.value size)
      pure (some size)
  let sprite : Sprite τ :=
    { id := spec.name
      kind := .ofAsset spec.kind
      value := spec.value
      anchor := spec.anchor.or (existing.bind (·.anchor))
      z := (spec.z.or (existing.map (·.z))).getD 0.0
      pos := ⟨0.0, 0.0⟩
      size
      floating :=
        { amplitude := spec.floating.amplitude.or (existing.bind (·.floating.amplitude))
          speed := spec.floating.speed.or (existing.bind (·.floating.speed)) }
      transition := Transition.ofSpec spec.transition game.now }
  change fun s => s.placeSprite game.setup.screen sprite spec.pos

/-- Shows a character. What the command leaves out comes from the definition of the character. -/
def showCharacter (spec : CharacterShow) : Action τ Unit := do
  let game ← get
  match game.state.characters.get? spec.ident with
  | none => log .warn <| ScriptProblem.sentence ["show: unknown character ", inQuotes spec.ident]
  | some character =>
    match character.picture? spec.expression with
    | none =>
      log .warn <| ScriptProblem.sentence ["show: character ", inQuotes spec.ident,
        " has no sprite for ", inQuotes (spec.expression.getD "default")]
    | some path =>
      let existing := game.state.sprites.get? spec.ident
      request (.loadImage path "sprites")
      let sprite : Sprite τ :=
        { id := spec.ident
          kind := .character
          value := path
          anchor := spec.anchor.or character.anchor
          z := (spec.z.or (character.z.or (existing.map (·.z)))).getD 0.0
          pos := ⟨0.0, 0.0⟩
          size :=
            match game.setup.picture path with
            | some surface => some ⟨surface.width, surface.height⟩
            | none => existing.bind (·.size)
          floating :=
            { amplitude := spec.floating.amplitude.or character.floating.amplitude
              speed := spec.floating.speed.or character.floating.speed }
          transition := Transition.ofSpec spec.transition game.now }
      change fun s => s.placeSprite game.setup.screen sprite (spec.pos.or character.pos)

/-- Lets a sprite leave. -/
def hideSprite (name : Text) (spec : TransitionSpec) : Action τ Unit := do
  let game ← get
  if game.state.sprites.contains name then
    change fun s => s.hideSprite name (Transition.ofSpec spec game.now)
  else log .warn <| ScriptProblem.sentence ["hide: no sprite named ", inQuotes name]

/-- Begins a movement of a sprite. -/
def animate (name : Text) (goal : AnimationGoal) (seconds : Float) (ease : Ease) :
    Action τ Unit := do
  let game ← get
  match game.state.sprites.get? name with
  | none => log .warn <| ScriptProblem.sentence ["animate: no sprite named ", inQuotes name]
  | some sprite => change fun s => s.animate name sprite goal seconds ease game.now

/-! ## 2. Assets -/

/-- The kinds of assets that are heard. -/
def soundKinds : List Text := ["audio", "sound", "sounds", "sfx", "music", "voice", "voices"]

/-- Whether an asset of a kind is heard. -/
def isSound (kind : Text) : Bool := soundKinds.contains kind

/-- Clears what a script asks to clear. -/
def clearCache (target : CacheTarget) : Action τ Unit := do
  match target with
  | .images => request .clearImages
  | .scripts => modify fun game => { game with library := game.library.clear }
  | .script path =>
    let playing := (← get).program.script
    let script := Path.resolve (Path.directory playing) path
    modify fun game => { game with library := game.library.evict script }
    if script = Path.absolute playing then
      change fun s => { s.clearSprites with dialogue := none }
  | .stage =>
    modify fun game => { game with library := game.library.clear }
    change fun s => { s.clearSprites with hotspots := {} }
    closeVideo
    change fun s =>
      { s with
        dialogue := none, notification := none, wait := none, camera := {}, background := {} }

/-- The paths of the pictures that the stage uses. -/
def usedImages (root : Text) (s : State τ) : List Text :=
  let behind :=
    if s.background.kind = .image then [assetPath root "bg" s.background.value] else []
  let sprites := s.sprites.values.filter fun sprite => sprite.kind ≠ .rect
  behind ++ sprites.map fun sprite => assetPath root "sprites" sprite.value

/-- The paths of the sounds that play on. -/
def usedSounds (root : Text) (s : State τ) : List Text :=
  let music := s.music.map fun m => assetPath root "music" m.path
  let echo := (s.echo.filter (!·.isEmpty)).map fun path => assetPath root "sfx" path
  music.toList ++ echo.toList

/-- Asks for all assets to be dropped that are not used. -/
def collect : Action τ Unit := do
  let game ← get
  request (.pruneImages (sortedOnce (usedImages game.setup.assetRoot game.state)))
  request (.pruneSounds (sortedOnce (usedSounds game.setup.assetRoot game.state)))

/-- Looks at a video, and gives what it shows. -/
def watch (player : VideoPlayer τ) (playback : Playback τ) : Action τ (VideoFrame × Playback τ) := do
  request (.lookVideo playback.opening)
  return player.look playback (← get).now

/-- Plays a video in the place of the one before it. One that is over at once is closed. -/
def playVideo (path : Text) (loop : Bool) (fit : VideoFit) : Action τ Unit := do
  closeVideo
  let game ← get
  match game.setup.videoPlayer with
  | none => log .warn (Text.ofString "no video backend; skipping " ++ path)
  | some player =>
    let full := assetPath game.setup.assetRoot "video" path
    request (.openVideo full loop)
    let (first, playback) ← watch player { path := full, loop, opening := game.requests.size }
    change fun s => { s with video := some ⟨path, loop, fit, playback, first.picture⟩ }
    if first.finished && !loop then closeVideo

/-- Looks at the video that plays. Between two pictures the last one stays. -/
def updateVideo : Action τ Unit := do
  let game ← get
  match game.state.video, game.setup.videoPlayer with
  | some video, some player =>
    let (next, playback) ← watch player video.playback
    let picture := next.picture.or video.picture
    change fun s => { s with video := some { video with playback, picture } }
    if next.finished && !video.loop then closeVideo
  | _, _ => return

/-! ## 3. Scripts -/

/-- Goes to a label of another script. -/
def callScript (path label : Text) : Action τ Unit := do
  let game ← get
  let loaded := game.library.load game.files path
  set { game with library := loaded.library }
  logAll loaded.logs
  match loaded.result with
  | .error fault => throw (.fault fault)
  | .ok edition =>
    modify fun game => { game with program := edition.program }
    change fun s => { s.introduceAll edition.program with loading := none }
    jump label

/-- The points of a map at the front of a list of commands. -/
def leadingPoints : List Command → List MapPoint
  | .mapPoint label pos corners target :: rest =>
    ⟨label, target, pos, corners.getD []⟩ :: leadingPoints rest
  | _ => []

/-- Opens a map. The points that follow in the script belong to it, and are passed over. -/
def showMap (image : Text) : Action τ Unit := do
  let program := (← get).program
  change fun s =>
    let points := leadingPoints (s.index.suffix program.commands.toList)
    { s with map := ⟨true, some image, points.toArray⟩, index := s.index.advance points.length }

/-! ## 4. Commands -/

/-- Does one command. -/
def execute (command : Command) : Action τ Unit := do
  let game ← get
  let fill := interpolate game.state.vars
  match command with
  | .label _ => return
  | .say speaker text =>
    change fun s =>
      { s with dialogue := some (Dialogue.spoken speaker (s.speaker? speaker) (fill text)) }
  | .jump target => jump target
  | .choice prompt options timeout timeoutDefault =>
    change fun s =>
      { s with
        choice := some
          { prompt := fill prompt
            options := options.map fun o => ⟨fill o.text, o.target⟩
            timeout := timeout.map (· * 1000.0)
            timeoutDefault
            started := game.now } }
  | .scene kind value transition floating =>
    if kind = .image then request (.loadImage value "bg")
    change fun s =>
      { s.clearSprites with
        background := ⟨kind, value, floating, Transition.ofSpec transition game.now⟩ }
  | .show sprite => showSprite sprite
  | .showCharacter appearance => showCharacter appearance
  | .hide name transition => hideSprite name transition
  | .camera camera => change fun s => { s with camera }
  | .animate name goal seconds ease => animate name goal seconds ease
  | .stopAnimation none => change fun s => { s with tracks := {} }
  | .stopAnimation (some name) => change fun s => { s with tracks := s.tracks.erase name }
  | .music channel path loop =>
    change fun s => { s with music := some ⟨channel, path, loop⟩ }
    request (.playMusic path loop)
  | .sound _ path => request (.playSound path)
  | .echo path =>
    change fun s => { s with echo := some path }
    request (.playEcho path)
  | .stopEcho =>
    change fun s => { s with echo := none }
    request .stopEcho
  | .voice character path => request (.playVoice (game.state.voicePath character path))
  | .mute target =>
    request (.mute target)
    let everything := target = Text.ofString "all"
    if everything || target = Text.ofString "music" then change fun s => { s with music := none }
    if everything || target = Text.ofString "echo" then change fun s => { s with echo := none }
  | .preload kind path =>
    request (if isSound kind then .preloadSound path else .preloadImage path kind)
  | .clearCache target => clearCache target
  | .pin kind path => request (if isSound kind then .pinSound path else .pinImage path kind)
  | .unpin kind path => request (if isSound kind then .unpinSound path else .unpinImage path kind)
  | .collect => collect
  | .wait seconds =>
    if 0.0 < seconds then
      change fun s => { s with wait := some (.timer (Clock.after game.now seconds)) }
  | .waitVoice => if game.voicePlaying then change fun s => { s with wait := some .voice }
  | .waitVideo => if game.state.video.isSome then change fun s => { s with wait := some .video }
  | .notify text seconds =>
    let due := Clock.after game.now (seconds.getD game.setup.settings.notifySeconds)
    change fun s => { s with notification := some ⟨fill text, due⟩ }
  | .blend style seconds => change fun s => { s with blend := some ⟨style, seconds, game.now⟩ }
  | .save slot => let _ ← save slot
  | .load slot => let _ ← load slot
  | .setVariable name value =>
    match value.value? game.state.vars with
    | some v => change fun s => s.setVariable name v
    | none =>
      log .warn <| ScriptProblem.sentence ["set ", name, ": source variable is not defined"]
  | .addVariable name amount =>
    change fun s => s.setVariable name (.num (Value.add (s.vars.get? name) amount))
  | .jumpIf name op value target =>
    if op.holds (game.state.vars.get? name) (value.value? game.state.vars) then jump target
  | .call _ resolved label => callScript resolved label
  | .beginLoading text => change fun s => { s with loading := some (fill (text.getD "Loading...")) }
  | .endLoading => change fun s => { s with loading := none }
  | .define character =>
    change fun s => { s with characters := s.characters.set character.ident character }
  | .input name prompt default =>
    change fun s => { s with question := some { name, prompt := fill prompt, default } }
  | .openPhone contact => change fun s => { s with phone := { active := true, contact } }
  | .phoneMessage side text =>
    if !game.state.phone.active then log .warn "phone msg with no open conversation"
    let message : PhoneMessage := { side, text := fill text }
    change fun s =>
      { s with phone := { s.phone with messages := s.phone.messages.push message, unread := true } }
  | .closePhone => change fun s => { s with phone := {} }
  | .showMeter name label min max color =>
    change fun s =>
      { s with meters := s.meters.set name ⟨label, min, max, s.meterValue name min max, color⟩ }
  | .hideMeter name => change fun s => { s with meters := s.meters.erase name }
  | .updateMeter name => change fun s => s.refreshMeter name
  | .clearMeters => change fun s => { s with meters := {} }
  | .addItem id name description icon amount =>
    change fun s => s.addItem id ⟨name, description, icon, amount⟩
    let _ ← scroll 0.0
  | .removeItem id amount =>
    change fun s => s.takeItem id amount
    let _ ← scroll 0.0
  | .clearItems =>
    change fun s => { s with inventory := {} }
    let _ ← scroll 0.0
  | .showMap image => showMap image
  | .mapPoint label pos corners target =>
    change fun s =>
      { s with
        map := { s.map with points := s.map.points.push ⟨label, target, pos, corners.getD []⟩ } }
  | .hideMap => change fun s => { s with map := { s.map with active := false } }
  | .playVideo path loop fit => playVideo path loop fit
  | .stopVideo => closeVideo
  | .hotspot name shape target =>
    change fun s => { s with hotspots := s.hotspots.set name ⟨name, shape, target⟩ }
  | .removeHotspot none => change fun s => { s with hotspots := {} }
  | .removeHotspot (some name) => change fun s => { s with hotspots := s.hotspots.erase name }
  | .debugHotspots enabled => change fun s => { s with hotspotDebug := enabled }
  | .button button =>
    if game.setup.features.hud then change fun s => { s with hud := s.hud.set button.name button }
    else
      log .debug <| ScriptProblem.sentence ["hud disabled; ignoring button ", inQuotes button.name]
  | .removeButton none => change fun s => { s with hud := {} }
  | .removeButton (some name) => change fun s => { s with hud := s.hud.erase name }

end Action
end VisualNovel
