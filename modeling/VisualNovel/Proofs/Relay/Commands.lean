import VisualNovel.Proofs.Relay.Saves

/-!
Commands do the same to twins.

A command reads of a game what twins have in common, and changes it in one way, whatever else it does to
the stage, the library and the log (`Twin.execute`). So does a run (`Twin.runAtMost`). Only a load needs
more than that: the files that it reads hold saves of twins, and the sprites in both have to have the
numbers that they need.
-/

namespace VisualNovel

variable {τ : Type} [Clock τ]

namespace Game.Twin

open VisualNovel.Action (Together)

variable {files : FileTree} {g h : Game τ}

/-! ## 1. The stage -/

theorem showSprite (twin : g.Twin files h) (spec : SpriteSpec) :
    Together (Twin files) (Action.showSprite spec) (Action.showSprite spec) g h := by
  have placed : ∀ k : Game τ, ∃ sprites tracks requests logs, Action.showSprite spec k =
      .ok () { k with requests, logs, state := { k.state with sprites, tracks } } := by
    intro k
    have read : (get : Action τ (Game τ)) k = .ok k k := rfl
    rw [Action.showSprite, run_bind_ok read]
    cases spec.kind with
    | image => exact ⟨_, k.state.tracks, _, k.logs, rfl⟩
    | rect => exact ⟨_, k.state.tracks, _, k.logs, rfl⟩
  exact twin.onStage (placed g) (placed h)

theorem showCharacter (twin : g.Twin files h) (spec : CharacterShow) :
    Together (Twin files) (Action.showCharacter spec) (Action.showCharacter spec) g h := by
  have placed : ∀ k : Game τ, ∃ sprites tracks requests logs, Action.showCharacter spec k =
      .ok () { k with requests, logs, state := { k.state with sprites, tracks } } := by
    intro k
    have read : (get : Action τ (Game τ)) k = .ok k k := rfl
    rw [Action.showCharacter, run_bind_ok read]
    cases k.state.characters.get? spec.ident with
    | none => exact ⟨k.state.sprites, k.state.tracks, k.requests, _, rfl⟩
    | some character =>
      simp only
      cases character.picture? spec.expression with
      | none => exact ⟨k.state.sprites, k.state.tracks, k.requests, _, rfl⟩
      | some path => exact ⟨_, k.state.tracks, _, k.logs, rfl⟩
  exact twin.onStage (placed g) (placed h)

theorem hideSprite (twin : g.Twin files h) (name : Text) (spec : TransitionSpec) :
    Together (Twin files) (Action.hideSprite name spec) (Action.hideSprite name spec) g h := by
  have hidden : ∀ k : Game τ, ∃ sprites tracks requests logs, Action.hideSprite name spec k =
      .ok () { k with requests, logs, state := { k.state with sprites, tracks } } := by
    intro k
    have read : (get : Action τ (Game τ)) k = .ok k k := rfl
    rw [Action.hideSprite, run_bind_ok read]
    split
    · obtain ⟨sprites, tracks, same⟩ :=
        k.state.hideSprite_frame name (Transition.ofSpec spec k.now)
      refine ⟨sprites, tracks, k.requests, k.logs, ?_⟩
      rw [← same]
      rfl
    · exact ⟨k.state.sprites, k.state.tracks, k.requests, _, rfl⟩
  exact twin.onStage (hidden g) (hidden h)

theorem animate (twin : g.Twin files h) (name : Text) (goal : AnimationGoal) (seconds : Float)
    (ease : Ease) :
    Together (Twin files) (Action.animate name goal seconds ease)
      (Action.animate name goal seconds ease) g h := by
  have moved : ∀ k : Game τ, ∃ sprites tracks requests logs,
      Action.animate name goal seconds ease k =
        .ok () { k with requests, logs, state := { k.state with sprites, tracks } } := by
    intro k
    have read : (get : Action τ (Game τ)) k = .ok k k := rfl
    rw [Action.animate, run_bind_ok read]
    cases k.state.sprites.get? name with
    | none => exact ⟨k.state.sprites, k.state.tracks, k.requests, _, rfl⟩
    | some sprite =>
      obtain ⟨sprites, tracks, same⟩ :=
        k.state.animate_frame name sprite goal seconds ease k.now
      refine ⟨sprites, tracks, k.requests, k.logs, ?_⟩
      rw [← same]
      rfl
  exact twin.onStage (moved g) (moved h)

theorem clearLibrary (twin : g.Twin files h) :
    ({ g with library := g.library.clear } : Game τ).Twin files
      { h with library := h.library.clear } :=
  { twin with left := { twin.left with shelf := nofun }, right := { twin.right with shelf := nofun } }

theorem evict (twin : g.Twin files h) (path : Text) :
    ({ g with library := g.library.evict path } : Game τ).Twin files
      { h with library := h.library.evict path } := by
  have kept : ∀ k : Game τ, k.Quiet files →
      ({ k with library := k.library.evict path } : Game τ).Quiet files := by
    intro k quiet
    exact { quiet with
      shelf := fun script edition found => quiet.shelf script edition (Library.get?_evict found) }
  exact { twin with left := kept g twin.left, right := kept h twin.right }

theorem clearCache (twin : g.Twin files h) (target : CacheTarget) :
    Together (Twin files) (Action.clearCache target) (Action.clearCache target) g h := by
  cases target with
  | images => exact twin.request _ _
  | scripts => exact .ok rfl rfl twin.clearLibrary
  | script path =>
    rw [Action.clearCache, Action.together_get, twin.program]
    refine (Action.together_bind_ok rfl rfl).mpr ?_
    refine .ite Iff.rfl (fun _ => ?_) fun _ => Action.together_pure (twin.evict _)
    exact (twin.evict _).change { twin.state with dialogue := rfl } rfl rfl
  | stage =>
    unfold Action.clearCache
    refine (Action.together_bind_ok rfl rfl).mpr ?_
    refine (twin.clearLibrary.change { twin.state with hotspots := rfl } rfl rfl).bind
      fun _ _ _ twin => ?_
    refine twin.closeVideo.bind fun _ g' h' twin => ?_
    have quiet : ({ g' with state := { g'.state with
          dialogue := none, notification := none, camera := {}, background := {} } } :
          Game τ).Twin files { h' with state := { h'.state with
          dialogue := none, notification := none, camera := {}, background := {} } } :=
      twin.still { twin.state with dialogue := rfl, camera := rfl, background := rfl } rfl rfl
    exact .ok rfl rfl quiet.released

theorem playVideo (twin : g.Twin files h) (path : Text) (loop : Bool) (fit : VideoFit) :
    Together (Twin files) (Action.playVideo path loop fit) (Action.playVideo path loop fit) g h := by
  unfold Action.playVideo
  refine twin.closeVideo.bind fun _ g' h' twin => ?_
  rw [Action.together_get, twin.left.player, twin.right.player]
  exact twin.log _ _

/-! ## 2. Calls -/

/-- The programs of one script are taken up. -/
theorem enter (twin : g.Twin files h) {script : Text} {program program' : Program}
    (told : files.Tells script program) (told' : files.Tells script program') :
    ({ g with
        program
        state := { g.state.introduceAll program with loading := none } } : Game τ).Twin files
      { h with
        program := program'
        state := { h.state.introduceAll program' with loading := none } } := by
  obtain rfl := told.unique told'
  have unwatched : ∀ s : State τ, (s.introduceAll program).watched = s.watched := by
    intro s
    obtain ⟨characters, same⟩ := s.introduceAll_frame program
    rw [same]
    rfl
  have state : ({ g.state.introduceAll program with loading := none } : State τ).Twin
      { h.state.introduceAll program with loading := none } :=
    { twin.state.introduceAll program with }
  exact
    { setup := twin.setup
      program := rfl
      state
      trees := twin.trees
      left := { twin.left.still (unwatched g.state) with program := told.own }
      right := { twin.right.still (unwatched h.state) with program := told.own } }

/-- A call leads to the same place of the same program. -/
theorem callScript (twin : g.Twin files h) {resolved : Text}
    (named : files.Names (Path.absolute resolved)) (label : Text) :
    Together (Twin files) (Action.callScript resolved label) (Action.callScript resolved label)
      g h := by
  have left := twin.left.supplied
  have right := twin.right.supplied
  have stocked : ({ g with library := (g.library.load g.files resolved).library } : Game τ).Twin
      files { h with library := (h.library.load h.files resolved).library } :=
    { twin with
      left := twin.left.stock (left.loaded named)
      right := twin.right.stock (right.loaded named) }
  unfold Action.callScript
  rw [Action.together_get]
  refine (Action.together_bind_ok rfl rfl).mpr ((stocked.logAll _ _).bind fun _ g' h' twin' => ?_)
  rcases left.load named with ⟨fault, read, left⟩ | ⟨edition, told, left⟩
  · rcases right.load named with ⟨fault', read', right⟩ | ⟨edition', ⟨_, told'⟩, right⟩
    · obtain rfl : fault = fault' := Except.error.inj (read.symm.trans read')
      rw [left, right]
      exact .error rfl rfl twin'
    · rw [read] at told'
      cases told'
  · rcases right.load named with ⟨fault', read', right⟩ | ⟨edition', told', right⟩
    · obtain ⟨_, told⟩ := told
      rw [read'] at told
      cases told
    · rw [left, right]
      refine (Action.together_bind_ok rfl rfl).mpr ((Action.together_bind_ok rfl rfl).mpr ?_)
      exact (twin'.enter told told').jump label

/-! ## 3. Commands -/

theorem showMap (twin : g.Twin files h) (image : Text) :
    Together (Twin files) (Action.showMap image) (Action.showMap image) g h := by
  unfold Action.showMap
  rw [Action.together_get, twin.program]
  refine twin.change { twin.state with index := ?_, map := ?_ } rfl rfl
  · simp only [twin.state.index]
  · simp only [twin.state.index]

/-- A choice is offered at the moments that the clocks show. -/
theorem offer (twin : g.Twin files h) (ideal : Clock.Ideal τ) {c d : Choice τ}
    (same : c.offer = d.offer) (left : c.started = g.now) (right : d.started = h.now)
    (time : ∀ timeout ∈ c.timeout, Clock.lt (Clock.zero : τ) (Clock.ofMillis timeout) = true) :
    ({ g with state := { g.state with choice := some c } } : Game τ).Twin files
      { h with state := { h.state with choice := some d } } := by
  have timeout : c.timeout = d.timeout := congrArg (·.2.2.1) same
  refine
    { twin with
      state := { twin.state with choice := congrArg some same }
      left := { twin.left with choice := ?_ }
      right := { twin.right with choice := ?_ } }
  · rintro _ ⟨⟩
    exact ⟨by rw [left]; exact ideal.sub_self _, time⟩
  · rintro _ ⟨⟩
    exact ⟨by rw [right]; exact ideal.sub_self _, timeout ▸ time⟩

theorem hold (twin : g.Twin files h) (due due' : τ) :
    ({ g with state := { g.state with wait := some (.timer due) } } : Game τ).Twin files
      { h with state := { h.state with wait := some (.timer due') } } :=
  { twin with
    state := { twin.state with wait := rfl }
    left := { twin.left with wait := by rintro _ ⟨⟩; exact ⟨due, rfl⟩ }
    right := { twin.right with wait := by rintro _ ⟨⟩; exact ⟨due', rfl⟩ } }

/-- A command of the program that is no load does the same to twins. -/
theorem execute_other (twin : g.Twin files h) (ideal : Clock.Ideal τ) (free : g.state.Free)
    {c : Command} (mem : c ∈ g.program.commands) (relayed : c.Relayed τ)
    (other : ∀ slot, c ≠ .load slot) :
    Together (Twin files) (Action.execute c) (Action.execute c) g h := by
  have state := twin.state
  unfold Action.execute
  rw [Action.together_get]
  simp only
  rw [state.vars]
  cases c with
  | label name => exact Action.together_pure twin
  | say speaker text =>
    refine twin.change { state with dialogue := ?_ } rfl rfl
    simp only [State.speaker?, state.characters]
  | jump target => exact twin.jump target
  | choice prompt options timeout timeoutDefault =>
    refine .ok rfl rfl (twin.offer ideal rfl rfl rfl ?_)
    intro millis found
    obtain ⟨seconds, given, rfl⟩ := Option.map_eq_some_iff.mp found
    exact relayed seconds given
  | scene kind value transition floating =>
    have painted : ∀ g' h' : Game τ, g'.Twin files h' →
        Together (Twin files)
          (Action.change fun s => { s.clearSprites with
            background := ⟨kind, value, floating, Transition.ofSpec transition g.now⟩ })
          (Action.change fun s => { s.clearSprites with
            background := ⟨kind, value, floating, Transition.ofSpec transition h.now⟩ }) g' h' :=
      fun g' h' twin => twin.change { twin.state with background := rfl } rfl rfl
    refine .ite Iff.rfl (fun _ => ?_) fun _ => painted g h twin
    exact (twin.request _ _).bind fun _ => painted
  | «show» sprite => exact twin.showSprite sprite
  | showCharacter appearance => exact twin.showCharacter appearance
  | hide name transition => exact twin.hideSprite name transition
  | camera camera => exact twin.change { state with camera := rfl } rfl rfl
  | animate name goal seconds ease => exact twin.animate name goal seconds ease
  | stopAnimation name => cases name <;> exact twin.change { state with } rfl rfl
  | music channel path loop =>
    exact (twin.change { state with music := rfl } rfl rfl).bind fun _ _ _ twin => twin.request _ _
  | sound channel path => exact twin.request _ _
  | echo path =>
    exact (twin.change { state with echo := rfl } rfl rfl).bind fun _ _ _ twin => twin.request _ _
  | stopEcho =>
    exact (twin.change { state with echo := rfl } rfl rfl).bind fun _ _ _ twin => twin.request _ _
  | voice character path => exact twin.request _ _
  | mute target =>
    refine (twin.request _ _).bind fun _ g h twin => ?_
    have noEcho : ∀ g' h' : Game τ, g'.Twin files h' →
        Together (Twin files)
          (if (decide (target = Text.ofString "all") || decide (target = Text.ofString "echo")) = true
            then Action.change fun s => { s with echo := none } else pure ())
          (if (decide (target = Text.ofString "all") || decide (target = Text.ofString "echo")) = true
            then Action.change fun s => { s with echo := none } else pure ()) g' h' :=
      fun g' h' twin => .ite Iff.rfl
        (fun _ => twin.change { twin.state with echo := rfl } rfl rfl)
        fun _ => Action.together_pure twin
    refine .ite Iff.rfl (fun _ => ?_) fun _ => noEcho g h twin
    exact (twin.change { twin.state with music := rfl } rfl rfl).bind fun _ => noEcho
  | preload kind path => exact twin.request _ _
  | clearCache target => exact twin.clearCache target
  | pin kind path => exact twin.request _ _
  | unpin kind path => exact twin.request _ _
  | collect => exact (twin.request _ _).bind fun _ _ _ twin => twin.request _ _
  | wait seconds =>
    exact .ite Iff.rfl (fun _ => .ok rfl rfl (twin.hold _ _)) fun _ => Action.together_pure twin
  | waitVoice =>
    rw [twin.left.silent, twin.right.silent]
    exact Action.together_pure twin
  | waitVideo =>
    rw [twin.left.video, twin.right.video]
    exact Action.together_pure twin
  | notify text seconds => exact twin.change { state with } rfl rfl
  | blend style seconds => exact twin.change { state with } rfl rfl
  | save slot =>
    exact (twin.save free twin.left.program.reading mem).bind fun _ _ _ twin =>
      Action.together_pure twin
  | load slot => exact absurd rfl (other slot)
  | setVariable name value =>
    simp only
    split
    · exact twin.change (state.setVariable _ _) rfl rfl
    · exact twin.log _ _
  | addVariable name amount =>
    refine .ok rfl rfl ?_
    simp only [state.vars]
    exact twin.still (state.setVariable _ _) rfl rfl
  | jumpIf name op value target =>
    exact .ite Iff.rfl (fun _ => twin.jump target) fun _ => Action.together_pure twin
  | call path resolved label =>
    exact twin.callScript (.called twin.left.program.reading mem) label
  | beginLoading text => exact twin.change { state with } rfl rfl
  | endLoading => exact twin.change { state with } rfl rfl
  | define character =>
    exact twin.change
      { state with characters := congrArg (·.set character.ident character) state.characters } rfl rfl
  | input name prompt default => exact twin.change { state with question := rfl } rfl rfl
  | openPhone contact => exact twin.change { state with phone := rfl } rfl rfl
  | phoneMessage side text =>
    have rung : ∀ (message : PhoneMessage) (g' h' : Game τ), g'.Twin files h' →
        Together (Twin files)
          (Action.change fun s => { s with
            phone := { s.phone with messages := s.phone.messages.push message, unread := true } })
          (Action.change fun s => { s with
            phone := { s.phone with messages := s.phone.messages.push message, unread := true } })
          g' h' := by
      intro message g' h' twin
      refine twin.change { twin.state with phone := ?_ } rfl rfl
      simp only [twin.state.phone]
    refine .ite (by rw [state.phone]) (fun _ => ?_) fun _ => rung _ g h twin
    exact (twin.log _ _).bind fun _ => rung _
  | closePhone => exact twin.change { state with phone := rfl } rfl rfl
  | showMeter name label min max color =>
    refine twin.change { state with meters := ?_ } rfl rfl
    simp only [State.meterValue, state.vars, state.meters]
  | hideMeter name =>
    exact twin.change { state with meters := congrArg (·.erase name) state.meters } rfl rfl
  | updateMeter name => exact twin.change (state.refreshMeter name) rfl rfl
  | clearMeters => exact twin.change { state with meters := rfl } rfl rfl
  | addItem id name description icon amount =>
    refine (twin.change (state.addItem _ _) rfl rfl).bind fun _ _ _ twin => ?_
    exact (twin.scroll _).bind fun _ _ _ twin => Action.together_pure twin
  | removeItem id amount =>
    have unwatched : ∀ s : State τ, (s.takeItem id amount).watched = s.watched := by
      intro s
      obtain ⟨inventory, same⟩ := s.takeItem_frame id amount
      rw [same]
      rfl
    refine (twin.change (state.takeItem id amount) (unwatched _) (unwatched _)).bind
      fun _ _ _ twin => ?_
    exact (twin.scroll _).bind fun _ _ _ twin => Action.together_pure twin
  | clearItems =>
    refine (twin.change { state with inventory := rfl } rfl rfl).bind fun _ _ _ twin => ?_
    exact (twin.scroll _).bind fun _ _ _ twin => Action.together_pure twin
  | showMap image => exact twin.showMap image
  | mapPoint title pos corners target =>
    refine twin.change { state with map := ?_ } rfl rfl
    simp only [state.map]
  | hideMap =>
    refine twin.change { state with map := ?_ } rfl rfl
    simp only [state.map]
  | playVideo path loop fit => exact twin.playVideo path loop fit
  | stopVideo => exact twin.closeVideo
  | hotspot name shape target =>
    exact twin.change
      { state with hotspots := congrArg (·.set name ⟨name, shape, target⟩) state.hotspots } rfl rfl
  | removeHotspot name =>
    cases name with
    | none => exact twin.change { state with hotspots := rfl } rfl rfl
    | some name =>
      exact twin.change { state with hotspots := congrArg (·.erase name) state.hotspots } rfl rfl
  | debugHotspots enabled => exact twin.change { state with hotspotDebug := rfl } rfl rfl
  | button button =>
    refine .ite (by rw [twin.setup]) (fun _ => ?_) fun _ => twin.log _ _
    exact twin.change { state with hud := congrArg (·.set button.name button) state.hud } rfl rfl
  | removeButton name =>
    cases name with
    | none => exact twin.change { state with hud := rfl } rfl rfl
    | some name => exact twin.change { state with hud := congrArg (·.erase name) state.hud } rfl rfl

/-- One command of the program does the same to twins. -/
theorem execute (twin : g.Twin files h) (ideal : Clock.Ideal τ)
    (noSaves : FileTree.NoSaves files.text?) (free : g.state.Free) {c : Command}
    (mem : c ∈ g.program.commands) (relayed : c.Relayed τ)
    (measured : (⟨g, c⟩ : Deed τ).LoadsMeasured) (measured' : (⟨h, c⟩ : Deed τ).LoadsMeasured) :
    Together (Twin files) (Action.execute c) (Action.execute c) g h := by
  by_cases loads : ∃ slot, c = .load slot
  · obtain ⟨slot, rfl⟩ := loads
    exact (twin.load noSaves measured measured').bind fun _ _ _ twin => Action.together_pure twin
  · exact twin.execute_other ideal free mem relayed fun slot same => loads ⟨slot, same⟩

/-! ## 4. Runs -/

section Runs

variable (ideal : Clock.Ideal τ) (noSaves : FileTree.NoSaves files.text?)
  (relayed : ∀ script program, files.Tells script program → ∀ c ∈ program.commands, c.Relayed τ)

include ideal noSaves relayed

theorem step (twin : g.Twin files h) (running : g.status = .running)
    (measured : ∀ c, g.program.commandAt? g.state.index = some c →
      (⟨g.ready, c⟩ : Deed τ).LoadsMeasured)
    (measured' : ∀ c, h.program.commandAt? h.state.index = some c →
      (⟨h.ready, c⟩ : Deed τ).LoadsMeasured) :
    Together (Twin files) Action.step Action.step g h := by
  have free : g.state.Free := by
    rw [Game.status, twin.left.menu] at running
    exact (State.free_of_running running).1
  have moved : g.ready.Twin files h.ready :=
    twin.still { twin.state with index := congrArg Ordinal.next twin.state.index } rfl rfl
  rw [← twin.program, ← twin.state.index] at measured'
  unfold Action.step
  rw [Action.together_get, ← twin.program, ← twin.state.index]
  refine (Action.together_bind_ok rfl rfl).mpr ?_
  split
  · next c found =>
    have mem : c ∈ g.program.commands := by
      unfold Program.commandAt? at found
      split at found
      · exact Array.mem_of_getElem? found
      · cases found
    exact moved.execute ideal noSaves { free with } mem (relayed _ _ twin.left.program c mem)
      (measured c found) (measured' c found)
  · exact .error rfl rfl moved

/-- A run does the same to twins. -/
theorem runAtMost (twin : g.Twin files h) (limit : Nat)
    (measured : ∀ d ∈ g.deeds limit, d.LoadsMeasured)
    (measured' : ∀ d ∈ h.deeds limit, d.LoadsMeasured) :
    Together (Twin files) (Action.runAtMost limit) (Action.runAtMost limit) g h := by
  induction limit generalizing g h with
  | zero => exact Action.together_fail twin
  | succ limit ih =>
    have read : ∀ k : Game τ, Action.status k = .ok k.status k := fun _ => rfl
    rw [Action.runAtMost, Action.together_bind_ok (read g) (read h), ← twin.status]
    refine .ite Iff.rfl (fun _ => Action.together_pure twin) fun running => ?_
    have running : g.status = .running := by simpa using running
    have running' : h.status = .running := twin.status ▸ running
    have first := twin.step ideal noSaves relayed running
      (fun c found => measured _ (Game.mem_deeds_first running found))
      fun c found => measured' _ (Game.mem_deeds_first running' found)
    exact first.bind_ok fun _ g' h' done done' twin => ih twin
      (fun d mem => measured d (Game.mem_deeds_later running done mem))
      fun d mem => measured' d (Game.mem_deeds_later running' done' mem)

end Runs

end Game.Twin

end VisualNovel
