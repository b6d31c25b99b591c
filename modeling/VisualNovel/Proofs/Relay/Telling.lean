import VisualNovel.Engine.Launch
import VisualNovel.Proofs.Engine.Audio
import VisualNovel.Proofs.Engine.Deeds
import VisualNovel.Proofs.Relay.Play

/-!
The runner tells every line once.

The runner looks at a game once a frame, while a frame does many commands. That it loses no line and
tells none twice rests on three facts: a command that says something stops the run at once, nothing
but the player takes a line away again, and at most one thing stands in the way, so that the runner
sees the line that it takes away.

`Game.untold` is what the player has not been told yet. A frame adds to it what its commands say
(`untold_frame`), and the runner tells it before it goes on (`untold_proceed`), so that the texts of a
play are what was untold before it and what its commands say (`told_once`).
-/

namespace VisualNovel

variable {τ : Type}

/-! ## 1. What is said -/

/-- What the player sees of what was said: the menu before it, the line, and the phone. -/
def Game.speech (g : Game τ) : Option Menu × Option Dialogue × Phone :=
  (g.menu, g.state.dialogue, g.state.phone)

/-- What the player has not been told yet: the newest message if it is unread, or the line that is
shown. A title menu stands for a new game, in which nothing was said. -/
def Game.untold (g : Game τ) : List Text :=
  if g.menu.any (·.kind = .title) then []
  else if g.state.phone.unread then g.state.phone.newest?.toList
  else (g.state.dialogue.map (·.line)).toList

namespace Deed

/-- The text that a command says: the line of its speaker, or its message, with the variables filled
in. -/
def line? (d : Deed τ) : Option Text :=
  let s := d.game.state
  match d.command with
  | .say speaker text =>
    some (Dialogue.spoken speaker (s.speaker? speaker) (interpolate s.vars text)).line
  | .phoneMessage side text =>
    some (PhoneMessage.line s.phone.contact { side, text := interpolate s.vars text })
  | _ => none

/-- What commands say, one after another. -/
def lines (deeds : List (Deed τ)) : List Text := deeds.filterMap line?

theorem lines_append (first rest : List (Deed τ)) :
    lines (first ++ rest) = lines first ++ lines rest := List.filterMap_append

/-- A command that goes on from a save, and finds one. -/
def Loads [Clock τ] (d : Deed τ) : Prop :=
  ∃ slot t, d.command = .load slot ∧ Action.load slot d.game = .ok true t

end Deed

theorem State.reverse_tells (s : State τ) (status : Status) :
    (s.tells status).reverse = s.tells status := by
  have one : ∀ text : Option Text, text.toList.reverse = text.toList := by
    intro text
    cases text <;> rfl
  cases status <;> first | exact one _ | rfl

theorem Boundary.texts_atStatus (texts : List Text) (s : State τ) (status : Status) :
    (Boundary.atStatus texts s status).texts = texts := by
  cases status <;> rfl

/-! ## 2. What stays said -/

/-- The passing of time changes neither the line nor the phone. -/
theorem State.passed_frame [Clock τ] (s : State τ) (now : τ) (voicePlaying : Bool) :
    ∃ sprites tracks wait notification blend, (s.expire now voicePlaying).moveSprites now =
      { s with sprites, tracks, wait, notification, blend } := by
  unfold expire
  extract_lets wait notification blend gone
  obtain ⟨sprites, tracks, same⟩ :=
    ({ s with wait, notification, blend } : State τ).removeSprites_frame gone
  rw [same]
  exact ⟨_, _, wait, notification, blend, rfl⟩

namespace Action

variable {α : Type} {Q : Option Menu × Option Dialogue × Phone → Prop} {g : Game τ}

/-- What holds of the speech of a game still holds when an action succeeds. -/
def Hushes (Q : Option Menu × Option Dialogue × Phone → Prop) (m : Action τ α) (g : Game τ) :
    Prop :=
  Keeps (fun t => Q t.speech) (fun _ => True) m g

namespace Hushes

theorem bind {β : Type} {m : Action τ α} {f : α → Action τ β} (first : Hushes Q m g)
    (second : ∀ a t, Q t.speech → Hushes Q (f a) t) : Hushes Q (m >>= f) g :=
  Keeps.bind first second

theorem ends_bind {β : Type} {m : Action τ α} {f : α → Action τ β} {R : β → Game τ → Prop}
    (first : Hushes Q m g)
    (second : ∀ a t, Q t.speech → Ends (f a) t R fun _ t => Q t.speech ∧ True) :
    Ends (m >>= f) g R fun _ t => Q t.speech ∧ True :=
  Ends.bind first second

theorem ite {c : Prop} [Decidable c] {m n : Action τ α} (yes : c → Hushes Q m g)
    (no : ¬ c → Hushes Q n g) : Hushes Q (if c then m else n) g := Keeps.ite yes no

end Hushes

section Small

variable (said : Q g.speech)

include said

theorem hushes_jump (target : Text) : Hushes Q (jump target) g := by
  unfold jump Hushes
  simp only
  rw [keeps_get]
  refine .ite (fun _ => .ite (fun _ => said) fun _ => said) fun _ => ?_
  split
  · exact said
  · exact ⟨said, trivial⟩

theorem hushes_choose (pick : Ordinal) : Hushes Q (choose pick) g := by
  unfold choose Hushes
  rw [keeps_state]
  split
  · split
    · exact ⟨said, trivial⟩
    · exact Hushes.bind (m := change _) said fun _ _ said => hushes_jump said _
  · refine .ite (fun _ => ?_) fun _ => ⟨said, trivial⟩
    split
    · exact ⟨said, trivial⟩
    · exact Hushes.bind (m := change _) said fun _ _ said => hushes_jump said _

theorem hushes_closeVideo : Hushes Q closeVideo g := by
  unfold Hushes Keeps Ends
  rw [closeVideo_eq]
  exact said

theorem hushes_scroll (delta : Float) : Hushes Q (scroll delta) g := said

theorem hushes_request (r : AssetRequest) : Hushes Q (request r) g := said

theorem hushes_log (level : LogLevel) (message : Text) : Hushes Q (log level message) g := said

theorem hushes_updateVideo : Hushes Q updateVideo g := by
  unfold updateVideo Hushes
  rw [keeps_get]
  split
  · next video player _ _ =>
    have looked : Hushes Q (watch player video.playback) g := said
    refine looked.bind fun _ t said => ?_
    refine Hushes.bind (m := change _) said fun _ u said => ?_
    exact .ite (fun _ => hushes_closeVideo said) fun _ => said
  · exact said

end Small

section Passing

variable [Clock τ] (said : Q g.speech)

include said

theorem hushes_checkTimeout : Hushes Q checkTimeout g := by
  unfold checkTimeout Hushes
  rw [keeps_get]
  split
  · split
    · exact said
    · refine .ite (fun _ => said) fun _ => ?_
      exact Hushes.bind (hushes_log said _ _) fun _ t said => hushes_choose said _
  · exact said

theorem hushes_passTime : Hushes Q passTime g := by
  have passed : Q ({ g with
      state := (g.state.expire g.now g.voicePlaying).moveSprites g.now } : Game τ).speech := by
    obtain ⟨_, _, _, _, _, same⟩ := g.state.passed_frame g.now g.voicePlaying
    rw [same]
    exact said
  unfold passTime Hushes
  rw [keeps_get, keeps_change_bind]
  refine (hushes_updateVideo passed).bind fun _ t said => ?_
  rw [Hushes, keeps_state]
  exact .ite (fun _ => said) fun _ => said

theorem hushes_settle (now : τ) : Hushes Q (settle now) g := by
  unfold settle Hushes
  rw [keeps_modify_bind]
  refine (hushes_checkTimeout (g := { g with now }) said).bind fun _ t said => ?_
  rw [Hushes, keeps_get]
  exact .ite (fun _ => said) fun _ => (hushes_passTime said).bind fun _ u said => said

end Passing

/-! ## 3. Commands that say nothing -/

section Commands

variable (said : Q g.speech)

include said

theorem hushes_showSprite (spec : SpriteSpec) : Hushes Q (showSprite spec) g := by
  unfold showSprite Hushes
  rw [keeps_get]
  cases spec.kind <;> exact said

theorem hushes_showCharacter (spec : CharacterShow) : Hushes Q (showCharacter spec) g := by
  unfold showCharacter Hushes
  rw [keeps_get]
  split
  · exact said
  · split <;> exact said

theorem hushes_hideSprite (name : Text) (spec : TransitionSpec) :
    Hushes Q (hideSprite name spec) g := by
  unfold hideSprite Hushes
  rw [keeps_get]
  refine .ite (fun _ => ?_) fun _ => said
  obtain ⟨_, _, same⟩ := g.state.hideSprite_frame name (Transition.ofSpec spec g.now)
  show Q (g.menu, (g.state.hideSprite name _).dialogue, (g.state.hideSprite name _).phone)
  rw [same]
  exact said

theorem hushes_animate (name : Text) (goal : AnimationGoal) (seconds : Float) (ease : Ease) :
    Hushes Q (animate name goal seconds ease) g := by
  unfold animate Hushes
  rw [keeps_get]
  split
  · exact said
  · next sprite _ =>
    obtain ⟨_, _, same⟩ := g.state.animate_frame name sprite goal seconds ease g.now
    show Q (g.menu, (g.state.animate name _ _ _ _ _).dialogue,
      (g.state.animate name _ _ _ _ _).phone)
    rw [same]
    exact said

theorem hushes_playVideo (path : Text) (loop : Bool) (fit : VideoFit) :
    Hushes Q (playVideo path loop fit) g := by
  unfold playVideo
  refine (hushes_closeVideo said).bind fun _ g said => ?_
  rw [Hushes, keeps_get]
  split
  · exact said
  · next player _ =>
    refine (hushes_request said _).bind fun _ t said => ?_
    have looked : ∀ playback, Hushes Q (watch player playback) t := fun _ => said
    refine (looked _).bind fun _ u said => ?_
    refine Hushes.bind (m := change _) said fun _ v said => ?_
    exact .ite (fun _ => hushes_closeVideo said) fun _ => said

theorem hushes_callScript (resolved label : Text) : Hushes Q (callScript resolved label) g := by
  unfold callScript Hushes
  rw [keeps_get, keeps_set_bind]
  refine Hushes.bind (m := logAll _) said fun _ t said => ?_
  split
  · exact ⟨said, trivial⟩
  · next edition _ =>
    rw [Hushes, keeps_modify_bind]
    obtain ⟨_, same⟩ := t.state.introduceAll_frame edition.program
    refine Hushes.bind (m := change _) ?_ fun _ u said => hushes_jump said label
    show Q (t.menu, (t.state.introduceAll _).dialogue, (t.state.introduceAll _).phone)
    rw [same]
    exact said

theorem hushes_savedProgram (script : Text) : Hushes Q (savedProgram script) g := by
  unfold savedProgram Hushes
  rw [keeps_get]
  refine .ite (fun _ => said) fun _ => ?_
  rw [keeps_set_bind]
  refine Hushes.bind (m := logAll _) said fun _ t said => ?_
  split
  · exact said
  · next fault _ =>
    have passed : Hushes Q (passOn fault) t := .ite (fun _ => ⟨said, trivial⟩) fun _ => said
    exact passed.bind fun _ _ said => said

end Commands

section Saving

variable [Clock τ] (said : Q g.speech)

include said

theorem hushes_save (slot : Option Text) : Hushes Q (save slot) g := by
  have path : Hushes Q (slotFile slot) g := said
  refine path.bind fun path g said => ?_
  have taken : Hushes Q snapshot g := said
  unfold saveTo
  refine taken.bind fun data g said => ?_
  rw [Hushes, keeps_get, keeps_set_bind]
  refine Hushes.bind (m := logAll _) said fun _ t said => ?_
  split
  · exact ⟨said, trivial⟩
  · exact said
  · exact said

/-- A load that comes to nothing takes nothing away. -/
theorem ends_load (slot : Option Text) :
    Ends (load slot) g (fun done t => done = false → Q t.speech) fun _ t => Q t.speech ∧ True := by
  have path : Hushes Q (slotFile slot) g := said
  refine path.ends_bind fun path g said => ?_
  unfold loadFrom
  rw [ends_bind, ends_get]
  split
  next data? logs _ =>
  have logged : Hushes Q (logAll logs) g := said
  refine logged.ends_bind fun _ g said => ?_
  split
  · exact fun _ => said
  · unfold restore
    rw [ends_bind, ends_get]
    refine (hushes_savedProgram said _).ends_bind fun found g said => ?_
    cases found with
    | none => exact fun _ => said
    | some program =>
      refine .ite (fun _ => fun _ => said) fun _ => ?_
      rw [ends_bind, Ends, resumeFrom_eq]
      intro undone
      cases undone

end Saving

/-- The player has nothing left to be told: no menu, no line, and no unread message. -/
def AllTold : Option Menu × Option Dialogue × Phone → Prop
  | (menu, line, phone) => menu = none ∧ line = none ∧ phone.unread = false

theorem hushes_clearCache (said : AllTold g.speech) (target : CacheTarget) :
    Hushes AllTold (clearCache target) g := by
  obtain ⟨menu, line, unread⟩ := said
  cases target with
  | images => exact ⟨menu, line, unread⟩
  | scripts => exact ⟨menu, line, unread⟩
  | script path =>
    unfold clearCache Hushes
    rw [keeps_get, keeps_modify_bind]
    exact .ite (fun _ => ⟨menu, rfl, unread⟩) fun _ => ⟨menu, line, unread⟩
  | stage =>
    refine Hushes.bind (m := modify _) ⟨menu, line, unread⟩ fun _ t said => ?_
    refine Hushes.bind (m := change _) said fun _ t said => ?_
    exact (hushes_closeVideo said).bind fun _ t said => ⟨said.1, rfl, said.2.2⟩

/-- A command that says nothing and does not load leaves nothing to be told. -/
theorem hushes_execute [Clock τ] (said : AllTold g.speech) {c : Command}
    (nothing : (Deed.mk g c).line? = none) (noLoad : ∀ slot, c ≠ .load slot) :
    Hushes AllTold (execute c) g := by
  unfold execute Hushes
  rw [keeps_get]
  cases c with
  | label name => exact said
  | say speaker text => cases nothing
  | jump target => exact hushes_jump said target
  | choice prompt options timeout timeoutDefault => exact said
  | scene kind value transition floating => exact .ite (fun _ => said) fun _ => said
  | «show» sprite => exact hushes_showSprite said sprite
  | showCharacter appearance => exact hushes_showCharacter said appearance
  | hide name transition => exact hushes_hideSprite said name transition
  | camera camera => exact said
  | animate name goal seconds ease => exact hushes_animate said name goal seconds ease
  | stopAnimation name => cases name <;> exact said
  | music channel path loop => exact said
  | sound channel path => exact said
  | echo path => exact said
  | stopEcho => exact said
  | voice character path => exact said
  | mute target =>
    refine Hushes.bind (hushes_request said _) fun _ t said => ?_
    refine .ite (fun _ => ?_) fun _ => .ite (fun _ => said) fun _ => said
    exact Hushes.bind (m := change _) said fun _ u said => .ite (fun _ => said) fun _ => said
  | preload kind path => exact said
  | clearCache target => exact hushes_clearCache said target
  | pin kind path => exact said
  | unpin kind path => exact said
  | collect => exact said
  | wait seconds => exact .ite (fun _ => said) fun _ => said
  | waitVoice => exact .ite (fun _ => said) fun _ => said
  | waitVideo => exact .ite (fun _ => said) fun _ => said
  | notify text seconds => exact said
  | blend style seconds => exact said
  | save slot => exact (hushes_save said slot).bind fun _ t said => said
  | load slot => exact absurd rfl (noLoad slot)
  | setVariable name value =>
    simp only
    split <;> exact said
  | addVariable name amount => exact said
  | jumpIf name op value target => exact .ite (fun _ => hushes_jump said target) fun _ => said
  | call path resolved label => exact hushes_callScript said resolved label
  | beginLoading text => exact said
  | endLoading => exact said
  | define character => exact said
  | input name prompt default => exact said
  | openPhone contact => exact ⟨said.1, said.2.1, rfl⟩
  | phoneMessage side text => cases nothing
  | closePhone => exact ⟨said.1, said.2.1, rfl⟩
  | showMeter name label min max color => exact said
  | hideMeter name => exact said
  | updateMeter name => exact said
  | clearMeters => exact said
  | addItem id name description icon amount =>
    refine Hushes.bind (m := change _) said fun _ t said => ?_
    exact (hushes_scroll said _).bind fun _ u said => said
  | removeItem id amount =>
    obtain ⟨_, same⟩ := g.state.takeItem_frame id amount
    have taken : AllTold ({ g with state := g.state.takeItem id amount } : Game τ).speech := by
      rw [same]
      exact said
    refine Hushes.bind (m := change _) taken fun _ t said => ?_
    exact (hushes_scroll said _).bind fun _ u said => said
  | clearItems =>
    refine Hushes.bind (m := change _) said fun _ t said => ?_
    exact (hushes_scroll said _).bind fun _ u said => said
  | showMap image => exact said
  | mapPoint title pos corners target => exact said
  | hideMap => exact said
  | playVideo path loop fit => exact hushes_playVideo said path loop fit
  | stopVideo => exact hushes_closeVideo said
  | hotspot name shape target => exact said
  | removeHotspot name => cases name <;> exact said
  | debugHotspots enabled => exact said
  | button button => exact .ite (fun _ => said) fun _ => said
  | removeButton name => cases name <;> exact said

end Action

/-! ## 4. Runs and frames -/

namespace Game

variable [Clock τ] {g t : Game τ}

omit [Clock τ] in
theorem untold_of_speech (same : t.speech = g.speech) : t.untold = g.untold := by
  simp only [speech, Prod.mk.injEq] at same
  unfold untold
  rw [same.1, same.2.1, same.2.2]

omit [Clock τ] in
theorem untold_of_allTold (h : Action.AllTold g.speech) : g.untold = [] := by
  obtain ⟨menu, line, unread⟩ := h
  unfold untold
  rw [menu, line, unread]
  rfl

omit [Clock τ] in
/-- In a game that is running nothing is left to be told. -/
theorem allTold_of_running (running : g.status = .running) : Action.AllTold g.speech := by
  obtain ⟨closed, runs⟩ := closed_of_running running
  have free := (State.free_of_running runs).1
  exact ⟨closed, free.dialogue, free.phone⟩

/-- After a message the player has to be told that message. -/
theorem ends_phoneMessage (closed : g.menu = none) (side : Side) (text : Text) :
    Ends (Action.execute (.phoneMessage side text)) g
      (fun _ t => t.untold = (Deed.mk g (.phoneMessage side text)).line?.toList)
      fun _ _ => True := by
  have rung : ∀ logs, ({ g with
      logs
      state := { g.state with
        phone := { g.state.phone with
          messages := g.state.phone.messages.push { side, text := interpolate g.state.vars text }
          unread := true } } } : Game τ).untold =
        (Deed.mk g (.phoneMessage side text)).line?.toList := by
    intro logs
    simp [untold, closed, Phone.newest?, Deed.line?]
  unfold Action.execute
  rw [ends_bind, ends_get]
  exact .ite (fun _ => rung _) fun _ => rung g.logs

/-- After a command the player has to be told what it says. -/
theorem untold_execute {c : Command} (said : Action.AllTold g.speech)
    (noLoad : ¬ (Deed.mk g c).Loads) (done : Action.execute c g = .ok () t) :
    t.untold = (Deed.mk g c).line?.toList := by
  have silent : (Deed.mk g c).line? = none → (∀ slot, c ≠ .load slot) →
      t.untold = (Deed.mk g c).line?.toList := by
    intro nothing noLoad
    rw [nothing]
    exact untold_of_allTold ((Action.hushes_execute said nothing noLoad).of_ok done)
  cases c with
  | say speaker text =>
    cases done
    simp [untold, said.1, said.2.2, Deed.line?]
  | phoneMessage side text => exact (ends_phoneMessage said.1 side text).of_ok done
  | load slot =>
    obtain ⟨loaded, u, load, rest⟩ := run_bind_eq_ok.mp (show
      (Action.load slot >>= fun _ => pure ()) g = .ok () t from done)
    cases rest
    cases loaded with
    | true => exact absurd ⟨slot, _, rfl, load⟩ noLoad
    | false => exact untold_of_allTold ((Action.ends_load said slot).of_ok load rfl)
  | _ => exact silent rfl nofun

/-- A run leaves to be told what its commands say, after what was left before it. -/
theorem untold_runAtMost {limit : Nat} {status : Status}
    (done : Action.runAtMost limit g = .ok status t)
    (noLoads : ∀ d ∈ g.deeds limit, ¬ d.Loads) :
    t.untold = g.untold ++ Deed.lines (g.deeds limit) := by
  induction limit generalizing g with
  | zero => cases done
  | succ limit ih =>
    have read : Action.status g = .ok g.status g := rfl
    rw [Action.runAtMost, run_bind_ok read] at done
    rw [deeds] at noLoads ⊢
    split at done
    · next waits =>
      cases done
      rw [if_pos waits]
      simp [Deed.lines]
    · next running =>
      have running := Decidable.not_not.mp running
      obtain ⟨_, u, stepped, done⟩ := run_bind_eq_ok.mp done
      rw [if_neg (not_not.mpr running), stepped] at noLoads ⊢
      rw [Action.step_eq] at stepped
      cases command : g.program.commandAt? g.state.index with
      | none =>
        rw [command] at stepped
        cases stepped
      | some c =>
        rw [command] at stepped noLoads
        have said : Action.AllTold g.ready.speech := allTold_of_running (g := g) running
        have first := untold_execute said (noLoads _ List.mem_cons_self) stepped
        have rest := ih done fun d mem => noLoads d (List.mem_cons_of_mem _ mem)
        rw [rest, first, untold_of_allTold (allTold_of_running running)]
        cases told : (Deed.mk g.ready c).line? <;> simp [Deed.lines, told]

/-- A frame leaves to be told what its commands say, after what was left before it. -/
theorem untold_frame {now : τ} {status : Status} (done : Action.frame [] now g = .ok status t)
    (noLoads : ∀ d ∈ g.frameDeeds now, ¬ d.Loads) :
    t.untold = g.untold ++ Deed.lines (g.frameDeeds now) := by
  rw [Action.frame_nil] at done
  obtain ⟨runs, u, settled, done⟩ := run_bind_eq_ok.mp done
  have same : u.speech = g.speech :=
    (Action.hushes_settle (Q := (· = g.speech)) rfl now).of_ok settled
  unfold frameDeeds at noLoads ⊢
  rw [settled] at noLoads ⊢
  rw [← untold_of_speech same]
  cases runs with
  | true => exact untold_runAtMost done noLoads
  | false =>
    cases done
    simp [Deed.lines]

end Game

/-! ## 5. The runner -/

/-- A state in which something else is in the way has neither a line nor an unread message. -/
theorem State.Orderly.unspoken {s : State τ} (h : s.Orderly)
    (other : s.map.active = true ∨ s.choice.isSome = true ∨ s.question.isSome = true ∨
      s.wait.isSome = true) : s.phone.unread = false ∧ s.dialogue = none := by
  have single := h.single
  unfold blockers at single
  rw [← Option.not_isSome_iff_eq_none]
  grind

/-- A state with an unread message has no line. -/
theorem State.Orderly.dialogue_eq_none {s : State τ} (h : s.Orderly)
    (unread : s.phone.unread = true) : s.dialogue = none := by
  have single := h.single
  unfold blockers at single
  rw [← Option.not_isSome_iff_eq_none]
  grind

namespace Game

variable [Clock τ] {g t : Game τ}

omit [Clock τ] in
/-- The status shows what is left to be told. -/
theorem untold_eq_tells (orderly : g.state.Orderly) (closed : g.menu = none) :
    g.untold = g.state.tells g.status := by
  have quiet : g.state.phone.unread = false ∧ g.state.dialogue = none → g.untold = [] :=
    fun said => untold_of_allTold ⟨closed, said.2, said.1⟩
  unfold Game.status Status.ofState
  rw [closed]
  simp only
  split
  · next active => exact quiet (orderly.unspoken (.inl active))
  split
  · next pending => exact quiet (orderly.unspoken (.inr (.inl pending)))
  split
  · next asked => exact quiet (orderly.unspoken (.inr (.inr (.inl asked))))
  split
  · next unread => simp [untold, closed, unread, State.tells]
  next read =>
  split
  · next wait waits =>
    have said := quiet (orderly.unspoken (.inr (.inr (.inr (by rw [waits]; rfl)))))
    cases wait <;> exact said
  split
  · next shown => simp [untold, closed, read, State.tells]
  · next hidden =>
    have said := quiet ⟨by simpa using read, by simpa using hidden⟩
    split <;> exact said

omit [Clock τ] in
/-- When a line or a message is dismissed nothing is left to be told. -/
theorem untold_advance {dismissed : Bool} (orderly : g.state.Orderly) (closed : g.menu = none)
    (done : Action.advance g = .ok dismissed t) : t.untold = [] := by
  have left : t = { g with state := g.state.dismiss.2 } := by
    cases done
    rfl
  subst left
  unfold State.dismiss
  split
  · next unread => exact untold_of_allTold ⟨closed, orderly.dialogue_eq_none unread, rfl⟩
  · next read =>
    split
    · exact untold_of_allTold ⟨closed, rfl, by simpa using read⟩
    · next hidden => exact untold_of_allTold ⟨closed, hidden, by simpa using read⟩

omit [Clock τ] in
/-- A new game has nothing to tell. -/
theorem untold_restart (done : Action.restart g = .ok () t) : t.untold = [] := by
  rw [Action.restart, run_bind_ok (Action.closeVideo_eq g)] at done
  cases done
  obtain ⟨_, fresh⟩ := ({} : State τ).introduceAll_frame g.entry
  refine untold_of_allTold (show Action.AllTold (none,
    (({} : State τ).introduceAll g.entry).dialogue,
    (({} : State τ).introduceAll g.entry).phone) from ?_)
  rw [fresh]
  exact ⟨rfl, rfl, rfl⟩

/-- The runner tells what there is to be told before it goes on, and stops only where there is
nothing. -/
theorem untold_proceed {now : τ} {next : Option τ} (orderly : g.state.Orderly)
    (done : Action.proceed now g.state g.status g = .ok next t) :
    g.untold = if next.isSome then g.state.tells g.status ++ t.untold else [] := by
  cases opened : g.menu with
  | some menu =>
    cases kind : menu.kind with
    | title =>
      have status : g.status = .titleMenu := by simp [Game.status, opened, Status.ofMenu, kind]
      have silent : g.untold = [] := by simp [untold, opened, kind]
      rw [status] at done ⊢
      obtain ⟨_, u, restarted, done⟩ := run_bind_eq_ok.mp done
      cases done
      rw [Action.takeMenuAction_newGame opened] at restarted
      rw [silent, untold_restart restarted]
      rfl
    | pause =>
      have status : g.status = .pauseMenu := by simp [Game.status, opened, Status.ofMenu, kind]
      rw [status] at done ⊢
      cases done
      simp [untold, opened, kind, State.tells]
  | none =>
    have told := untold_eq_tells orderly opened
    have status : g.status = Status.ofState g.state g.program.commands.size := by
      unfold Game.status
      rw [opened]
    have dismissed : (do
          let _ ← Action.advance
          return some now : Action τ (Option τ)) g = .ok next t →
        g.untold = if next.isSome then g.state.tells g.status ++ t.untold else [] := by
      intro done
      obtain ⟨_, u, gone, done⟩ := run_bind_eq_ok.mp done
      cases done
      rw [untold_advance orderly opened gone]
      simpa using told
    rcases Status.ofState_cases g.state g.program.commands.size with ⟨same, -⟩ | ⟨same, -⟩ |
      ⟨same, -⟩ | ⟨same, -, -⟩ | ⟨wait, same, -, -⟩ | ⟨same | same | same, -, -⟩ <;>
      rw [status, same] at done told
    · cases done
      exact told
    · cases done
      exact told
    · cases done
      exact told
    · exact dismissed done
    · rw [status, same]
      cases wait <;> cases done <;> simp [told, State.tells, Status.ofWait]
    · exact dismissed done
    · cases done
      exact told
    · rw [status, same]
      cases done
      simp [told, State.tells]

/-- What the runner does between frames is a chain of changes. -/
theorem Changes.proceed {given : Snapshot τ → Prop} {g₀ : Game τ} (h : g₀.Changes given g) (now : τ)
    (s : State τ) (status : Status) :
    Action.Follows given g₀ (Action.proceed now s status) g := by
  cases status with
  | titleMenu => exact (h.takeMenuAction _).bind fun _ _ h => h
  | pauseMenu => exact (h.setMenu _).bind fun _ _ h => h
  | dialogue => exact h.advance.bind fun _ _ h => h
  | phone => exact h.advance.bind fun _ _ h => h
  | _ => exact h

/-- The texts of a play: those before it, what was left to be told, and what its commands say. -/
theorem texts_of_playAtMost {original : Text → Option Text} (noSaves : FileTree.NoSaves original)
    {limit : Nat} {now : τ} {said : List Text} {b : Boundary} (orderly : g.Orderly original)
    (stopped : Action.playAtMost limit now said g = .ok b t)
    (noLoads : ∀ d ∈ g.playDeeds limit now, ¬ d.Loads) :
    b.texts = said.reverse ++ g.untold ++ Deed.lines (g.playDeeds limit now) := by
  have keep : ∀ g t : Game τ, Game.Change (fun _ => False) g t → g.Orderly original →
      t.Orderly original :=
    fun g t change => change.orderly noSaves fun _ given => given.elim
  induction limit generalizing g now said with
  | zero => cases stopped
  | succ limit ih =>
    rw [Action.playAtMost_succ] at stopped
    obtain ⟨status, u, framed, stopped⟩ := run_bind_eq_ok.mp stopped
    obtain ⟨_, _, same, stopped⟩ := run_bind_eq_ok.mp stopped
    cases same
    obtain ⟨next, v, gone, stopped⟩ := run_bind_eq_ok.mp stopped
    obtain rfl := Action.status_of_frame framed
    have orderly := ((Changes.frame .refl [] now).keeps keep orderly).of_ok framed
    have later := ((Changes.proceed .refl now u.state u.status).keeps keep orderly).of_ok gone
    rw [playDeeds, framed] at noLoads ⊢
    simp only [gone] at noLoads ⊢
    have told := untold_frame framed fun d mem => noLoads d (List.mem_append_left _ mem)
    have before := untold_proceed orderly.state gone
    cases next with
    | none =>
      cases stopped
      have nothing : u.untold = [] := before
      rw [Boundary.texts_atStatus]
      simp [← told, nothing]
    | some next =>
      have rest := ih later stopped fun d mem => noLoads d (List.mem_append_right _ mem)
      have before : u.untold = u.state.tells u.status ++ v.untold := before
      calc b.texts
        _ = said.reverse ++ (u.state.tells u.status ++ v.untold) ++
            Deed.lines (v.playDeeds limit next) := by
          rw [rest, List.reverse_append, State.reverse_tells]
          simp
        _ = said.reverse ++ (g.untold ++ Deed.lines (g.frameDeeds now)) ++
            Deed.lines (v.playDeeds limit next) := by rw [← before, told]
        _ = said.reverse ++ g.untold ++
            Deed.lines (g.frameDeeds now ++ v.playDeeds limit next) := by
          simp [Deed.lines_append]

end Game

/-! ## 6. Games that are reached -/

section Reached

variable [Clock τ]

/-- The games that are reached by playing: a new game, among files without saves or among those that
such a game leaves, and the game after an operation. The snapshots that are handed over are those of
games that are reached, of this session or another. -/
inductive Game.Reached : Game τ → Prop where
  | start {setup : Setup τ} {library : Library} {files : FileTree} {program : Program}
      {logs : Array LogRecord} (noSaves : FileTree.NoSaves files.text?) :
      Reached { Game.start setup library files program with logs }
  | again {setup : Setup τ} {library : Library} {program : Program} {logs : Array LogRecord}
      {h : Game τ} (left : Reached h) :
      Reached { Game.start setup library h.files program with logs }
  | act {g : Game τ} {op : Operation τ} (before : Reached g)
      (other : ∀ data, op ≠ .restore data) : Reached (op.after g)
  | restore {g h : Game τ} (before : Reached g) (saved : Reached h) :
      Reached ((Operation.restore h.snapshot).after g)

/-- The games that are reached are orderly, and so are the saves that they leave. -/
theorem Game.Reached.orderly {g : Game τ} (reached : g.Reached) :
    ∃ original, FileTree.NoSaves original ∧ g.Orderly original := by
  induction reached with
  | @start _ _ files program _ noSaves =>
    exact ⟨_, noSaves, State.orderly_start program, files.within_text?.saves _⟩
  | @again _ _ program _ h _ ih =>
    obtain ⟨original, noSaves, orderly⟩ := ih
    exact ⟨original, noSaves, State.orderly_start program, orderly.files⟩
  | @act g op _ other ih =>
    obtain ⟨original, noSaves, orderly⟩ := ih
    refine ⟨original, noSaves, (op.changes_after g).keep (fun g t change => ?_) orderly⟩
    exact change.orderly noSaves fun data hands => absurd hands (other data)
  | @restore g h _ _ ih saved =>
    obtain ⟨original, noSaves, orderly⟩ := ih
    obtain ⟨_, _, good⟩ := saved
    refine ⟨original, noSaves, (Operation.changes_after _ g).keep (fun g t change => ?_) orderly⟩
    refine change.orderly noSaves fun data hands => ?_
    cases hands
    exact good.snapshot

/-- Going on from the snapshot of a game that is reached leads to another one. -/
theorem Game.Reached.resume {g h t : Game τ} (reached : g.Reached) (saved : h.Reached)
    (done : Action.resume h.snapshot g = .ok () t) : t.Reached := by
  obtain ⟨went, u, restored, closed⟩ := run_bind_eq_ok.mp done
  have left : (Operation.restore h.snapshot).after g = u := by
    have done : (Operation.restore h.snapshot).action g = .ok () u :=
      run_bind_eq_ok.mpr ⟨went, u, restored, rfl⟩
    rw [Operation.after, done]
  have goesOn : u.Reached := left ▸ reached.restore saved
  cases went with
  | false => cases closed
  | true =>
    cases closed
    have shut : ((Operation.setMenu none).after u).Reached := goesOn.act fun _ => nofun
    exact shut

/-- A launch from the snapshot of a game that is reached, among the files that such a game leaves,
leads to a game that is reached. -/
theorem Launch.reached_of_resume {launch : Launch τ} {g h t : Game τ} (left : g.Reached)
    (files : launch.files = g.files) (saved : h.Reached)
    (resumed : launch.resume h.snapshot = .done () t) : t.Reached := by
  unfold Launch.resume Launch.after at resumed
  split at resumed
  · cases resumed
  · simp only at resumed
    split at resumed
    · next done =>
      cases resumed
      rw [files] at done
      exact (Game.Reached.again left).resume saved done
    · cases resumed

end Reached

/-- The runner tells every line once, and in order. What it gives for a game that is reached is the
line or message that waits there, unless a title menu is open, and then what each command that is
done on the way says. Only a load that succeeds could take a line away or bring one back. -/
theorem told_once [Clock τ] {g t : Game τ} (reached : g.Reached) {b : Boundary}
    (stopped : Action.playToBoundary g = .ok b t)
    (noLoads : ∀ d ∈ g.playDeeds runnerLimit g.now, ¬ d.Loads) :
    b.texts = g.untold ++ Deed.lines (g.playDeeds runnerLimit g.now) := by
  obtain ⟨_, noSaves, orderly⟩ := reached.orderly
  have read : (get : Action τ (Game τ)) g = .ok g g := rfl
  rw [Action.playToBoundary, run_bind_ok read] at stopped
  rw [Game.texts_of_playAtMost noSaves orderly stopped noLoads]
  simp

/-- A line, a pause, messages on the phone, and a call of another script. -/
def phoneStory : Program :=
  { script := "/game/main.vn"
    commands := #[
      .say none "Night falls.",
      .notify "A new message" none,
      .wait 1.5,
      .openPhone "Ana",
      .phoneMessage .left "Are you there?",
      .phoneMessage .right "Yes.",
      .closePhone,
      .call "side.vn" "/game/side.vn" "door"]
    labels := {} }

/-- The script that is called. -/
def doorSource : Text :=
  "\"Nobody hears this.\"; label door: set knocks 2; \"$knocks knocks.\"; ana \"Open up!\";
    ask \"Open?\" \"Yes\" -> door \"No\" -> door;"

def phoneFiles : FileTree := ⟨⟨[("/game/side.vn", .file doorSource)]⟩⟩

/-- A game of the story in which the first line is shown. -/
def phoneGame : Game Float := Operation.run.after (gameIn phoneFiles phoneStory)

/-- All lines are told, the one that waits, those of the phone and those of the called script, up to
its choice. -/
theorem told_once_on_phone :
    ∃ b t, Action.playToBoundary phoneGame = .ok b t ∧ phoneGame.untold = ["Night falls."] ∧
      b.texts = ["Night falls.", "[phone] Ana: Are you there?", "[phone] me: Yes.", "2 knocks.",
        "ana: Open up!"] := by
  have noSaves : FileTree.NoSaves phoneFiles.text? :=
    FileTree.noSaves_text? (by decide +kernel)
  have reached : phoneGame.Reached := .act (.start noSaves) fun _ => nofun
  obtain ⟨b, t, stopped, -⟩ := exists_run (m := Action.playToBoundary) (s := phoneGame)
    (f := fun _ _ => ()) (b := ()) (by decide +kernel)
  have noLoads : ∀ d ∈ phoneGame.playDeeds runnerLimit phoneGame.now, ¬ d.Loads := by
    have others : (phoneGame.playDeeds runnerLimit phoneGame.now).all (!·.command.isLoad) = true := by
      decide +kernel
    rintro d mem ⟨slot, u, same, -⟩
    have other := List.all_eq_true.mp others d mem
    rw [same] at other
    cases other
  refine ⟨b, t, stopped, by decide +kernel, ?_⟩
  rw [told_once reached stopped noLoads]
  decide +kernel

end VisualNovel
