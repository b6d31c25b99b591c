import VisualNovel.Engine.Boundary
import VisualNovel.Proofs.Engine.Blockers
import VisualNovel.Proofs.Engine.Frame
import VisualNovel.Proofs.Relay.Commands

/-!
Twins are played alike.

The runner plays one frame after another, and chooses the moments of the frames by what the game waits
for. On twins it finds the same in the way at every frame, so that it does the same to both, although
the moments are not the same (`Twin.playAtMost`). What it needs of the moments is that they are in
step: a choice was offered just now, and a timer is over in one game exactly if it is over in the
other. So every decision of the player leads twins to the same boundary (`Twin.decide`), if the sprites
of the saves that are loaded on the way have the numbers that they need.
-/

namespace VisualNovel

variable {τ : Type}

/-! ## 1. What stands in the way -/

/-- What the status of a state says about it. -/
theorem Status.ofState_cases (s : State τ) (length : Nat) :
    (ofState s length = .mapOverlay ∧ s.map.active = true) ∨
    (ofState s length = .waitingChoice ∧ s.choice.isSome = true) ∨
    (ofState s length = .waitingInput ∧ s.question.isSome = true) ∨
    (ofState s length = .phone ∧ s.phone.unread = true ∧ s.choice = none) ∨
    (∃ wait, ofState s length = ofWait wait ∧ s.wait = some wait ∧ s.choice = none) ∨
    ((ofState s length = .dialogue ∨ ofState s length = .ended ∨ ofState s length = .running) ∧
      s.wait = none ∧ s.choice = none) := by
  unfold ofState
  split
  · next active => exact .inl ⟨rfl, active⟩
  split
  · next pending => exact .inr (.inl ⟨rfl, pending⟩)
  next free =>
  have free : s.choice = none := by simpa using free
  split
  · next asked => exact .inr (.inr (.inl ⟨rfl, asked⟩))
  split
  · next unread => exact .inr (.inr (.inr (.inl ⟨rfl, unread, free⟩)))
  split
  · next wait waits => exact .inr (.inr (.inr (.inr (.inl ⟨wait, rfl, waits, free⟩))))
  next waits =>
  refine .inr (.inr (.inr (.inr (.inr ⟨?_, waits, free⟩))))
  split
  · exact .inl rfl
  split
  · exact .inr (.inl rfl)
  · exact .inr (.inr rfl)

namespace State.Orderly

variable {s : State τ}

/-- A state that needs the player does not wait by itself. -/
theorem wait_eq_none (h : s.Orderly)
    (overlaid : s.map.active = true ∨ s.choice.isSome = true ∨ s.question.isSome = true ∨
      s.phone.unread = true) : s.wait = none := by
  rw [← Option.not_isSome_iff_eq_none]
  intro waits
  have single := h.single
  simp only [blockers, waits] at single
  grind

theorem choice_eq_none (h : s.Orderly) (asked : s.question.isSome = true) : s.choice = none := by
  rw [← Option.not_isSome_iff_eq_none]
  intro pending
  have single := h.single
  simp only [blockers, asked, pending] at single
  grind

end State.Orderly

/-! ## 2. Frames -/

variable [Clock τ]

/-- Whether a wait ends by itself at a moment. -/
def Wait.isOver (now : τ) : Wait τ → Bool
  | .timer due => Clock.reached now due
  | _ => false

theorem Wait.filter_timer (now due : τ) :
    (some (Wait.timer due)).filter (!·.isOver now) =
      if Clock.reached now due then none else some (.timer due) := by
  cases reached : Clock.reached now due <;> simp only [Option.filter, isOver, reached] <;> rfl

namespace State

/-- The passing of time ends timers, and otherwise changes what a story does not look at. -/
theorem passing_frame (s : State τ) (now : τ)
    (timers : ∀ wait ∈ s.wait, ∃ due, wait = .timer due) :
    ∃ sprites tracks notification blend, (s.expire now false).moveSprites now =
      { s with sprites, tracks, notification, blend, wait := s.wait.filter (!·.isOver now) } := by
  unfold expire
  extract_lets wait notification blend gone
  obtain ⟨sprites, tracks, same⟩ :=
    ({ s with wait, notification, blend } : State τ).removeSprites_frame gone
  have ended : wait = s.wait.filter (!·.isOver now) := by
    unfold wait
    cases waits : s.wait with
    | none => rfl
    | some w =>
      obtain ⟨due, rfl⟩ := timers w waits
      rw [Wait.filter_timer]
  rw [same, ended]
  exact ⟨_, _, notification, blend, rfl⟩

end State

/-- Two games are in step at two moments: a choice was offered just then, and timers are over in both
or in none. -/
structure Game.InStep (g h : Game τ) (now now' : τ) : Prop where
  left : ∀ c ∈ g.state.choice, Clock.sub now c.started = Clock.zero
  right : ∀ c ∈ h.state.choice, Clock.sub now' c.started = Clock.zero
  timers : ∀ due due', g.state.wait = some (.timer due) → h.state.wait = some (.timer due') →
    Clock.reached now due = Clock.reached now' due'

namespace Game

open VisualNovel.Action (Together)

variable {files : FileTree} {g h : Game τ}

/-- Games without a choice and a wait are in step at all moments. -/
theorem InStep.of_none (left : g.state.choice = none) (right : h.state.choice = none)
    (wait : g.state.wait = none) (now now' : τ) : g.InStep h now now' := by
  refine ⟨?_, ?_, ?_⟩
  · simp [left]
  · simp [right]
  · simp [wait]

/-- There is time left for a choice that was offered just now. -/
theorem Quiet.checkTimeout (quiet : g.Quiet files) : Action.checkTimeout g = .ok () g := by
  refine Action.checkTimeout_of_time fun c timeout pending _ limit => ?_
  have fresh := quiet.choice c pending
  rw [fresh.began]
  exact fresh.time timeout limit

/-- A quiet game has nothing to do when time has passed. -/
theorem Quiet.settled (quiet : g.Quiet files) :
    (do
      Action.updateVideo
      let s ← Action.state
      if s.wait.any (fun wait => Status.ofWait wait = Status.waitingVideo) && s.video.isNone then
        Action.change fun s => { s with wait := none }) g = .ok () g := by
  have unseen : Action.updateVideo g = .ok () g := by
    have read : (get : Action τ (Game τ)) g = .ok g g := rfl
    rw [Action.updateVideo, run_bind_ok read, quiet.video]
    rfl
  have read : Action.state g = .ok g.state g := rfl
  have other : g.state.wait.any (fun wait => Status.ofWait wait = Status.waitingVideo) = false := by
    cases waits : g.state.wait with
    | none => rfl
    | some w =>
      obtain ⟨due, rfl⟩ := quiet.wait w waits
      rfl
  rw [run_bind_ok unseen, run_bind_ok read, other]
  rfl

theorem Quiet.passed (quiet : g.Quiet files) {sprites : Table (Sprite τ)}
    {tracks : Table (Tracks τ)} {notification : Option (Notification τ)} {blend : Option (Blend τ)} :
    ({ g with
        state := { g.state with
          sprites, tracks, notification, blend, wait := g.state.wait.filter (!·.isOver g.now) } } :
      Game τ).Quiet files :=
  { quiet with wait := fun wait stays => quiet.wait wait (Option.filter_eq_some_iff.mp stays).1 }

/-- Time passes without a video. -/
theorem Quiet.passTime (quiet : g.Quiet files) :
    ∃ sprites tracks notification blend, Action.passTime g =
      .ok () { g with
        state := { g.state with
          sprites, tracks, notification, blend, wait := g.state.wait.filter (!·.isOver g.now) } } := by
  obtain ⟨sprites, tracks, notification, blend, same⟩ :=
    g.state.passing_frame g.now quiet.wait
  refine ⟨sprites, tracks, notification, blend, ?_⟩
  have read : (get : Action τ (Game τ)) g = .ok g g := rfl
  have silent : g.state.expire g.now g.voicePlaying = g.state.expire g.now false := by
    rw [quiet.silent]
  have passed : Action.change (fun s => (s.expire g.now g.voicePlaying).moveSprites g.now) g =
      .ok () { g with
        state := { g.state with
          sprites, tracks, notification, blend, wait := g.state.wait.filter (!·.isOver g.now) } } := by
    rw [← same, ← silent]
    rfl
  rw [Action.passTime, run_bind_ok read, run_bind_ok passed]
  exact quiet.passed.settled

/-- Time passes for twins that are in step. -/
theorem Twin.passTime (twin : g.Twin files h) (inStep : g.InStep h g.now h.now) :
    Together (Twin files) Action.passTime Action.passTime g h := by
  obtain ⟨sprites, tracks, notification, blend, left⟩ := twin.left.passTime
  obtain ⟨sprites', tracks', notification', blend', right⟩ := twin.right.passTime
  refine .ok left right
    { twin with state := ?_, left := twin.left.passed, right := twin.right.passed }
  refine { twin.state with wait := ?_ }
  rcases twin.wait_cases with ⟨none, none'⟩ | ⟨due, due', timer, timer'⟩
  · rw [none, none']
    rfl
  · rw [timer, timer']
    simp only [Wait.filter_timer, inStep.timers due due' timer timer']
    split <;> rfl

theorem Twin.overlaid (twin : g.Twin files h) : g.state.isOverlaid = h.state.isOverlaid := by
  unfold State.isOverlaid
  rw [twin.state.map, twin.choosing, twin.state.question, twin.state.phone]

theorem Quiet.setNow (quiet : g.Quiet files) {now : τ}
    (fresh : ∀ c ∈ g.state.choice, Clock.sub now c.started = Clock.zero) :
    ({ g with now } : Game τ).Quiet files :=
  { quiet with choice := fun c pending => ⟨fresh c pending, (quiet.choice c pending).time⟩ }

/-- Time passes alike for twins, at moments at which they are in step. -/
theorem Twin.settle (twin : g.Twin files h) {now now' : τ} (inStep : g.InStep h now now') :
    Together (Twin files) (Action.settle now) (Action.settle now') g h := by
  have set : ({ g with now } : Game τ).Twin files { h with now := now' } :=
    { twin with
      left := twin.left.setNow inStep.left
      right := twin.right.setNow inStep.right }
  have inStep : ({ g with now } : Game τ).InStep { h with now := now' } now now' := { inStep with }
  unfold Action.settle
  refine (Action.together_bind_ok rfl rfl).mpr ?_
  rw [Action.together_bind_ok set.left.checkTimeout set.right.checkTimeout, Action.together_get]
  have same := set.overlaid
  refine .ite (by rw [set.left.menu, set.right.menu, same]) (fun _ => Action.together_pure set)
    fun _ => ?_
  exact (set.passTime inStep).bind fun _ _ _ twin => Action.together_pure twin

section Frames

variable (ideal : Clock.Ideal τ) (noSaves : FileTree.NoSaves files.text?)
  (relayed : ∀ script program, files.Tells script program → ∀ c ∈ program.commands, c.Relayed τ)

include ideal noSaves relayed

/-- A frame without events, at moments at which the games are in step. -/
theorem Twin.frame (twin : g.Twin files h) {now now' : τ} (inStep : g.InStep h now now')
    (measured : ∀ d ∈ g.frameDeeds now, d.LoadsMeasured)
    (measured' : ∀ d ∈ h.frameDeeds now', d.LoadsMeasured) :
    Together (Twin files) (Action.frame [] now) (Action.frame [] now') g h := by
  rw [Action.frame_nil, Action.frame_nil]
  refine (twin.settle inStep).bind_ok fun runs g' h' settled settled' twin => ?_
  cases runs with
  | true =>
    exact twin.runAtMost ideal noSaves relayed _ (fun d mem => measured d (mem_frameDeeds settled mem))
      fun d mem => measured' d (mem_frameDeeds settled' mem)
  | false =>
    have read : ∀ k : Game τ, Action.status k = .ok k.status k := fun _ => rfl
    exact .ok (read g') (twin.status ▸ read h') twin

end Frames
end Game

/-! ## 3. Playing to a boundary -/

namespace Action

variable {α : Type} {P : Game τ → Prop} {R : Game τ → Game τ → Prop} {F G : Failure → Prop}
  {given : Snapshot τ → Prop} {g₀ g h : Game τ}

/-- What every change keeps is kept by an action that follows them. -/
theorem Follows.keeps {m : Action τ α} (follows : Follows given g₀ m g)
    (step : ∀ g t, Game.Change given g t → P g → P t) (first : P g₀) :
    Keeps P (fun _ => True) m g :=
  Keeps.mono follows (fun _ chain => chain.keep step first) fun _ _ => trivial

omit [Clock τ] in
/-- What each of two actions keeps holds of the games they leave. -/
theorem Together.keeping {m n : Action τ α} (both : Together R m n g h) (left : Keeps P F m g)
    (right : Keeps P G n h) : Together (fun g h => R g h ∧ P g ∧ P h) m n g h := by
  unfold Keeps Ends at left right
  rcases both with ⟨a, g', h', hm, hn, related⟩ | ⟨e, g', h', hm, hn, related⟩
  · rw [hm] at left
    rw [hn] at right
    exact .ok hm hn ⟨related, left, right⟩
  · rw [hm] at left
    rw [hn] at right
    exact .error hm hn ⟨related, left.1, right.1⟩

/-- A run says what the game waits for. -/
theorem status_of_runAtMost {limit : Nat} {status : Status} {t : Game τ}
    (h : runAtMost limit g = .ok status t) : status = t.status := by
  induction limit generalizing g with
  | zero => cases h
  | succ limit ih =>
    have read : Action.status g = .ok g.status g := rfl
    rw [runAtMost, run_bind_ok read] at h
    split at h
    · cases h
      rfl
    · obtain ⟨_, u, _, h⟩ := run_bind_eq_ok.mp h
      exact ih h

/-- A frame says what the game waits for. -/
theorem status_of_frame {events : List Event} {now : τ} {status : Status} {t : Game τ}
    (h : frame events now g = .ok status t) : status = t.status := by
  unfold frame at h
  obtain ⟨_, _, _, h⟩ := run_bind_eq_ok.mp h
  obtain ⟨_, _, _, h⟩ := run_bind_eq_ok.mp h
  obtain ⟨_, u, _, h⟩ := run_bind_eq_ok.mp h
  obtain ⟨_, v, same, h⟩ := run_bind_eq_ok.mp h
  cases same
  split at h
  · cases h
    rfl
  · obtain ⟨_, _, _, h⟩ := run_bind_eq_ok.mp h
    exact status_of_runAtMost h

end Action

/-- The runner is a chain of changes. -/
theorem Game.Changes.playAtMost {given : Snapshot τ → Prop} {g₀ g : Game τ}
    (h : g₀.Changes given g) (limit : Nat) (now : τ) (said : List Text) :
    Action.Follows given g₀ (Action.playAtMost limit now said) g := by
  induction limit generalizing g now said with
  | zero => exact h.fail nofun
  | succ limit ih =>
    unfold Action.playAtMost
    refine (h.frame [] now).bind fun status t h => ?_
    rw [Action.keeps_state]
    cases status with
    | titleMenu => exact (h.takeMenuAction _).bind fun _ _ h => ih h _ _
    | pauseMenu => exact (h.setMenu _).bind fun _ _ h => ih h _ _
    | dialogue => exact h.advance.bind fun _ _ h => ih h _ _
    | phone => exact h.advance.bind fun _ _ h => ih h _ _
    | waitingTimer => exact ih h _ _
    | waitingVoice => exact ih h _ _
    | waitingVideo => exact ih h _ _
    | running => exact ih h _ _
    | waitingChoice => exact h
    | mapOverlay => exact h
    | waitingInput => exact h
    | ended => exact h

/-- The same without a bound in sight. -/
theorem Game.Changes.playToBoundary {given : Snapshot τ → Prop} {g₀ g : Game τ}
    (h : g₀.Changes given g) : Action.Follows given g₀ Action.playToBoundary g := by
  unfold Action.playToBoundary Action.Follows
  rw [Action.keeps_get]
  generalize runnerLimit = limit
  exact h.playAtMost limit g.now []

namespace Game

open VisualNovel.Action (Together)

variable {files : FileTree} {g h : Game τ}

omit [Clock τ] in
/-- What is dismissed is not what is waited for. -/
theorem watched_dismiss (s : State τ) : s.dismiss.2.watched = s.watched := by
  unfold State.dismiss
  split
  · rfl
  · split <;> rfl

/-- Twins offer the same at a boundary. -/
theorem Twin.atChoice (twin : g.Twin files h) (texts : List Text) :
    Boundary.atChoice texts g.state.choice = Boundary.atChoice texts h.state.choice := by
  rcases twin.state.choice_cases with ⟨none, none'⟩ | ⟨c, d, pending, pending', same⟩
  · rw [none, none']
  · have prompt : c.prompt = d.prompt := congrArg (·.1) same
    have options : c.options = d.options := congrArg (·.2.1) same
    simp only [Boundary.atChoice, pending, pending', Option.map_some, prompt, options]

section Play

variable (ideal : Clock.Ideal τ) (noSaves : FileTree.NoSaves files.text?)
  (relayed : ∀ script program, files.Tells script program → ∀ c ∈ program.commands, c.Relayed τ)

include ideal noSaves relayed

/-- The runner plays twins alike, from moments at which they are in step. -/
theorem Twin.playAtMost (twin : g.Twin files h) (orderly : g.Orderly files.text?)
    (orderly' : h.Orderly files.text?) {now now' : τ} (inStep : g.InStep h now now') (limit : Nat)
    (said : List Text) (measured : ∀ d ∈ g.playDeeds limit now, d.LoadsMeasured)
    (measured' : ∀ d ∈ h.playDeeds limit now', d.LoadsMeasured) :
    Together (Twin files) (Action.playAtMost limit now said) (Action.playAtMost limit now' said)
      g h := by
  have keep : ∀ g t : Game τ, Game.Change (fun _ => False) g t → g.Orderly files.text? →
      t.Orderly files.text? :=
    fun g t change => change.orderly noSaves fun _ given => given.elim
  induction limit generalizing g h now now' said with
  | zero => exact Action.together_fail twin
  | succ limit ih =>
    have frames := (twin.frame ideal noSaves relayed inStep
      (fun d mem => measured d (mem_playDeeds_frame mem))
      fun d mem => measured' d (mem_playDeeds_frame mem)).keeping
        ((Changes.frame .refl [] now).keeps keep orderly)
        ((Changes.frame .refl [] now').keeps keep orderly')
    unfold Action.playAtMost
    rcases frames with ⟨status, g', h', left, right, twin, orderly, orderly'⟩ |
      ⟨e, g', h', left, right, twin, -⟩
    case inr => exact .error (run_bind_error left) (run_bind_error right) twin
    refine (Action.together_bind_ok left right).mpr ?_
    rw [Action.together_state]
    have place : status = Status.ofState g'.state g'.program.commands.size := by
      rw [Action.status_of_frame left, Game.status, twin.left.menu]
    -- Where the runner goes on in both games, the rest of the play is one of twins.
    have goOn : ∀ {next next' : τ} {u v : Game τ},
        Action.proceed now g'.state status g' = .ok (some next) u →
        Action.proceed now' h'.state status h' = .ok (some next') v →
        u.Twin files v → u.Orderly files.text? → v.Orderly files.text? → u.InStep v next next' →
        ∀ said, Together (Twin files) (Action.playAtMost limit next said)
          (Action.playAtMost limit next' said) u v :=
      fun gone gone' twin orderly orderly' inStep said => ih twin orderly orderly' inStep said
        (fun d mem => measured d (mem_playDeeds_later left gone mem))
        fun d mem => measured' d (mem_playDeeds_later right gone' mem)
    -- What is shown is dismissed in both games, and then nothing is waited for.
    have dismiss : (∀ (now : τ) s, Action.proceed now s status = do
          let _ ← Action.advance
          return some now) →
        g'.state.wait = none → g'.state.choice = none → ∀ said, Together (Twin files)
          (do let _ ← Action.advance; Action.playAtMost limit now said)
          (do let _ ← Action.advance; Action.playAtMost limit now' said) g' h' := by
      intro speaks waits free said
      have dismissed : ∀ k : Game τ, Action.advance k =
          .ok k.state.dismiss.1 { k with state := k.state.dismiss.2 } := fun _ => rfl
      have orderly := ((Changes.advance .refl).keeps keep orderly).of_ok (dismissed g')
      have orderly' := ((Changes.advance .refl).keeps keep orderly').of_ok (dismissed h')
      rw [Action.together_bind_ok (dismissed g') (dismissed h')]
      refine goOn (by rw [speaks]; rfl) (by rw [speaks]; rfl) twin.dismissed orderly orderly' ?_ said
      have same := watched_dismiss g'.state
      have same' := watched_dismiss h'.state
      simp only [State.watched, Prod.mk.injEq] at same same'
      have free' : h'.state.choice = none := by simpa [free] using twin.choosing
      exact .of_none (same.2.2.trans free) (same'.2.2.trans free') (same.2.1.trans waits) now now'
    rcases Status.ofState_cases g'.state g'.program.commands.size with
      ⟨same, -⟩ | ⟨same, -⟩ | ⟨same, -⟩ | ⟨same, unread, free⟩ |
      ⟨wait, same, waits, free⟩ | ⟨same | same | same, waits, free⟩
    all_goals rw [same] at place
    all_goals subst place
    · rw [twin.state.map]
      exact Action.together_pure twin
    · simp only [twin.atChoice]
      exact Action.together_pure twin
    · rw [twin.state.question]
      exact Action.together_pure twin
    · rw [twin.state.phone]
      exact dismiss (fun _ _ => rfl) (orderly.state.wait_eq_none (.inr (.inr (.inr unread)))) free _
    · obtain ⟨due, rfl⟩ := twin.left.wait wait waits
      rcases twin.wait_cases with ⟨none, -⟩ | ⟨_, due', -, waits'⟩
      · rw [waits] at none
        cases none
      have free' : h'.state.choice = none := by simpa [free] using twin.choosing
      refine goOn rfl rfl twin orderly orderly' ⟨by simp [free], by simp [free'], ?_⟩ said
      intro first second timer timer'
      rw [waits] at timer ⊢
      rw [waits'] at timer' ⊢
      cases timer
      cases timer'
      exact (ideal.le_max now due).trans (ideal.le_max now' due').symm
    · rw [twin.state.dialogue]
      exact dismiss (fun _ _ => rfl) waits free _
    · exact Action.together_pure twin
    · have free' : h'.state.choice = none := by simpa [free] using twin.choosing
      exact goOn rfl rfl twin orderly orderly' (.of_none free free' waits _ _) said

end Play
end Game

/-! ## 4. Decisions -/

/-- What the player decides at a boundary. -/
inductive Decision where
  | choose (pick : Ordinal)
  | answer (text : Text)

/-- A decision is taken, and the game is played to the next boundary. -/
def Decision.action : Decision → Action τ Boundary
  | .choose pick => Action.chooseAndPlay pick
  | .answer text => Action.submitAndPlay text

/-- The decision alone. -/
def Decision.taken : Decision → Action τ Unit
  | .choose pick => Action.choose pick
  | .answer text => Action.submit (some text)

theorem Decision.action_eq (decision : Decision) :
    (decision.action : Action τ Boundary) = decision.taken >>= fun _ => Action.playToBoundary := by
  cases decision <;> rfl

/-- The commands that are done when a decision is taken in a game. -/
def Decision.deeds (decision : Decision) (g : Game τ) : List (Deed τ) :=
  decision.taken.deedsAfter g

namespace Game

open VisualNovel.Action (Together)

variable {files : FileTree} {g h : Game τ}

theorem Changes.decide {given : Snapshot τ → Prop} {g₀ : Game τ} (chain : g₀.Changes given g)
    (decision : Decision) : Action.Follows given g₀ decision.action g := by
  cases decision with
  | choose pick => exact (chain.choose pick).bind fun _ _ chain => chain.playToBoundary
  | answer text => exact (chain.submit _).bind fun _ _ chain => chain.playToBoundary

theorem Twin.chosen (twin : g.Twin files h) :
    ({ g with state := { g.state with choice := none } } : Game τ).Twin files
      { h with state := { h.state with choice := none } } :=
  { twin with
    state := { twin.state with choice := rfl }
    left := { twin.left with choice := nofun }
    right := { twin.right with choice := nofun } }

theorem Twin.choose (twin : g.Twin files h) (pick : Ordinal) :
    Together (Twin files) (Action.choose pick) (Action.choose pick) g h := by
  unfold Action.choose
  rw [Action.together_state]
  rcases twin.state.choice_cases with ⟨none, none'⟩ | ⟨c, d, pending, pending', same⟩
  · rw [none, none', twin.state.map]
    refine .ite Iff.rfl (fun _ => ?_) fun _ => Action.together_fail twin
    split
    · exact Action.together_fail twin
    · refine (twin.change { twin.state with map := ?_ } rfl rfl).bind fun _ _ _ twin => twin.jump _
      simp only [twin.state.map]
  · have options : c.options = d.options := congrArg (·.2.1) same
    rw [pending, pending']
    simp only [options]
    split
    · exact Action.together_fail twin
    · exact (Action.together_bind_ok rfl rfl).mpr (twin.chosen.jump _)

theorem Twin.submit (twin : g.Twin files h) (text : Option Text) :
    Together (Twin files) (Action.submit text) (Action.submit text) g h := by
  unfold Action.submit
  rw [Action.together_state, twin.state.question]
  split
  · exact Action.together_fail twin
  · exact twin.change { twin.state.setVariable _ _ with question := rfl } rfl rfl

omit [Clock τ] in
/-- A jump leaves alone what is waited for. -/
theorem watched_jump (target : Text) (g : Game τ) :
    Ends (Action.jump target) g (fun _ t => t.state.watched = g.state.watched) fun _ _ => True := by
  unfold Action.jump
  simp only
  rw [ends_bind, ends_get]
  refine .ite (fun _ => .ite (fun _ => rfl) fun _ => rfl) fun _ => ?_
  split
  · exact rfl
  · exact trivial

omit [Clock τ] in
/-- Where an option or a point is taken nothing is waited for any more. -/
theorem free_of_choose {pick : Ordinal} {t : Game τ} (orderly : g.state.Orderly)
    (done : Action.choose pick g = .ok () t) : t.state.choice = none ∧ t.state.wait = none := by
  have jumped : ∀ (s : State τ) (target : Text), s.choice = none → s.wait = none →
      Action.jump target { g with state := s } = .ok () t →
      t.state.choice = none ∧ t.state.wait = none := by
    intro s target free waits jump
    have same := (watched_jump target _).of_ok jump
    simp only [State.watched, Prod.mk.injEq] at same
    exact ⟨same.2.2.trans free, same.2.1.trans waits⟩
  have read : Action.state g = .ok g.state g := rfl
  rw [Action.choose, run_bind_ok read] at done
  cases pending : g.state.choice with
  | some choice =>
    simp only [pending] at done
    cases found : pick.get? choice.options with
    | none =>
      rw [found] at done
      cases done
    | some option =>
      rw [found] at done
      have waits := orderly.wait_eq_none (.inr (.inl (by rw [pending]; rfl)))
      exact jumped { g.state with choice := none } option.target rfl waits done
  | none =>
    simp only [pending] at done
    cases active : g.state.map.active with
    | false =>
      rw [active] at done
      cases done
    | true =>
      rw [active] at done
      cases found : pick.get? g.state.map.points.toList with
      | none =>
        rw [found] at done
        cases done
      | some point =>
        rw [found] at done
        exact jumped { g.state with map := { g.state.map with active := false } } point.target
          pending (orderly.wait_eq_none (.inl active)) done

omit [Clock τ] in
/-- Where a question is answered nothing is waited for any more. -/
theorem free_of_submit {text : Option Text} {t : Game τ} (orderly : g.state.Orderly)
    (done : Action.submit text g = .ok () t) : t.state.choice = none ∧ t.state.wait = none := by
  have read : Action.state g = .ok g.state g := rfl
  rw [Action.submit, run_bind_ok read] at done
  cases asked : g.state.question with
  | none =>
    rw [asked] at done
    cases done
  | some question =>
    have overlaid : g.state.question.isSome = true := by rw [asked]; rfl
    rw [asked] at done
    cases done
    exact ⟨orderly.choice_eq_none overlaid, orderly.wait_eq_none (.inr (.inr (.inl overlaid)))⟩

section Decide

variable (ideal : Clock.Ideal τ) (noSaves : FileTree.NoSaves files.text?)
  (relayed : ∀ script program, files.Tells script program → ∀ c ∈ program.commands, c.Relayed τ)

include ideal noSaves relayed

/-- Twins are played alike from their own moments, when nothing is waited for. -/
theorem Twin.playToBoundary (twin : g.Twin files h) (orderly : g.Orderly files.text?)
    (orderly' : h.Orderly files.text?) (inStep : g.InStep h g.now h.now)
    (measured : ∀ d ∈ g.playDeeds runnerLimit g.now, d.LoadsMeasured)
    (measured' : ∀ d ∈ h.playDeeds runnerLimit h.now, d.LoadsMeasured) :
    Together (Twin files) Action.playToBoundary Action.playToBoundary g h := by
  unfold Action.playToBoundary
  rw [Action.together_get]
  generalize runnerLimit = limit at measured measured' ⊢
  exact twin.playAtMost ideal noSaves relayed orderly orderly' inStep limit [] measured measured'

/-- A decision leads twins to the same boundary. -/
theorem Twin.decide (twin : g.Twin files h) (orderly : g.Orderly files.text?)
    (orderly' : h.Orderly files.text?) (decision : Decision)
    (measured : ∀ d ∈ decision.deeds g, d.LoadsMeasured)
    (measured' : ∀ d ∈ decision.deeds h, d.LoadsMeasured) :
    Together (Twin files) decision.action decision.action g h := by
  have keep : ∀ g t : Game τ, Game.Change (fun _ => False) g t → g.Orderly files.text? →
      t.Orderly files.text? :=
    fun g t change => change.orderly noSaves fun _ given => given.elim
  have both : Together (Twin files) decision.taken decision.taken g h := by
    cases decision with
    | choose pick => exact twin.choose pick
    | answer text => exact twin.submit _
  have follows : ∀ k : Game τ, Action.Follows (fun _ => False) k decision.taken k := by
    intro k
    cases decision with
    | choose pick => exact Changes.choose .refl pick
    | answer text => exact Changes.submit .refl _
  have free : ∀ {k t : Game τ}, k.state.Orderly → decision.taken k = .ok () t →
      t.state.choice = none ∧ t.state.wait = none := by
    intro k t orderly done
    cases decision with
    | choose pick => exact free_of_choose orderly done
    | answer text => exact free_of_submit orderly done
  rw [Decision.action_eq]
  rcases both.keeping ((follows g).keeps keep orderly) ((follows h).keeps keep orderly') with
    ⟨_, g', h', left, right, twin, orderly₁, orderly₂⟩ | ⟨e, g', h', left, right, twin, -⟩
  case inr => exact .error (run_bind_error left) (run_bind_error right) twin
  simp only [Decision.deeds, Action.deedsAfter, left] at measured
  simp only [Decision.deeds, Action.deedsAfter, right] at measured'
  rw [Action.together_bind_ok left right]
  obtain ⟨chosen, waits⟩ := free orderly.state left
  exact twin.playToBoundary ideal noSaves relayed orderly₁ orderly₂
    (.of_none chosen (free orderly'.state right).1 waits _ _) measured measured'

end Decide
end Game

end VisualNovel
