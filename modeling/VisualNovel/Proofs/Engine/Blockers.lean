import VisualNovel.Proofs.Engine.Session
import VisualNovel.Proofs.Story.SaveFile

/-!
At most one thing stands in the way of a story.

A snapshot has one place for what is waited for, the status of a game names the first thing that is
in the way, and playing without a screen answers one thing at a time. All of them rely on `Orderly`
states: of the map, a choice, a question, an unread message, a wait and a line of dialogue at most
one is there, and the phone is as it should be. A command puts something in the way only when nothing
is, and everything else takes things away, so every change keeps states orderly
(`State.Change.orderly`). A snapshot of an orderly state gives an orderly state back
(`Snapshot.Orderly.toState`), also when it went through a file (`Snapshot.Orderly.reread`).
-/

namespace VisualNovel

variable {τ : Type}

/-! ## 1. Orderly states -/

/-- What can stand in the way of a story, and whether it does. -/
def State.blockers (s : State τ) : List Bool :=
  [s.map.active, s.choice.isSome, s.question.isSome, s.phone.unread, s.wait.isSome,
    s.dialogue.isSome]

/-- At most one thing stands in the way, an unread message is there, and a phone without a
conversation is the empty one. -/
structure State.Orderly (s : State τ) : Prop where
  single : s.blockers.count true ≤ 1
  unread : s.phone.unread = true → s.phone.messages ≠ #[]
  closed : s.phone.active = false → s.phone.messages = #[] → s.phone = {}

namespace State

variable {s t : State τ}

/-- What is in the way in one state is in the way in another. -/
structure BlockedIn (t s : State τ) : Prop where
  map : t.map.active = true → s.map.active = true
  choice : t.choice.isSome = true → s.choice.isSome = true
  question : t.question.isSome = true → s.question.isSome = true
  phone : t.phone.unread = true → s.phone.unread = true
  wait : t.wait.isSome = true → s.wait.isSome = true
  dialogue : t.dialogue.isSome = true → s.dialogue.isSome = true

/-- Taking things out of the way keeps at most one there. -/
theorem BlockedIn.single (less : t.BlockedIn s) (h : s.blockers.count true ≤ 1) :
    t.blockers.count true ≤ 1 := by
  obtain ⟨map, choice, question, phone, wait, dialogue⟩ := less
  unfold blockers at h ⊢
  grind

/-- A change that takes things out of the way and leaves the phone alone. -/
theorem Orderly.less (h : s.Orderly) (less : t.BlockedIn s) (phone : t.phone = s.phone) :
    t.Orderly where
  single := less.single h.single
  unread := phone ▸ h.unread
  closed := phone ▸ h.closed

/-- Every change of a state keeps it orderly: only a free state gets something in its way. -/
theorem Change.orderly [Clock τ] {program : Program} (change : s.Change program t)
    (h : s.Orderly) : t.Orderly := by
  cases change with
  | plain | lookAt | lookAhead | placeSprite | removeSprite | clearSprites | stopAll | stopSprite
  | moveSprites | setVariable | refreshMeter | setMeter | eraseMeter | clearMeters | addItem | clearItems | define
  | mapPoint | hotspot | eraseHotspot | clearHotspots | button | eraseButton | clearButtons | next
  | goto => exact { h with }
  | hideSprite name transition =>
    obtain ⟨_, _, same⟩ := s.hideSprite_frame name transition
    rw [same]
    exact { h with }
  | @animate name sprite found goal seconds ease mem now =>
    obtain ⟨_, _, same⟩ := s.animate_frame name sprite goal seconds ease now
    rw [same]
    exact { h with }
  | takeItem id amount =>
    obtain ⟨_, same⟩ := s.takeItem_frame id amount
    rw [same]
    exact { h with }
  | say free | offer free | ask free | hold free | showMap free =>
    exact
      { h with
        single := by
          simp [blockers, free.map, free.choice, free.question, free.phone, free.wait,
            free.dialogue] }
  | silence => exact h.less ⟨id, id, id, id, id, nofun⟩ rfl
  | turn pending => exact h.less ⟨id, fun _ => by simp [pending], id, id, id, id⟩ rfl
  | choose => exact h.less ⟨id, nofun, id, id, id, id⟩ rfl
  | edit pending => exact h.less ⟨id, id, fun _ => by simp [pending], id, id, id⟩ rfl
  | answer => exact h.less ⟨id, id, nofun, id, id, id⟩ rfl
  | release => exact h.less ⟨id, id, id, id, nofun, id⟩ rfl
  | closeMap => exact h.less ⟨nofun, id, id, id, id, id⟩ rfl
  | openPhone free =>
    refine ⟨?_, nofun, nofun⟩
    simp [blockers, free.map, free.choice, free.question, free.wait, free.dialogue]
  | closePhone free =>
    refine ⟨?_, nofun, fun _ _ => rfl⟩
    simp [blockers, free.map, free.choice, free.question, free.wait, free.dialogue]
  | message free =>
    refine ⟨?_, fun _ => by simp, fun _ empty => absurd empty (by simp)⟩
    simp [blockers, free.map, free.choice, free.question, free.wait, free.dialogue]
  | readMessage =>
    have less : ({ s with phone := { s.phone with unread := false } } : State τ).BlockedIn s :=
      ⟨id, id, id, nofun, id, id⟩
    refine ⟨less.single h.single, nofun, fun inactive empty => ?_⟩
    have closed := h.closed inactive empty
    simp [closed]

/-- Introducing characters puts nothing in the way. -/
theorem Orderly.introduceAll (h : s.Orderly) (program : Program) :
    (s.introduceAll program).Orderly := by
  obtain ⟨characters, same⟩ := s.introduceAll_frame program
  rw [same]
  exact { h with }

/-- The state of a new game. -/
theorem orderly_start (program : Program) : (({} : State τ).introduceAll program).Orderly := by
  have empty : ({} : State τ).Orderly := ⟨Nat.zero_le 1, by simp, fun _ _ => rfl⟩
  exact empty.introduceAll program

end State

/-! ## 2. Orderly snapshots -/

/-- A snapshot with at most one thing that will be in the way, and a phone as it should be. -/
structure Snapshot.Orderly (data : Snapshot τ) : Prop where
  single : [data.map.active, data.waiting.isSome, data.phone.any (·.unread),
    data.dialogue.isSome].count true ≤ 1
  unread : ∀ p ∈ data.phone, p.unread = true → p.messages ≠ #[]
  closed : ∀ p ∈ data.phone, p.active = true ∨ p.messages ≠ #[]

namespace Snapshot

variable {data : Snapshot τ}

theorem isSome_waitingOf [Clock τ] (s : State τ) (now : τ) :
    (waitingOf s now).isSome = (s.choice.isSome || s.question.isSome || s.wait.isSome) := by
  unfold waitingOf
  cases s.choice with
  | some choice => rfl
  | none =>
    cases s.question with
    | some question => rfl
    | none => cases s.wait <;> rfl

theorem phoneOf_eq_some {phone p : Phone} (h : phoneOf phone = some p) :
    p = phone ∧ (p.active = true ∨ p.messages ≠ #[]) := by
  unfold phoneOf at h
  split at h
  · next shown =>
    cases h
    exact ⟨rfl, by simpa using shown⟩
  · cases h

theorem orderly_ofState [Clock τ] {s : State τ} (h : s.Orderly) (script : Text) (now : τ) :
    (ofState s script now).Orderly where
  single := by
    have phone : (phoneOf s.phone).any (·.unread) = true → s.phone.unread = true := by
      cases saved : phoneOf s.phone with
      | none => exact nofun
      | some p =>
        obtain ⟨rfl, _⟩ := phoneOf_eq_some saved
        exact id
    have single := h.single
    simp only [ofState, isSome_waitingOf, Option.isSome_map]
    unfold State.blockers at single
    generalize s.choice.isSome = choice at single ⊢
    generalize s.question.isSome = question at single ⊢
    generalize s.wait.isSome = wait at single ⊢
    grind
  unread p saved := by
    obtain ⟨rfl, _⟩ := phoneOf_eq_some saved
    exact h.unread
  closed p saved := (phoneOf_eq_some saved).2

theorem Orderly.toState [Clock τ] (h : data.Orderly) (now : τ) : (data.toState now).Orderly where
  single := by
    have single := h.single
    have phone : (data.phone.getD {}).unread = data.phone.any (·.unread) := by
      cases data.phone <;> rfl
    cases waiting : data.waiting with
    | none =>
      simp only [waiting] at single
      simp only [State.blockers, Snapshot.toState, phone, waiting, choiceOf, questionOf, waitOf,
        Option.isSome_map]
      grind
    | some w =>
      simp only [waiting] at single
      cases w <;>
      · simp only [State.blockers, Snapshot.toState, phone, waiting, choiceOf, questionOf, waitOf,
          Option.isSome_map]
        grind
  unread := by
    cases saved : data.phone with
    | none => simp [Snapshot.toState, saved]
    | some p => simpa [Snapshot.toState, saved] using h.unread p saved
  closed inactive empty := by
    cases saved : data.phone with
    | none => simp [Snapshot.toState, saved]
    | some p =>
      simp only [Snapshot.toState, saved, Option.getD_some] at inactive empty
      rcases h.closed p saved with active | some
      · rw [inactive] at active
        cases active
      · exact absurd empty some

theorem Orderly.mapTime {σ : Type} (h : data.Orderly) (f : τ → σ) : (data.mapTime f).Orderly :=
  { h with
    single := by
      have single := h.single
      simpa [Snapshot.mapTime] using single }

/-- What is read again of an orderly snapshot is orderly. -/
theorem Orderly.reread {data found : Snapshot Float} (h : data.Orderly)
    (again : data.Reread found) : found.Orderly where
  single := by
    have phone : found.phone.any (·.unread) = true → data.phone.any (·.unread) = true := by
      cases saved : found.phone with
      | none => exact nofun
      | some p' =>
        obtain ⟨p, written, _, same, _⟩ := again.phone p' saved
        rw [Option.mem_def.mp written]
        exact fun unread => same.symm.trans unread
    have single := h.single
    rw [again.map, again.waiting, again.dialogue]
    grind
  unread p' saved unread := by
    obtain ⟨p, written, _, same, size⟩ := again.phone p' saved
    rw [← Array.size_pos_iff, size, Array.size_pos_iff]
    exact h.unread p written (same ▸ unread)
  closed p' saved := by
    obtain ⟨p, written, active, _, size⟩ := again.phone p' saved
    rw [active, ← Array.size_pos_iff, size, Array.size_pos_iff]
    exact h.closed p written

end Snapshot

/-! ## 3. Orderly games -/

variable [Clock τ]

/-- An orderly state among files that hold snapshots of orderly states. -/
structure Game.Orderly (original : Text → Option Text) (g : Game τ) : Prop where
  state : g.state.Orderly
  files : g.files.Saves original Snapshot.Orderly

namespace Game

variable {original : Text → Option Text} {given : Snapshot τ → Prop} {g t : Game τ}

theorem Orderly.snapshot (h : g.Orderly original) : g.snapshot.Orderly :=
  Snapshot.orderly_ofState h.state _ _

/-- Every change of a game keeps it orderly. -/
theorem Change.orderly (noSaves : FileTree.NoSaves original)
    (handed : ∀ data, given data → data.Orderly) (change : Game.Change given g t)
    (h : g.Orderly original) : t.Orderly original := by
  cases change with
  | state change => exact { h with state := change.orderly h.state }
  | around | request | load | evict | clearLibrary => exact { h with }
  | openVideo | lookVideo | closeVideo => exact { h with state := { h.state with } }
  | save path => exact { h with files := h.files.save (h.snapshot.mapTime _) path }
  | @call _ _ _ edition => exact { h with state := { h.state.introduceAll edition.program with } }
  | @stray _ _ _ edition => exact { h with state := { h.state.introduceAll edition.program with } }
  | restart => exact { h with state := State.orderly_start _ }
  | @resume data program source =>
    have orderly : data.Orderly := by
      rcases source with own | ⟨path, saved, found, rfl⟩
      · exact handed data own
      · obtain ⟨written, good, again⟩ := h.files.load noSaves found
        exact (good.reread again).mapTime _
    exact { h with state := (orderly.toState _).introduceAll program }

end Game

/-- At most one thing stands in the way in every game that is played from a new one. Sessions may
use every operation, and hand over the snapshots that they took. -/
theorem blocked_once {setup : Setup τ} {library : Library} {files : FileTree} {program : Program}
    (noSaves : FileTree.NoSaves files.text?) {taken : List (Snapshot τ)} {g : Game τ}
    (played : Played OwnSnapshots (Game.start setup library files program) taken g) :
    [g.state.map.active, g.state.choice.isSome, g.state.question.isSome, g.state.phone.unread,
      g.state.wait.isSome, g.state.dialogue.isSome].count true ≤ 1 ∧
    (g.state.phone.unread = true → g.state.phone.messages ≠ #[]) ∧
    (g.state.phone.active = false → g.state.phone.messages = #[] → g.state.phone = {}) := by
  have start : (Game.start setup library files program).Orderly files.text? :=
    ⟨State.orderly_start program, files.within_text?.saves _⟩
  have orderly := (played.invariant (P := Game.Orderly files.text?) start (fun g h => h.snapshot)
    (fun taken op own good data hands => good data (own data hands))
    fun given g t handed change h => change.orderly noSaves handed h).1
  exact ⟨orderly.state.single, orderly.state.unread, orderly.state.closed⟩

/-- A story of one line. -/
def oneLine : Program :=
  { script := "/game/main.vn", commands := #[.say none "Hello."], labels := {} }

/-- A new game of the story. -/
def oneLineGame : Game Float := gameIn (soloFiles "\"Hello.\";") oneLine

/-- The line is shown, dismissed, and shown again from a snapshot. -/
theorem blocked_once_resumed :
    ((Operation.restore (Operation.run.after oneLineGame).snapshot).after
      (Operation.advance.after (Operation.run.after oneLineGame))).state.blockers.count true ≤ 1 := by
  have noSaves : FileTree.NoSaves (soloFiles "\"Hello.\";").text? :=
    FileTree.noSaves_text? (by decide)
  have shown : Played OwnSnapshots oneLineGame [] (Operation.run.after oneLineGame) :=
    .act .start (ownSnapshots_of_ne fun _ => nofun)
  have dismissed : Played OwnSnapshots oneLineGame [(Operation.run.after oneLineGame).snapshot]
      (Operation.advance.after (Operation.run.after oneLineGame)) :=
    shown.keep.act (ownSnapshots_of_ne fun _ => nofun)
  refine (blocked_once noSaves (dismissed.act fun data hands => ?_)).1
  cases hands
  exact List.mem_cons_self

end VisualNovel
