import VisualNovel.Proofs.Engine.Blockers
import VisualNovel.Proofs.Engine.Deal

/-!
The guard of a run.

A run does one command after another while the game is running, and the guard ends it after
`commandLimit` commands. So a run ends in one of three ways (`runAtMost_ends`): a stretch of fewer
commands comes to something that the game waits for, and the run says what it is; a command fails; or
the limit is reached. No command fails as the guard does, so the guard tells stretches of exactly
`commandLimit` commands. What the game waits for after the last of them is not looked at, though: a story
that comes to rest with its last command is refused as well (`guard_fires_at_rest`).
-/

namespace VisualNovel

variable {τ : Type} [Clock τ]

/-! ## 1. Stretches of a story -/

/-- So many commands are done one after another, each in a game that is running. -/
inductive Game.Stretch : Nat → Game τ → Game τ → Prop
  | none (g : Game τ) : Stretch 0 g g
  | more {n : Nat} {g t u : Game τ} (running : g.status = .running)
      (done : Action.step g = .ok () t) (rest : Stretch n t u) : Stretch (n + 1) g u

/-- Two stretches one behind the other. -/
theorem Game.Stretch.trans {m n : Nat} {g t u : Game τ} (h : Stretch m g t) (h' : Stretch n t u) :
    Stretch (m + n) g u := by
  induction h with
  | none g => rwa [Nat.zero_add]
  | more running done rest ih =>
    rw [Nat.add_right_comm]
    exact .more running done (ih h')

namespace Action

variable {g t : Game τ}

/-- No command fails because too many were done. -/
theorem common_of_step_error {e : Failure} (h : step g = .error e t) : e.Common := by
  have deals : Keeps (g.Deals ⟨fun _ => True, fun _ => True, fun _ => True⟩) Failure.Common step g :=
    Game.Deals.step .refl fun _ _ => trivial
  unfold Keeps Ends at deals
  rw [h] at deals
  exact deals.2

/-- A run whose commands are all done. -/
theorem runAtMost_zero (g : Game τ) :
    runAtMost 0 g = .error (.play (.guardExceeded commandLimit)) g := rfl

/-- A game that waits for something is left as it is. -/
theorem runAtMost_waiting (waits : g.status ≠ .running) (k : Nat) :
    runAtMost (k + 1) g = .ok g.status g := by
  have read : status g = .ok g.status g := rfl
  rw [runAtMost, run_bind_ok read, if_pos waits]
  rfl

theorem runAtMost_running (running : g.status = .running) (k : Nat) :
    runAtMost (k + 1) g = (do step; runAtMost k) g := by
  have read : status g = .ok g.status g := rfl
  have same : ¬ g.status ≠ .running := not_not_intro running
  rw [runAtMost, run_bind_ok read, if_neg same]

/-- A run goes on behind a stretch with the commands that are left to it. -/
theorem runAtMost_stretch {n : Nat} (h : Game.Stretch n g t) (k : Nat) :
    runAtMost (n + k) g = runAtMost k t := by
  induction h with
  | none g => rw [Nat.zero_add]
  | @more n g t u running done rest ih =>
    rw [Nat.add_right_comm, runAtMost_running running, run_bind_ok done, ih]

/-- How a run ends. -/
inductive RunEnds (limit : Nat) (g : Game τ) : Prop
  /-- The game waits for something before all commands are done. -/
  | rests {n : Nat} {t : Game τ} (less : n < limit) (stretch : Game.Stretch n g t)
      (waits : t.status ≠ .running) (result : runAtMost limit g = .ok t.status t)
  /-- A command fails. -/
  | fails {n : Nat} {t u : Game τ} {e : Failure} (less : n < limit) (stretch : Game.Stretch n g t)
      (running : t.status = .running) (failed : step t = .error e u)
      (result : runAtMost limit g = .error e u)
  /-- All commands are done. -/
  | exceeds {t : Game τ} (stretch : Game.Stretch limit g t)
      (result : runAtMost limit g = .error (.play (.guardExceeded commandLimit)) t)

/-- A run ends in one of these ways. -/
theorem runAtMost_ends (limit : Nat) (g : Game τ) : RunEnds limit g := by
  induction limit generalizing g with
  | zero => exact .exceeds (.none g) rfl
  | succ limit ih =>
    by_cases running : g.status = .running
    · cases done : step g with
      | error e u =>
        refine .fails (Nat.succ_pos limit) (.none g) running done ?_
        rw [runAtMost_running running, run_bind_error done]
      | ok a t =>
        have next : runAtMost (limit + 1) g = runAtMost limit t := by
          rw [runAtMost_running running, run_bind_ok done]
        rcases ih t with ⟨less, rest, waits, result⟩ | ⟨less, rest, still, failed, result⟩ |
          ⟨rest, result⟩
        · exact .rests (Nat.succ_lt_succ less) (.more running done rest) waits (next.trans result)
        · exact .fails (Nat.succ_lt_succ less) (.more running done rest) still failed
            (next.trans result)
        · exact .exceeds (.more running done rest) (next.trans result)
    · exact .rests (Nat.succ_pos limit) (.none g) running (runAtMost_waiting running limit)

/-- The guard ends a run exactly if `commandLimit` commands are done. -/
theorem run_exceeds_iff :
    run g = .error (.play (.guardExceeded commandLimit)) t ↔ Game.Stretch commandLimit g t := by
  constructor
  · intro exceeded
    change runAtMost commandLimit g = _ at exceeded
    rcases runAtMost_ends commandLimit g with ⟨_, _, _, result⟩ | ⟨_, _, _, failed, result⟩ |
      ⟨stretch, result⟩
    · rw [result] at exceeded
      cases exceeded
    · rw [result] at exceeded
      cases exceeded
      exact absurd ⟨_, rfl⟩ (common_of_step_error failed).1
    · rw [result] at exceeded
      cases exceeded
      exact stretch
  · intro stretch
    have ended := runAtMost_stretch stretch 0
    rwa [Nat.add_zero, runAtMost_zero] at ended

end Action

/-! ## 2. When the guard fires -/

/-- The guard fires only where it has to. If no stretch of `commandLimit` commands comes to rest with
its last command, then a run fails for the guard only if it has done `commandLimit` commands and the
game is still running, and a stretch of at most so many commands that comes to something the game waits
for gives what it waits for. -/
theorem guard_fires_when_exceeded (g : Game τ)
    (clear : ∀ t, Game.Stretch commandLimit g t → t.status = .running) :
    (∀ e t, Action.run g = .error e t → e.ExceedsGuard →
      Game.Stretch commandLimit g t ∧ t.status = .running) ∧
    ∀ n t, n ≤ commandLimit → Game.Stretch n g t → t.status ≠ .running →
      Action.run g = .ok t.status t := by
  constructor
  · intro e t failed exceeds
    change Action.runAtMost commandLimit g = _ at failed
    rcases Action.runAtMost_ends commandLimit g with ⟨_, _, _, result⟩ |
      ⟨_, _, _, broken, result⟩ | ⟨stretch, result⟩
    · rw [result] at failed
      cases failed
    · rw [result] at failed
      cases failed
      exact absurd exceeds (Action.common_of_step_error broken).1
    · rw [result] at failed
      cases failed
      exact ⟨stretch, clear _ stretch⟩
  · intro n t atMost stretch waits
    have less : n < commandLimit := by
      refine Nat.lt_of_le_of_ne atMost fun all => ?_
      subst all
      exact waits (clear t stretch)
    obtain ⟨k, left⟩ := Nat.exists_eq_add_of_lt less
    calc Action.run g = Action.runAtMost (n + (k + 1)) g := by rw [Action.run, left]; rfl
      _ = Action.runAtMost (k + 1) t := Action.runAtMost_stretch stretch _
      _ = .ok t.status t := Action.runAtMost_waiting waits k

/-- A story that goes back to its beginning for ever. -/
def endlessStory : Program where
  script := "/game/main.vn"
  commands := #[.label "again", .jump "again"]
  labels := ⟨[("again", 0)]⟩

/-- The story at its label, or at its jump. -/
def endlessGame (back : Bool) : Game Float :=
  { gameIn (soloFiles []) endlessStory with state := { index := .nth back.toNat } }

theorem step_endlessGame (back : Bool) :
    Action.step (endlessGame back) = .ok () (endlessGame !back) := by
  cases back <;> rfl

theorem status_endlessGame (back : Bool) : (endlessGame back).status = .running := by
  cases back <;> decide

/-- The story goes on for so many commands. -/
theorem exists_stretch_endlessGame (n : Nat) (back : Bool) :
    ∃ later, Game.Stretch n (endlessGame back) (endlessGame later) := by
  induction n generalizing back with
  | zero => exact ⟨back, .none _⟩
  | succ n ih =>
    obtain ⟨later, rest⟩ := ih !back
    exact ⟨later, .more (status_endlessGame back) (step_endlessGame back) rest⟩

/-- It never comes to anything else. -/
theorem exists_of_stretch_endlessGame {n : Nat} {back : Bool} {t : Game Float}
    (h : Game.Stretch n (endlessGame back) t) : ∃ later, t = endlessGame later := by
  induction n generalizing back with
  | zero =>
    cases h
    exact ⟨back, rfl⟩
  | succ n ih =>
    cases h with
    | more running done rest =>
      cases (step_endlessGame back).symm.trans done
      exact ih rest

/-- The story is never at rest, so that the guard ends every run of it, and rightly. A story of one line
comes to rest after one command. -/
theorem guard_fires_when_exceeded_endless :
    (∃ e t, Action.run (endlessGame false) = .error e t ∧ e.ExceedsGuard ∧
      Game.Stretch commandLimit (endlessGame false) t ∧ t.status = .running) ∧
    ∃ t, Game.Stretch 1 oneLineGame t ∧ t.status = .dialogue ∧
      Action.run oneLineGame = .ok .dialogue t := by
  constructor
  · have clear : ∀ t, Game.Stretch commandLimit (endlessGame false) t → t.status = .running := by
      intro t stretch
      obtain ⟨back, rfl⟩ := exists_of_stretch_endlessGame stretch
      exact status_endlessGame back
    obtain ⟨back, stretch⟩ := exists_stretch_endlessGame commandLimit false
    have failed := Action.run_exceeds_iff.mpr stretch
    have exceeds : (Failure.play (.guardExceeded commandLimit)).ExceedsGuard := ⟨_, rfl⟩
    exact ⟨_, _, failed, exceeds, (guard_fires_when_exceeded _ clear).1 _ _ failed exceeds⟩
  · obtain ⟨_, t, done, shown⟩ := exists_run (m := Action.step) (s := oneLineGame)
      (f := fun _ t => t.status) (b := .dialogue) (by decide)
    have waits : t.status ≠ .running := by
      rw [shown]
      decide
    have first : Game.Stretch 1 oneLineGame t := .more (by decide) done (.none t)
    have clear : ∀ u, Game.Stretch commandLimit oneLineGame u → u.status = .running := by
      intro u stretch
      cases stretch with
      | more running done' rest =>
        cases done.symm.trans done'
        cases rest with
        | more again => exact absurd again waits
    have told := (guard_fires_when_exceeded oneLineGame clear).2 1 t (by decide) first waits
    exact ⟨t, first, shown, shown ▸ told⟩

/-! ## 3. A story that comes to rest with its last command -/

/-- A story that hides the map so many times, and then says a line. -/
def lateStory (quiet : Nat) : Program where
  script := "/game/main.vn"
  commands := (Array.replicate quiet .hideMap).push (.say none "Hello.")
  labels := {}

/-- The story after so many of its commands that hide the map. -/
def lateGame (quiet done : Nat) : Game Float :=
  { gameIn (soloFiles []) (lateStory quiet) with state := { index := .nth done } }

theorem status_lateGame {quiet done : Nat} (most : done ≤ quiet) :
    (lateGame quiet done).status = .running := by
  have ahead : ¬ (lateStory quiet).commands.size ≤ done := by
    simp [lateStory]
    omega
  change (if decide ((lateStory quiet).commands.size ≤ done) = true then _ else _) = _
  rw [if_neg (by simpa using ahead)]

/-- Hiding a map that is hidden only moves the story on. -/
theorem step_lateGame {quiet done : Nat} (less : done < quiet) :
    Action.step (lateGame quiet done) = .ok () (lateGame quiet (done + 1)) := by
  have next : (lateStory quiet).commandAt? (.nth done) = some .hideMap := by
    simp [lateStory, Program.commandAt?, Array.getElem?_push, less, Nat.ne_of_lt less]
  have program : (lateGame quiet done).program = lateStory quiet := rfl
  have index : (lateGame quiet done).state.index = .nth done := rfl
  rw [Action.step_eq, program, index, next]
  rfl

/-- The commands that hide the map are done, one after another. -/
theorem stretch_lateGame {quiet : Nat} (n done : Nat) (inside : done + n ≤ quiet) :
    Game.Stretch n (lateGame quiet done) (lateGame quiet (done + n)) := by
  induction n generalizing done with
  | zero => exact .none _
  | succ n ih =>
    have rest := ih (done + 1) (by omega)
    rw [Nat.add_right_comm] at rest
    exact .more (status_lateGame (by omega)) (step_lateGame (by omega)) rest

/-- The line is said with the last command. -/
theorem step_lateGame_line (quiet : Nat) :
    ∃ t, Action.step (lateGame quiet quiet) = .ok () t ∧ t.status = .dialogue := by
  have next : (lateStory quiet).commandAt? (.nth quiet) = some (.say none "Hello.") := by
    simp [lateStory, Program.commandAt?, Array.getElem_push]
  have program : (lateGame quiet quiet).program = lateStory quiet := rfl
  have index : (lateGame quiet quiet).state.index = .nth quiet := rfl
  refine ⟨{ lateGame quiet quiet with
    state := { index := .nth (quiet + 1), dialogue := some { text := "Hello." } } }, ?_, rfl⟩
  rw [Action.step_eq, program, index, next]
  rfl

/-- The guard fires although the story has come to rest: its ten thousandth command says a line, and
is refused. -/
theorem guard_fires_at_rest :
    ∃ t : Game Float, Game.Stretch commandLimit (lateGame 9999 0) t ∧ t.status = .dialogue ∧
      Action.run (lateGame 9999 0) = .error (.play (.guardExceeded commandLimit)) t := by
  obtain ⟨t, done, shown⟩ := step_lateGame_line 9999
  have quiet := stretch_lateGame 9999 0 (Nat.le_refl (0 + 9999))
  have last : Game.Stretch 1 (lateGame 9999 9999) t :=
    .more (status_lateGame (Nat.le_refl 9999)) done (.none t)
  have stretch : Game.Stretch commandLimit (lateGame 9999 0) t := quiet.trans last
  exact ⟨t, stretch, shown, Action.run_exceeds_iff.mpr stretch⟩

end VisualNovel
