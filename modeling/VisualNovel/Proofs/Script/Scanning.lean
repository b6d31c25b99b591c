import VisualNovel.Proofs.Script.Lexeme
import VisualNovel.Proofs.Script.Progress

/-!
The lexer moves on.

`Visits t n i` says that the lexer stands behind `i` units of a text after `n` steps, whatever it has
read on the way. A step that does not fail takes some of the units that are left, unless they begin
with two points and a digit, where it takes none (`taken_pos`, `step_stalled`). So where no step stands
in front of such units there are at most as many steps as units (`Visits.bounds`), and the length of a
text is turns enough to read it: more of them change nothing (`scan_enough`). That is the main
statement, `lexer_advances`.
-/

namespace VisualNovel.Lexer

open Text (unit)

/-- The number of units that a step takes, unless it fails. -/
def Step.taken? : Step → Option Nat
  | .skip count => some count
  | .token _ _ count => some count
  | .fail _ _ => none

/-- The lexer comes from the front of a text, in a number of steps, to stand behind a number of
units. -/
inductive Visits : Text → Nat → Nat → Prop
  | start (t : Text) : Visits t 0 0
  | next {t : Text} {count n i : Nat} (more : t ≠ []) (taken : (step t).taken? = some count)
      (rest : Visits (t.drop count) n i) : Visits t (n + 1) (count + i)

/-! ## 1. One step -/

/-- A step takes units that are there, and at least one of them where it is not stalled. -/
theorem taken_pos {t : Text} {count : Nat} (more : t ≠ []) (moving : ¬ Stalled t)
    (taken : (step t).taken? = some count) : 0 < count ∧ count ≤ t.length := by
  cases found : step t with
  | fail => simp [found, Step.taken?] at taken
  | skip n =>
    obtain rfl : n = count := by simpa [found, Step.taken?] using taken
    obtain ⟨u, rest, rfl⟩ := List.exists_cons_of_ne_nil more
    rcases skipped_of_step found with ⟨_, rfl⟩ | ⟨c, rest, form, rfl, comment, _⟩
    · simp
    · obtain ⟨v, others, rfl, _⟩ := comment.head
      simp [form]
  | token kind value n =>
    obtain rfl : n = count := by simpa [found, Step.taken?] using taken
    obtain ⟨lexeme, rest, rfl, rfl, read, _⟩ := (begins_of_step found).resolve_left moving
    obtain ⟨u, others, rfl, _⟩ := read.head
    simp

/-! ## 2. All steps -/

/-- Where a step is stalled the lexer stays. -/
theorem Visits.stay {t : Text} {n i : Nat} (h : Visits t n i) (stalled : Stalled (t.drop i)) (k : Nat) :
    Visits t (n + k) i := by
  induction h with
  | start t =>
    induction k with
    | zero => exact .start t
    | succ k ih =>
      have more : t ≠ [] := by
        rintro rfl
        obtain ⟨d, rest, form, _⟩ := stalled
        cases form
      have idle : step t = .token .number [] 0 := step_stalled stalled
      have taken : (step t).taken? = some 0 := by rw [idle, Step.taken?]
      exact .next more taken ih
  | next more taken rest ih =>
    rw [List.drop_drop] at ih
    rw [Nat.add_right_comm]
    exact .next more taken (ih stalled)

/-- Where no step is stalled there are at most as many of them as units behind them. -/
theorem Visits.bounds {t : Text} {n i : Nat} (h : Visits t n i)
    (moving : ∀ m j, Visits t m j → ¬ Stalled (t.drop j)) : n ≤ i ∧ i ≤ t.length := by
  induction h with
  | start t => exact ⟨Nat.le_refl 0, Nat.zero_le _⟩
  | @next t count n i more taken rest ih =>
    obtain ⟨some, inside⟩ := taken_pos more (moving 0 0 (.start t)) taken
    have further : ∀ m j, Visits (t.drop count) m j → ¬ Stalled ((t.drop count).drop j) := by
      intro m j visit
      rw [List.drop_drop]
      exact moving _ _ (.next more taken visit)
    obtain ⟨steps, units⟩ := ih further
    rw [List.length_drop] at units
    omega

/-- What the lexer comes to inside the rest of a text it comes to inside the text. -/
theorem Visits.before {t : Text} {count n : Nat} (more : t ≠ [])
    (taken : (step t).taken? = some count)
    (rest : ∃ i < (t.drop count).length, Visits (t.drop count) n i) :
    ∃ i < t.length, Visits t (n + 1) i := by
  obtain ⟨i, inside, visit⟩ := rest
  rw [List.length_drop] at inside
  exact ⟨count + i, by omega, .next more taken visit⟩

section

variable {file : Option Text} {fuel : Nat} {t : Text} {place : Place} {done : List Token} {f : Fault}

/-- A scan that stalls has used up its turns before the end of the text. -/
theorem visits_of_stalled (h : scan file fuel t place done = .error f)
    (stalled : f.cause = .script .stalled) : ∃ i < t.length, Visits t fuel i := by
  fun_induction scan file fuel t place done with
  | case1 => cases h
  | case2 u rest => exact ⟨0, Nat.zero_lt_succ _, .start _⟩
  | case3 fuel u rest place done t count found ih =>
    have taken : (step t).taken? = some count := by rw [found, Step.taken?]
    exact Visits.before (List.cons_ne_nil u rest) taken (ih h)
  | case4 fuel u rest place done t kind value count found behind ih =>
    have taken : (step t).taken? = some count := by rw [found, Step.taken?]
    exact Visits.before (List.cons_ne_nil u rest) taken (ih h)
  | case5 _ _ _ _ _ _ problem _ found =>
    cases h
    cases stalled
    exact (local_of_step found).elim

/-- A scan whose steps are more than its turns stalls. -/
theorem scan_short {n i : Nat} (h : Visits t n i) (short : fuel < n) :
    ∃ f, scan file fuel t place done = .error f ∧ f.cause = .script .stalled := by
  induction h generalizing fuel place done with
  | start => omega
  | @next t count n i more taken rest ih =>
    obtain ⟨u, after, rfl⟩ := List.exists_cons_of_ne_nil more
    cases fuel with
    | zero => exact ⟨_, rfl, rfl⟩
    | succ fuel =>
      rw [scan]
      cases found : step (u :: after) with
      | fail => simp [found, Step.taken?] at taken
      | skip n =>
        obtain rfl : n = count := by simpa [found, Step.taken?] using taken
        exact ih (by omega)
      | token kind value n =>
        obtain rfl : n = count := by simpa [found, Step.taken?] using taken
        exact ih (by omega)

/-- A scan that does not stall does the same with one more turn. -/
theorem scan_succ (moving : ∀ f, scan file fuel t place done = .error f →
    f.cause ≠ .script .stalled) : scan file (fuel + 1) t place done = scan file fuel t place done := by
  fun_induction scan file fuel t place done with
  | case1 => rw [scan]
  | case2 => exact absurd rfl (moving _ rfl)
  | case3 fuel u rest place done t count found ih =>
    rw [scan, found]
    exact ih moving
  | case4 fuel u rest place done t kind value count found behind ih =>
    rw [scan, found]
    exact ih moving
  | case5 _ _ _ _ _ _ problem _ found => rw [scan, found]

/-- And so with any number of turns more. -/
theorem scan_enough (moving : ∀ f, scan file fuel t place done = .error f →
    f.cause ≠ .script .stalled) {more : Nat} (enough : fuel ≤ more) :
    scan file more t place done = scan file fuel t place done := by
  induction more, enough using Nat.le_induction with
  | base => rfl
  | succ more _ ih => rw [scan_succ (ih ▸ moving), ih]

end

/-- Each step of the lexer either fails or takes units that are left, at least one of them, except in
front of two points and a digit, where it takes none. A text that has no such units where a step begins
is read in at most as many steps as it has units: the lexer does not stall, and to allow it more turns
changes nothing. On any other text no number of turns is enough. -/
theorem lexer_advances (source : Text) (file : Option Text) :
    (∀ i < source.length,
      (Stalled (source.drop i) → (step (source.drop i)).taken? = some 0) ∧
      (¬ Stalled (source.drop i) → ∀ count, (step (source.drop i)).taken? = some count →
        i < i + count ∧ i + count ≤ source.length)) ∧
    ((∀ n i, Visits source n i → ¬ Stalled (source.drop i)) →
      (∀ n i, Visits source n i → n ≤ source.length) ∧
      (∀ fuel ≥ source.length, scan file fuel source .start [] = tokenize source file) ∧
      ∀ fault, tokenize source file = .error fault → fault.cause ≠ .script .stalled) ∧
    ∀ n i, Visits source n i → Stalled (source.drop i) → ∀ fuel, ∃ fault,
      scan file fuel source .start [] = .error fault ∧ fault.cause = .script .stalled := by
  refine ⟨fun i inside => ⟨fun stalled => ?_, fun moving count taken => ?_⟩, fun moving => ?_,
    fun n i visit stalled fuel => scan_short (visit.stay stalled (fuel + 1)) (by omega)⟩
  · rw [step_stalled stalled, Step.taken?]
  · have more : source.drop i ≠ [] := List.ne_nil_of_length_pos (by rw [List.length_drop]; omega)
    have units := taken_pos more moving taken
    rw [List.length_drop] at units
    omega
  · have settled : ∀ fault, tokenize source file = .error fault →
        fault.cause ≠ .script .stalled := by
      intro fault failed stalled
      obtain ⟨i, inside, visit⟩ := visits_of_stalled failed stalled
      have steps := (visit.bounds moving).1
      omega
    refine ⟨fun n i visit => ?_, fun fuel enough => scan_enough settled enough, settled⟩
    exact (visit.bounds moving).1.trans (visit.bounds moving).2

/-- Two points and a digit behind a letter, which belong to a word. -/
def dotted : Text := Text.ofString "a..5"

theorem lexer_advances_dotted :
    (0 < dotted.length ∧ Stalled (dotted.drop 1) ∧ ¬ Stalled (dotted.drop 0) ∧
      (step (dotted.drop 0)).taken? = some 4 ∧ 0 < 0 + 4 ∧ 0 + 4 ≤ dotted.length) ∧
    ((∀ n i, Visits dotted n i → ¬ Stalled (dotted.drop i)) ∧
      (∀ n i, Visits dotted n i → n ≤ dotted.length) ∧
      (∀ fuel ≥ dotted.length, scan none fuel dotted .start [] = tokenize dotted none) ∧
      ∀ fault, tokenize dotted none = .error fault → fault.cause ≠ .script .stalled) ∧
    Visits (dotted.drop 1) 0 0 ∧ Stalled ((dotted.drop 1).drop 0) ∧
      ∃ fault, scan none 9 (dotted.drop 1) .start [] = .error fault ∧
        fault.cause = .script .stalled := by
  have stalled : Stalled (dotted.drop 1) := ⟨unit '5', [], rfl, rfl⟩
  have taken : (step dotted).taken? = some 4 := by decide +kernel
  have moving : ¬ Stalled dotted := by
    rintro ⟨d, rest, form, _⟩
    have letter : dotted.head? = some (unit '.') := congrArg List.head? form
    exact absurd letter (by decide)
  have clear : ∀ n i, Visits dotted n i → ¬ Stalled (dotted.drop i) := by
    intro n i visit
    cases visit with
    | start => exact moving
    | next more four rest =>
      obtain rfl : 4 = _ := Option.some.inj (taken.symm.trans four)
      cases rest with
      | start =>
        rintro ⟨d, rest, form, _⟩
        cases form
      | next more => exact absurd rfl more
  obtain ⟨steps, whole, _⟩ := lexer_advances dotted none
  have first := (steps 0 (by decide)).2 moving 4 taken
  have stays := (lexer_advances (dotted.drop 1) none).2.2 0 0 (.start _) stalled 9
  exact ⟨⟨by decide, stalled, moving, taken, first⟩, ⟨clear, whole clear⟩, .start _, stalled, stays⟩

end VisualNovel.Lexer
