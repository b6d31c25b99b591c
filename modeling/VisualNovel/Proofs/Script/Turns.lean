import VisualNovel.Proofs.Script.Steady

/-!
Reading comes to an end.

Every repetition in the reading of a script is given a number of turns. That number is no part of what
is read: where it is greater than the number of tokens that are left, a repetition ends before it has
used up its turns, and it would do the same with any more of them (`Settles`). For that, a repetition
that has not stalled does the same with one more turn (`Outlasts`), and none stalls with so many turns
because each turn takes a token (`Moves`).

`statements_advance` says this of all repetitions, over any tokens at all: of the statements of files
and of blocks, of modifiers, options, fields and settings, and of the runs of numbers and words. It
says of one statement, with all blocks within it, that it fails or takes a token where there is one,
and that the cursor does not get past the last of them either way.
-/

namespace VisualNovel

/-! ## 1. One more turn -/

/-- The second step does what the first one does, unless the first one stalls. -/
def Outlasts {σ α : Type} (m n : EStateM Fault σ α) : Prop :=
  ∀ s, (∀ f t, m s = .error f t → f.cause ≠ .script .stalled) → n s = m s

namespace Outlasts

variable {σ α β : Type}

theorem refl (m : EStateM Fault σ α) : Outlasts m m := fun _ _ => rfl

theorem bind {m n : EStateM Fault σ α} {p q : α → EStateM Fault σ β} (first : Outlasts m n)
    (second : ∀ a, Outlasts (p a) (q a)) : Outlasts (m >>= p) (n >>= q) := by
  intro s moving
  have same : n s = m s := by
    refine first s fun f t failed => moving f t ?_
    rw [run_bind_error failed]
  rw [run_bind, run_bind, same]
  cases ran : m s with
  | error f t => rfl
  | ok a t =>
    refine second a t fun f u failed => moving f u ?_
    rw [run_bind_ok ran, failed]

theorem stalled {n : EStateM Fault σ α} {m : EStateM Fault σ α}
    (stalls : ∀ s, ∃ f t, m s = .error f t ∧ f.cause = .script .stalled) : Outlasts m n := by
  intro s moving
  obtain ⟨f, t, failed, cause⟩ := stalls s
  exact absurd cause (moving f t failed)

theorem ite {p : Prop} [Decidable p] {m n m' n' : EStateM Fault σ α} (yes : Outlasts m n)
    (no : Outlasts m' n') : Outlasts (if p then m else m') (if p then n else n') := by
  split
  · exact yes
  · exact no

theorem congruence : Builder.Congruence fun m n => Outlasts m n := ⟨refl, bind⟩

theorem repeatUntil (done : Cursor → Bool) (step : σ → Reader σ) (fuel : Nat) (s : σ) :
    Outlasts (Reader.repeatUntil done step fuel s) (Reader.repeatUntil done step (fuel + 1) s) := by
  induction fuel generalizing s with
  | zero => exact stalled fun c => ⟨_, c, rfl, rfl⟩
  | succ fuel ih => exact (refl _).bind fun _ => ite (refl _) ((refl _).bind ih)

/-- A statement whose blocks outlast those of another. -/
theorem one (files : FileTree) {body body' : Builder Unit} (inside : Outlasts body body') :
    Outlasts (Statement.one files (Statement.inBraces body))
      (Statement.one files (Statement.inBraces body')) :=
  Statement.matches_one congruence (fun _ => refl (Builder.resolveScript files _))
    (Statement.matches_inBraces congruence inside)

theorem inBlock (files : FileTree) (fuel : Nat) :
    Outlasts (Statement.inBlock files fuel) (Statement.inBlock files (fuel + 1)) := by
  induction fuel with
  | zero => exact stalled fun d => ⟨_, d, rfl, rfl⟩
  | succ fuel ih =>
    have turn := (one files ih).bind fun _ => ih
    exact (refl _).bind fun _ => ite (refl _) <| (refl _).bind fun _ =>
      ite ((refl _).bind fun _ => turn) turn

theorem inFile (files : FileTree) (fuel : Nat) :
    Outlasts (Statement.inFile files fuel) (Statement.inFile files (fuel + 1)) := by
  induction fuel with
  | zero => exact stalled fun d => ⟨_, d, rfl, rfl⟩
  | succ fuel ih =>
    have turn := (one files (inBlock files fuel)).bind fun _ => ih
    exact (refl _).bind fun _ => ite (refl _) <| (refl _).bind fun _ =>
      ite ((refl _).bind fun _ => turn) turn

end Outlasts

/-! ## 2. Enough turns -/

theorem Fault.Local.moving {f : Fault} (own : f.Local) : f.cause ≠ .script .stalled := by
  obtain ⟨problem, cause, other⟩ := own
  rw [cause]
  rintro ⟨⟩
  exact other

/-- A repetition comes to an end where it begins in a state: the whole of it takes no token that is not
there and fails for problems of its own only, and it is what any number of turns gives that is greater
than the number of tokens left. -/
structure Settles {σ α : Type} (view : σ → Cursor) (turns : Nat → EStateM Fault σ α)
    (whole : EStateM Fault σ α) (s : σ) : Prop where
  ends : MovesAt view s 0 whole fun _ => True
  enough : ∀ fuel, (view s).left < fuel → turns fuel s = whole s

theorem Settles.of_moves {σ α : Type} {view : σ → Cursor} {turns : Nat → EStateM Fault σ α} {s : σ}
    (outlasts : ∀ fuel, Outlasts (turns fuel) (turns (fuel + 1)))
    (moves : ∀ fuel, (view s).left < fuel → MovesAt view s 0 (turns fuel) fun _ => True) :
    Settles view turns (turns ((view s).left + 1)) s := by
  refine ⟨moves _ (Nat.lt_succ_self _), fun fuel more => ?_⟩
  induction fuel, more using Nat.le_induction with
  | base => rfl
  | succ fuel more ih =>
    refine (outlasts fuel s fun f t failed => ?_).trans ih
    have ended := moves fuel more
    unfold MovesAt Ends at ended
    rw [failed] at ended
    exact ended.1.moving

/-- A repetition in the reading of statements comes to an end wherever it begins. -/
def Reader.Repeats {σ : Type} (done : Cursor → Bool) (step : σ → Reader σ) : Prop :=
  ∀ s c, Settles id (fun fuel => repeatUntil done step fuel s) (gather done step s) c

theorem Reader.Repeats.of_moves {σ : Type} {done : Cursor → Bool} {step : σ → Reader σ}
    (moves : ∀ k s, Moves id k 1 (step s) fun _ => True) : Repeats done step := by
  intro s c
  have settled := Settles.of_moves (s := c) (Outlasts.repeatUntil done step · s)
    fun fuel more => Moves.repeatUntil moves more s c (Nat.le_refl _)
  exact ⟨settled.ends, settled.enough⟩

/-- The repetition within a run of tokens of one kind comes to an end (`Reader.run`). -/
def Reader.Runs {α : Type} (kind : TokenKind) (step : Reader α) : Prop :=
  Repeats (·.kind != some kind) fun taken : List α => do return (← step) :: taken

theorem Reader.Runs.of_moves {α : Type} {kind : TokenKind} {step : Reader α} {Q : α → Prop}
    (moves : ∀ k, Moves id k 1 step Q) : Runs kind step :=
  Repeats.of_moves fun k _ => (moves k).first fun _ => .pure trivial

/-! ## 3. All repetitions -/

/-- A cursor that has fewer tokens left stands further on. -/
theorem Cursor.Moved.index_lt {n : Nat} {c c' : Cursor} (moved : c.Moved (n + 1) c') :
    c.index < c'.index := by
  have fewer := moved.fewer
  simp only [Cursor.left, moved.tokens] at fewer
  omega

namespace Statement

open Reader

/-- A statement, with the blocks within it, takes a token where there is one. -/
theorem one_advances (files : FileTree) {d : Draft} {fuel : Nat} (enough : d.cursor.left ≤ fuel) :
    Ends (one files (inBraces (inBlock files fuel))) d
      (fun _ e => d.cursor.Stays e.cursor ∧
        if d.cursor.atEnd then e = d else d.cursor.index < e.cursor.index)
      fun f e => f.cause ≠ .script .stalled ∧ d.cursor.Stays e.cursor := by
  cases more : d.cursor.atEnd with
  | true =>
    have none : d.cursor.peek = none := by
      simpa [Cursor.atEnd, Cursor.peek] using more
    unfold Ends one
    rw [run_bind_ok (show Builder.look Cursor.peek d = .ok d.cursor.peek d from rfl), none]
    exact ⟨.refl _, rfl⟩
  | false =>
    have inner : Moves Draft.cursor (d.cursor.left - 1) 0 (inBlock files fuel) fun _ => True := by
      have some := Cursor.left_pos more
      exact moves_inBlock (by omega)
    have taken : MovesAt Draft.cursor d 1 (one files (inBraces (inBlock files fuel))) fun _ => True :=
      moves_one (moves_inBraces inner) (Nat.le_refl _) more
    exact taken.mono (fun _ e moved => ⟨moved.1.toStays, moved.1.index_lt⟩)
      fun f e own => ⟨own.1.moving, own.2⟩

/-- Over any tokens, a statement takes one of them or fails, and every repetition comes to an end. -/
theorem statements_advance (files : FileTree) :
    (∀ (d : Draft) (fuel : Nat), d.cursor.left ≤ fuel →
      Ends (one files (inBraces (inBlock files fuel))) d
        (fun _ e => d.cursor.Stays e.cursor ∧
          if d.cursor.atEnd then e = d else d.cursor.index < e.cursor.index)
        fun f e => f.cause ≠ .script .stalled ∧ d.cursor.Stays e.cursor) ∧
    (∀ d : Draft,
      Settles Draft.cursor (inFile files) (inFile files (d.cursor.left + 1)) d ∧
      Settles Draft.cursor (inBlock files) (inBlock files (d.cursor.left + 1)) d) ∧
    (∀ domain, Repeats Cursor.atStatementEnd (Modifiers.step domain)) ∧
    Repeats (fun c => !moreOptions c) anotherOption ∧
    Repeats (·.kind == some .rbrace) characterField ∧
    Repeats Cursor.atStatementEnd itemSetting ∧
    Repeats Cursor.atStatementEnd videoSetting ∧
    (∀ what, Runs .number (expectNumber what)) ∧
    (∀ what, Runs .word (expectWord what)) ∧
    Runs .word anchorWord := by
  refine ⟨fun d fuel => one_advances files, fun d => ⟨?file, ?block⟩, ?_⟩
  case file =>
    exact .of_moves (Outlasts.inFile files) fun fuel more => moves_inFile more d (Nat.le_refl _)
  case block =>
    exact .of_moves (Outlasts.inBlock files) fun fuel more => moves_inBlock more d (Nat.le_refl _)
  exact ⟨fun domain => .of_moves fun _ => moves_modifier domain,
    .of_moves fun _ => moves_anotherOption, .of_moves fun _ => moves_characterField,
    .of_moves fun _ => moves_itemSetting, .of_moves fun _ => moves_videoSetting,
    fun what => .of_moves fun _ => Moves.expectNumber what,
    fun what => .of_moves fun _ => Moves.expectWord what,
    .of_moves fun _ => moves_anchorWord⟩

/-- A check whose block is not closed. -/
def unclosed : Draft where
  cursor.file := "a"
  cursor.tokens :=
    #[⟨.word, "check", span⟩, ⟨.word, "a", span⟩, ⟨.op, "==", span⟩, ⟨.string, "b", span⟩,
      ⟨.lbrace, inQuotes "\x7b", span⟩, ⟨.word, "gc", span⟩, ⟨.semi, ";", span⟩]
  counter := .nth 0
where span : Span := ⟨.start, .start⟩

theorem statements_advance_unclosed :
    unclosed.cursor.left ≤ 7 ∧
    (Ends (one {} (inBraces (inBlock {} 7))) unclosed
      (fun _ e => unclosed.cursor.Stays e.cursor ∧
        if unclosed.cursor.atEnd then e = unclosed else unclosed.cursor.index < e.cursor.index)
      fun f e => f.cause ≠ .script .stalled ∧ unclosed.cursor.Stays e.cursor) ∧
    (unclosed.cursor.left < 20 ∧ inFile {} 20 unclosed = inFile {} 8 unclosed) ∧
    ∃ f e, one {} (inBraces (inBlock {} 7)) unclosed = .error f e ∧
      f.cause = .script .openBlock ∧ e.cursor.index = 7 := by
  have few : unclosed.cursor.left ≤ 7 := by decide
  have more : unclosed.cursor.left < 20 := by decide
  obtain ⟨taken, settled, _⟩ := statements_advance {}
  obtain ⟨f, e, failed, refusal⟩ := exists_failure (m := one {} (inBraces (inBlock {} 7)))
    (s := unclosed) (f := fun f e => (f.cause, e.cursor.index))
    (b := (.script .openBlock, 7)) (by decide +kernel)
  obtain ⟨cause, index⟩ := Prod.mk.inj refusal
  exact ⟨few, taken unclosed 7 few, ⟨more, (settled unclosed).1.enough 20 more⟩,
    f, e, failed, cause, index⟩

end Statement

end VisualNovel
