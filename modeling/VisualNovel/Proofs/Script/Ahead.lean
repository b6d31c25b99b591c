import VisualNovel.Proofs.Script.Printing
import VisualNovel.Proofs.Stateful
import VisualNovel.Script.Statement

/-!
Reading without places.

What a reader makes of a script depends on the kinds and values of the tokens that are left, and not
on where in the text they stand. `Cursor.ahead` is what is left to read, `Takes` says which tokens a
reader takes and what it makes of them, and `Concur` that two readers do the same wherever they find
the same in front of them: give values that are related, or fail for causes of the same name.
-/

namespace VisualNovel

open Lexer (content)

/-! ## 1. What is left to read -/

namespace Cursor

/-- The kinds and values of the tokens that are left to read. -/
def ahead (c : Cursor) : List (TokenKind × Text) := (c.tokens.toList.drop c.index).map content

/-- The cursor behind the next token. -/
def moved (c : Cursor) : Cursor := { c with index := c.index + 1 }

theorem ahead_moved (c : Cursor) : c.moved.ahead = c.ahead.tail := by
  simp [ahead, moved, List.tail_drop]

theorem length_ahead (c : Cursor) : c.ahead.length = c.tokens.size - c.index := by
  simp [ahead]

theorem kindAhead_eq (c : Cursor) (n : Nat) : c.kindAhead n = (c.ahead[n]?).map (·.1) := by
  simp [kindAhead, ahead, content, Function.comp_def]

theorem peek_content (c : Cursor) : c.peek.map content = c.ahead.head? := by
  simp [peek, ahead, List.head?_drop]

/-- The next token by its kind and value. -/
theorem peek_of_ahead {c : Cursor} {lexeme : TokenKind × Text} {rest : List (TokenKind × Text)}
    (h : c.ahead = lexeme :: rest) :
    ∃ token, c.peek = some token ∧ content token = lexeme ∧ c.moved.ahead = rest := by
  have head := c.peek_content
  rw [h, List.head?_cons] at head
  obtain ⟨token, found, same⟩ := Option.map_eq_some_iff.mp head
  exact ⟨token, found, same, by rw [ahead_moved, h, List.tail_cons]⟩

/-- Whether a word is next, by what is ahead. -/
theorem isWord_iff {c : Cursor} {word : Text} :
    c.isWord word = true ↔ c.ahead.head? = some (.word, word) := by
  rw [← peek_content, isWord]
  generalize c.peek = next
  cases next with
  | none => simp [isWordToken]
  | some token => simp [isWordToken, content, @eq_comm _ word]

/-- What a question about the next tokens says of two cursors with the same tokens ahead. -/
def Sees {α : Type} (f : Cursor → α) : Prop := ∀ c c' : Cursor, c.ahead = c'.ahead → f c = f c'

theorem sees_kindAhead (n : Nat) : Sees (kindAhead · n) := fun c c' same => by
  simp only [kindAhead_eq, same]

theorem sees_atStatementEnd : Sees atStatementEnd := fun c c' same => by
  have next : c.kind = c'.kind := sees_kindAhead 0 c c' same
  rw [atStatementEnd, atStatementEnd, next]

theorem sees_atExpression : Sees Statement.atExpression := fun c c' same => by
  have next : c.peek.map content = c'.peek.map content := by rw [peek_content, peek_content, same]
  have second := sees_kindAhead 1 c c' same
  unfold Statement.atExpression
  cases h : c.peek with
  | none =>
    rw [h] at next
    rw [Option.map_eq_none_iff.mp next.symm]
  | some token =>
    rw [h] at next
    obtain ⟨token', h', contents⟩ := Option.map_eq_some_iff.mp next.symm
    obtain ⟨kind, value⟩ := Prod.mk.inj contents
    simp only [h', kind, value, second]

end Cursor

/-! ## 2. What a reader takes -/

namespace Reader

variable {α β σ : Type}

/-- The number that a numeral spells. -/
def numberIn (numeral : Text) : Float := (Number.ofNumeral? numeral).getD 0.0

/-- Where the given tokens are ahead, the reader takes them and makes this of them. -/
def Takes (r : Reader α) (lexemes : List (TokenKind × Text)) (a : α) : Prop :=
  ∀ c rest, c.ahead = lexemes ++ rest → ∃ d, r c = .ok a d ∧ d.ahead = rest

namespace Takes

variable {r : Reader α} {front back : List (TokenKind × Text)} {a : α} {b : β}

protected theorem pure : Takes (pure a : Reader α) [] a := fun c _ h => ⟨c, rfl, h⟩

protected theorem bind {f : α → Reader β} (first : Takes r front a) (second : Takes (f a) back b) :
    Takes (r >>= f) (front ++ back) b := by
  intro c rest h
  obtain ⟨d, here, left⟩ := first c (back ++ rest) (by rw [h, List.append_assoc])
  obtain ⟨e, there, last⟩ := second d rest left
  exact ⟨e, by rw [run_bind_ok here, there], last⟩

/-- A look at tokens that are known. -/
theorem look {f : Cursor → α} {g : α → Reader β} {lexemes : List (TokenKind × Text)}
    (seen : ∀ c rest, c.ahead = lexemes ++ rest → f c = a) (then_ : Takes (g a) lexemes b) :
    Takes (Reader.look f >>= g) lexemes b := by
  intro c rest h
  rw [run_bind_ok (show Reader.look f c = .ok a c by rw [Reader.look, seen c rest h])]
  exact then_ c rest h

theorem next {kind : TokenKind} {value : Text} {f : Token → Reader β}
    (behind : ∀ token, token.kind = kind → token.value = value → Takes (f token) back b) :
    Takes (Reader.next >>= f) ((kind, value) :: back) b := by
  intro c rest h
  obtain ⟨token, peek, same, left⟩ := Cursor.peek_of_ahead h
  have taken : Reader.next c = .ok token c.moved := by
    simp only [Reader.next, run_bind, Reader.look, peek]
    rfl
  obtain ⟨d, there, last⟩ := behind token (congrArg Prod.fst same) (congrArg Prod.snd same)
    c.moved rest left
  exact ⟨d, by rw [run_bind_ok taken, there], last⟩

theorem expect {kind : TokenKind} {value what : Text} {f : Token → Reader β}
    (behind : ∀ token, token.value = value → Takes (f token) back b) :
    Takes (Reader.expect kind what >>= f) ((kind, value) :: back) b := by
  intro c rest h
  obtain ⟨token, peek, same, left⟩ := Cursor.peek_of_ahead h
  have taken : Reader.expect kind what c = .ok token c.moved := by
    simp only [Reader.expect, run_bind, Reader.look, peek,
      show token.kind = kind from congrArg Prod.fst same, ↓reduceIte]
    rfl
  obtain ⟨d, there, last⟩ := behind token (congrArg Prod.snd same) c.moved rest left
  exact ⟨d, by rw [run_bind_ok taken, there], last⟩

theorem expectWord (what word : Text) : Takes (Reader.expectWord what) [(.word, word)] word :=
  .expect fun _ value => value ▸ .pure

theorem expectString (what value : Text) :
    Takes (Reader.expectString what) [(.string, value)] value :=
  .expect fun _ same => same ▸ .pure

theorem expectNumber (what numeral : Text) :
    Takes (Reader.expectNumber what) [(.number, numeral)] (numberIn numeral) :=
  .expect fun _ value => value ▸ .pure

theorem expectInt (what : Text) {numeral : Text} (whole : Number.isWhole (numberIn numeral)) :
    Takes (Reader.expectInt what) [(.number, numeral)] (numberIn numeral) :=
  .expect fun token value => by
    subst value
    rw [show Reader.numberOf token = numberIn token.value from rfl, if_pos whole]
    exact .pure

theorem point (first second x y : Text) :
    Takes (Reader.point first second) [(.number, x), (.number, y)] ⟨numberIn x, numberIn y⟩ :=
  (expectNumber first x).bind ((expectNumber second y).bind .pure)

theorem oneOf {word : Text} {vocabulary : List (Text × α)} {domain : Text} {span : Span}
    (found : vocabulary.lookup word = some a) :
    Takes (Reader.oneOf word vocabulary domain span) [] a := by
  rw [Reader.oneOf, found]
  exact .pure

theorem expectOneOf {what word : Text} {vocabulary : List (Text × α)} {domain : Text}
    (found : vocabulary.lookup word = some a) :
    Takes (Reader.expectOneOf what vocabulary domain) [(.word, word)] a :=
  .expect fun _ value => .oneOf (value ▸ found)

theorem color (what : Text) {kind : TokenKind} {value : Text}
    (colored : kind ∈ [TokenKind.color, .string, .word]) :
    Takes (Reader.color what) [(kind, value)] value :=
  .next fun token same text => by
    subst same text
    simp only [List.mem_cons, List.not_mem_nil, or_false] at colored
    rcases colored with same | same | same <;> rw [same] <;> exact .pure

end Takes
end Reader

/-! ## 3. Readers that do not see places -/

/-- Two results that differ in places only: values that are related and the same tokens ahead, or
causes of the same name. -/
def Alike {α : Type} (R : α → α → Prop) :
    EStateM.Result Fault Cursor α → EStateM.Result Fault Cursor α → Prop
  | .ok a c, .ok a' c' => R a a' ∧ c.ahead = c'.ahead
  | .error f _, .error f' _ => f.cause.code = f'.cause.code
  | _, _ => False

theorem Alike.bind {α β : Type} {R : α → α → Prop} {S : β → β → Prop} {r r' : Reader α}
    {f f' : α → Reader β} {c c' : Cursor} (first : Alike R (r c) (r' c'))
    (second : ∀ a a', R a a' → ∀ d d', d.ahead = d'.ahead → Alike S (f a d) (f' a' d')) :
    Alike S ((r >>= f) c) ((r' >>= f') c') := by
  rw [run_bind, run_bind]
  cases h : r c <;> cases h' : r' c' <;> rw [h, h'] at first
  case ok.ok a d a' d' => exact second a a' first.1 d d' first.2
  case error.error => exact first
  all_goals exact first.elim

namespace Reader

variable {α β σ : Type}

/-- Two readers do the same wherever the same tokens are ahead. -/
def Concur (R : α → α → Prop) (r r' : Reader α) : Prop :=
  ∀ c c' : Cursor, c.ahead = c'.ahead → Alike R (r c) (r' c')

namespace Concur

variable {R : α → α → Prop} {S : β → β → Prop} {r r' : Reader α}

protected theorem pure {a a' : α} (h : R a a') : Concur R (pure a) (pure a') := fun _ _ same =>
  ⟨h, same⟩

protected theorem bind {f f' : α → Reader β} (first : Concur R r r')
    (second : ∀ a a', R a a' → Concur S (f a) (f' a')) : Concur S (r >>= f) (r' >>= f') :=
  fun c c' same => (first c c' same).bind second

theorem bind_eq {f f' : α → Reader β} (first : Concur Eq r r')
    (second : ∀ a, Concur S (f a) (f' a)) : Concur S (r >>= f) (r' >>= f') :=
  first.bind fun a _ same => same ▸ second a

theorem ite {p p' : Prop} [Decidable p] [Decidable p'] {s s' : Reader α} (same : p ↔ p')
    (yes : Concur R r r') (no : Concur R s s') :
    Concur R (if p then r else s) (if p' then r' else s') := by
  by_cases h : p
  · rw [if_pos h, if_pos (same.mp h)]
    exact yes
  · rw [if_neg h, if_neg fun h' => h (same.mpr h')]
    exact no

theorem fail (problem : ScriptProblem) : Concur R (Reader.fail problem) (Reader.fail problem) :=
  fun _ _ _ => rfl

theorem failAt (problem problem' : ScriptProblem) (same : problem.code = problem'.code)
    (span span' : Span) :
    Concur R (Reader.failAt problem span) (Reader.failAt problem' span') := fun _ _ _ => same

theorem look {f : Cursor → α} (sees : Cursor.Sees f) :
    Concur Eq (Reader.look f) (Reader.look f) := fun c c' same => ⟨sees c c' same, same⟩

theorem peek : Concur (fun t t' => t.map content = t'.map content) (Reader.look Cursor.peek)
    (Reader.look Cursor.peek) := fun c c' same =>
  ⟨show c.peek.map content = c'.peek.map content by
    rw [Cursor.peek_content, Cursor.peek_content, same], same⟩

theorem skip : Concur Eq Reader.skip Reader.skip := fun c c' same =>
  ⟨rfl, show c.moved.ahead = c'.moved.ahead by rw [Cursor.ahead_moved, Cursor.ahead_moved, same]⟩

theorem next : Concur (fun t t' => content t = content t') Reader.next Reader.next :=
  peek.bind fun token token' same => by
    cases token with
    | none => cases token' with
      | none => exact fail _
      | some _ => cases same
    | some token => cases token' with
      | none => cases same
      | some token' => exact skip.bind fun _ _ _ => .pure (Option.some.inj same)

theorem expect (kind : TokenKind) (what : Text) :
    Concur (fun t t' => content t = content t') (Reader.expect kind what)
      (Reader.expect kind what) :=
  peek.bind fun token token' same => by
    cases token with
    | none => cases token' with
      | none => exact fail _
      | some _ => cases same
    | some token => cases token' with
      | none => cases same
      | some token' =>
        have contents := Option.some.inj same
        have kinds : token.kind = token'.kind := congrArg Prod.fst contents
        exact .ite (by rw [kinds]) (skip.bind fun _ _ _ => .pure contents) fun _ _ _ => rfl

theorem expectWord (what : Text) : Concur Eq (Reader.expectWord what) (Reader.expectWord what) :=
  (expect _ _).bind fun _ _ same => .pure (congrArg Prod.snd same)

theorem expectNumber (what : Text) :
    Concur Eq (Reader.expectNumber what) (Reader.expectNumber what) :=
  (expect _ _).bind fun _ _ same => .pure (congrArg numberIn (congrArg Prod.snd same))

theorem expectInt (what : Text) : Concur Eq (Reader.expectInt what) (Reader.expectInt what) :=
  (expect _ _).bind fun _ _ same => by
    have number := congrArg numberIn (congrArg Prod.snd same)
    exact .ite (Eq.to_iff (congrArg (Number.isWhole · = true) number)) (.pure number)
      fun _ _ _ => rfl

theorem point (first second : Text) :
    Concur Eq (Reader.point first second) (Reader.point first second) :=
  (expectNumber _).bind_eq fun _ => (expectNumber _).bind_eq fun _ => .pure rfl

theorem oneOf (word : Text) (vocabulary : List (Text × α)) (domain : Text) (span span' : Span) :
    Concur Eq (Reader.oneOf word vocabulary domain span)
      (Reader.oneOf word vocabulary domain span') := by
  unfold Reader.oneOf
  split
  · exact .pure rfl
  · exact failAt _ _ rfl _ _

theorem endStatement : Concur Eq Reader.endStatement Reader.endStatement :=
  (expect _ _).bind fun _ _ _ => .pure rfl

theorem ending (a : α) :
    Concur Eq (Reader.endStatement >>= fun _ => Pure.pure a)
      (Reader.endStatement >>= fun _ => Pure.pure a) :=
  endStatement.bind_eq fun _ => .pure rfl

theorem repeatUntil {done : Cursor → Bool} (sees : Cursor.Sees done) {step : σ → Reader σ}
    (steps : ∀ s, Concur Eq (step s) (step s)) (fuel : Nat) (s : σ) :
    Concur Eq (Reader.repeatUntil done step fuel s) (Reader.repeatUntil done step fuel s) := by
  induction fuel generalizing s with
  | zero => exact fail _
  | succ fuel ih =>
    exact (look sees).bind_eq fun _ => .ite Iff.rfl (.pure rfl) ((steps s).bind_eq ih)

end Concur
end Reader

end VisualNovel
