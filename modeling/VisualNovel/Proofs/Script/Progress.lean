import VisualNovel.Proofs.Stateful
import VisualNovel.Proofs.Table
import VisualNovel.Script.Program

/-!
Reading moves on.

Statements are repeated, and so are the parts of some statements. Each repetition is bounded by the
number of tokens that are left, which is enough as long as every turn takes a token. `Moves k n m`
says that the step `m` takes `n` tokens at least and that it does not stall where `k` tokens at most
are left; whether it succeeds or fails, the tokens stay what they are and the cursor does not get past
the last of them. A repetition takes over with one token less than the turn before it found, so the
bound goes down along with its turns (`Moves.repeatUntil`, `Statement.moves_inBlock`). There is one
such statement for each reader, and those of the plain statements say as well that what they read is
not a label.
-/

namespace VisualNovel

/-- The number of tokens that are left. -/
def Cursor.left (c : Cursor) : Nat := c.tokens.size - c.index

theorem Cursor.left_pos {c : Cursor} (more : c.atEnd = false) : 0 < c.left := by
  have inside : c.index < c.tokens.size := by simpa [Cursor.atEnd] using more
  simp only [Cursor.left]
  omega

/-- A later cursor over the same tokens: it stands behind the last of them at most. -/
structure Cursor.Stays (c c' : Cursor) : Prop where
  tokens : c'.tokens = c.tokens
  inside : c.index ≤ c.tokens.size → c'.index ≤ c.tokens.size

/-- A later cursor that has taken a number of tokens at least. -/
structure Cursor.Moved (n : Nat) (c c' : Cursor) : Prop extends Cursor.Stays c c' where
  fewer : c'.left + n ≤ c.left

theorem Cursor.Stays.refl (c : Cursor) : c.Stays c := ⟨rfl, id⟩

theorem Cursor.Stays.trans {c c' c'' : Cursor} (h : c.Stays c') (h' : c'.Stays c'') : c.Stays c'' := by
  refine ⟨h'.tokens.trans h.tokens, fun start => ?_⟩
  have middle := h.inside start
  rw [← h.tokens] at middle ⊢
  exact h'.inside middle

theorem Cursor.Moved.refl (c : Cursor) : c.Moved 0 c := ⟨.refl c, Nat.le_refl _⟩

theorem Cursor.Moved.trans {n n' : Nat} {c c' c'' : Cursor} (h : c.Moved n c') (h' : c'.Moved n' c'') :
    c.Moved (n + n') c'' := by
  refine ⟨h.toStays.trans h'.toStays, ?_⟩
  have first := h.fewer
  have second := h'.fewer
  omega

theorem Cursor.Moved.weaken {n n' : Nat} {c c' : Cursor} (h : c.Moved n c') (less : n' ≤ n) :
    c.Moved n' c' :=
  ⟨h.toStays, Nat.le_trans (Nat.add_le_add_left less _) h.fewer⟩

/-- A problem that the statements of a file can have: no repetition used up its turns, and what
other files include does not matter. -/
def ScriptProblem.Local : ScriptProblem → Prop
  | .stalled => False
  | .includeCycle _ => False
  | _ => True

def Fault.Local (f : Fault) : Prop := ∃ problem, f.cause = .script problem ∧ problem.Local

/-- The command marks no place in the script. -/
def Command.NoLabel (c : Command) : Prop := ∀ name, c ≠ .label name

/-- A step that succeeds takes `n` tokens at least and its value has the property, and one that fails
has a problem of its own. -/
def MovesAt {σ α : Type} (view : σ → Cursor) (s : σ) (n : Nat) (m : EStateM Fault σ α)
    (Q : α → Prop) : Prop :=
  Ends m s (fun a t => (view s).Moved n (view t) ∧ Q a) fun f t => f.Local ∧ (view s).Stays (view t)

/-- The same wherever `k` tokens at most are left. -/
def Moves {σ α : Type} (view : σ → Cursor) (k n : Nat) (m : EStateM Fault σ α) (Q : α → Prop) :
    Prop :=
  ∀ s, (view s).left ≤ k → MovesAt view s n m Q

namespace MovesAt

variable {σ α β : Type} {view : σ → Cursor} {s : σ} {n n' : Nat} {m m' : EStateM Fault σ α}
variable {f : α → EStateM Fault σ β} {Q : α → Prop} {R : β → Prop}

/-- A second step begins where the first one ends. -/
theorem bind (hm : MovesAt view s n m Q)
    (hf : ∀ a t, (view s).Moved n (view t) → Q a → MovesAt view t n' (f a) R) :
    MovesAt view s (n + n') (m >>= f) R := by
  refine Ends.bind hm fun a t ⟨moved, value⟩ => ?_
  refine (hf a t moved value).mono (fun b u ⟨further, result⟩ => ⟨moved.trans further, result⟩) ?_
  exact fun f u ⟨fault, stays⟩ => ⟨fault, moved.toStays.trans stays⟩

theorem weaken (hm : MovesAt view s n m Q) (less : n' ≤ n) : MovesAt view s n' m Q :=
  hm.mono (fun _ _ ⟨moved, value⟩ => ⟨moved.weaken less, value⟩) fun _ _ h => h

theorem ite {p : Prop} [Decidable p] (hm : p → MovesAt view s n m Q)
    (hm' : ¬ p → MovesAt view s n m' Q) : MovesAt view s n (if p then m else m') Q :=
  Ends.ite hm hm'

end MovesAt

namespace Moves

variable {σ α β : Type} {view : σ → Cursor} {k n n' : Nat} {m : EStateM Fault σ α}
variable {f : α → EStateM Fault σ β} {Q P : α → Prop} {R : β → Prop}

/-! ## 1. Steps in a row -/

theorem pure {a : α} (h : Q a) : Moves view k 0 (Pure.pure a) Q :=
  fun _ _ => ends_pure.mpr ⟨.refl _, h⟩

/-- The second step finds fewer tokens, by as many as the first one takes. -/
theorem bind (hm : Moves view k n m Q) (hf : ∀ a, Q a → Moves view (k - n) n' (f a) R) :
    Moves view k (n + n') (m >>= f) R := by
  intro s bound
  refine (hm s bound).bind fun a t moved value => hf a value t ?_
  have fewer := moved.fewer
  omega

/-- Fewer tokens may be left, and fewer of them need be taken. -/
theorem weaken (hm : Moves view k n m Q) {k' n' : Nat} (fewer : k' ≤ k) (less : n' ≤ n) :
    Moves view k' n' m Q :=
  fun s bound => (hm s (Nat.le_trans bound fewer)).weaken less

/-- What the second step takes. -/
theorem before (hm : Moves view k n' m Q) (hf : ∀ a, Moves view k n (f a) R) :
    Moves view k n (m >>= f) R :=
  (hm.bind fun a _ => (hf a).weaken (Nat.sub_le k n') (Nat.le_refl n)).weaken (Nat.le_refl k)
    (Nat.le_add_left n n')

/-- What the first step takes. -/
theorem first (hm : Moves view k n m Q) (hf : ∀ a, Moves view k n' (f a) R) :
    Moves view k n (m >>= f) R :=
  (hm.bind fun a _ => (hf a).weaken (Nat.sub_le k n) (Nat.le_refl n')).weaken (Nat.le_refl k)
    (Nat.le_add_right n n')

theorem map {g : α → β} (hm : Moves view k n m Q) : Moves view k n (g <$> m) fun _ => True := by
  rw [map_eq_pure_bind]
  exact hm.first fun _ => .pure trivial

theorem pure_bind {a : α} (h : Moves view k n (f a) R) : Moves view k n (Pure.pure a >>= f) R := h

theorem ite {p : Prop} [Decidable p] {m' : EStateM Fault σ α} (hm : Moves view k n m Q)
    (hm' : Moves view k n m' Q) : Moves view k n (if p then m else m') Q := by
  split
  · exact hm
  · exact hm'

end Moves

/-! ## 2. Reading with a cursor -/

namespace Moves

open Reader

variable {α β σ : Type} {k n n' : Nat} {r : Reader α} {Q : α → Prop} {R : β → Prop}

/-- What a reader gives, whatever it reads. -/
theorem value (hr : ∀ k, Moves id k n r Q) {c c' : Cursor} {a : α} (h : r c = .ok a c') : Q a :=
  ((hr c.left c (Nat.le_refl _)).of_ok h).2

theorem look (f : Cursor → α) : Moves id k 0 (Reader.look f) fun _ => True :=
  fun _ _ => ⟨.refl _, trivial⟩

theorem failAt {problem : ScriptProblem} (span : Span) (other : problem.Local) :
    Moves id k n (Reader.failAt problem span : Reader α) Q := by
  intro c _
  exact ⟨⟨problem, rfl, other⟩, .refl c⟩

theorem fail {problem : ScriptProblem} (other : problem.Local) :
    Moves id k n (Reader.fail problem : Reader α) Q := by
  intro c _
  exact ⟨⟨problem, rfl, other⟩, .refl c⟩

theorem fail_bind {problem : ScriptProblem} (f : α → Reader β) (other : problem.Local) :
    Moves id k n (Reader.fail problem >>= f) R := by
  intro c _
  exact ⟨⟨problem, rfl, other⟩, .refl c⟩

/-- A token that is there can be taken. -/
theorem skipped {c : Cursor} {token : Token} (here : c.peek = some token) :
    c.Moved 1 { c with index := c.index + 1 } := by
  have inside : c.index < c.tokens.size := (Array.getElem?_eq_some_iff.mp here).1
  refine ⟨⟨rfl, fun _ => inside⟩, ?_⟩
  simp only [Cursor.left]
  omega

theorem next : Moves id k 1 Reader.next fun _ => True := by
  intro c _
  unfold MovesAt Ends Reader.next
  rw [run_bind_ok (show Reader.look Cursor.peek c = .ok c.peek c from rfl)]
  cases here : c.peek with
  | none => exact ⟨⟨_, rfl, trivial⟩, .refl c⟩
  | some token => exact ⟨skipped here, trivial⟩

theorem expect (kind : TokenKind) (what : Text) :
    Moves id k 1 (Reader.expect kind what) fun _ => True := by
  intro c _
  unfold MovesAt Ends Reader.expect
  rw [run_bind_ok (show Reader.look Cursor.peek c = .ok c.peek c from rfl)]
  cases here : c.peek with
  | none => exact ⟨⟨_, rfl, trivial⟩, .refl c⟩
  | some token =>
    by_cases fits : token.kind = kind
    · simp only [fits, ↓reduceIte]
      exact ⟨skipped here, trivial⟩
    · simp only [fits, ↓reduceIte]
      exact ⟨⟨_, rfl, trivial⟩, .refl c⟩

theorem expectWord (what : Text) : Moves id k 1 (Reader.expectWord what) fun _ => True :=
  (expect _ _).first fun _ => .pure trivial

theorem expectString (what : Text) : Moves id k 1 (Reader.expectString what) fun _ => True :=
  (expect _ _).first fun _ => .pure trivial

theorem expectNumber (what : Text) : Moves id k 1 (Reader.expectNumber what) fun _ => True :=
  (expect _ _).first fun _ => .pure trivial

theorem expectInt (what : Text) : Moves id k 1 (Reader.expectInt what) fun _ => True :=
  (expect _ _).first fun _ => .ite (.pure trivial) (failAt _ trivial)

/-- A word that is looked for is taken. -/
theorem takeWord (word : Text) {m m' : Reader α} (hm : Moves id k 0 m Q) (hm' : Moves id k 1 m' Q) :
    Moves id k 1 (do if ← Reader.look (·.isWord word) then Reader.skip; m else m') Q := by
  intro c bound
  unfold MovesAt Ends
  rw [run_bind_ok (show Reader.look (·.isWord word) c = .ok (c.isWord word) c from rfl)]
  cases here : c.isWord word with
  | false => exact hm' c bound
  | true =>
    obtain ⟨token, there⟩ : ∃ token, c.peek = some token := by
      cases peeked : c.peek with
      | none => simp [Cursor.isWord, Cursor.isWordToken, peeked] at here
      | some token => exact ⟨token, rfl⟩
    have taken := skipped there
    have rest := hm { c with index := c.index + 1 } (Nat.le_trans (Nat.le_of_add_right_le taken.fewer) bound)
    refine rest.mono (fun a t ⟨moved, value⟩ => ⟨taken.trans moved, value⟩) ?_
    exact fun f t ⟨fault, stays⟩ => ⟨fault, taken.toStays.trans stays⟩

theorem expectBool (what : Text) : Moves id k 1 (Reader.expectBool what) fun _ => True :=
  takeWord _ (.pure trivial) <|
    takeWord _ (.pure trivial) <|
      (look _).before fun _ => fail trivial

theorem expectKeyword (word : Text) : Moves id k 1 (Reader.expectKeyword word) fun _ => True :=
  takeWord word (.pure trivial) ((look _).before fun _ => fail trivial)

theorem accept (kind : TokenKind) (value : Option Text) :
    Moves id k 0 (Reader.accept kind value) fun _ => True := by
  intro c _
  unfold MovesAt Ends Reader.accept
  rw [run_bind_ok (show Reader.look Cursor.peek c = .ok c.peek c from rfl)]
  cases here : c.peek with
  | none => exact ⟨.refl c, trivial⟩
  | some token =>
    by_cases fits : token.kind = kind && (value.isNone || value = some token.value)
    · simp only [fits, ↓reduceIte]
      exact ⟨(skipped here).weaken (Nat.zero_le 1), trivial⟩
    · simp only [fits, Bool.false_eq_true, ↓reduceIte]
      exact ⟨.refl c, trivial⟩

theorem acceptWord (word : Text) : Moves id k 0 (Reader.acceptWord word) fun _ => True := accept _ _

theorem endStatement : Moves id k 1 Reader.endStatement fun _ => True :=
  (expect _ _).first fun _ => .pure trivial

/-- A statement that ends here gives its value. -/
theorem ending {a : α} (h : Q a) : Moves id k 1 (Reader.endStatement >>= fun _ => Pure.pure a) Q :=
  endStatement.first fun _ => .pure h

theorem oneOf (word : Text) (vocabulary : List (Text × α)) (domain : Text) (span : Span) :
    Moves id k 0 (Reader.oneOf word vocabulary domain span) fun _ => True := by
  unfold Reader.oneOf
  split
  · exact .pure trivial
  · exact failAt _ trivial

theorem expectOneOf (what : Text) (vocabulary : List (Text × α)) (domain : Text) :
    Moves id k 1 (Reader.expectOneOf what vocabulary domain) fun _ => True :=
  (expect _ _).first fun _ => oneOf _ _ _ _

/-- Turns that take a token are enough if they are more than the tokens left. -/
theorem repeatUntil {done : Cursor → Bool} {step : σ → Reader σ}
    (hstep : ∀ k s, Moves id k 1 (step s) fun _ => True) {fuel : Nat} (enough : k < fuel) (s : σ) :
    Moves id k 0 (Reader.repeatUntil done step fuel s) fun _ => True := by
  induction fuel generalizing k s with
  | zero => omega
  | succ fuel ih =>
    refine (look done).before fun _ => .ite (.pure trivial) ?_
    by_cases empty : k = 0
    · -- Where no token is left, the step fails.
      intro c bound
      refine Ends.bind (hstep k s c bound) fun t c' ⟨moved, _⟩ => ?_
      have fewer := moved.fewer
      simp only [id] at bound fewer
      omega
    · exact ((hstep k s).bind fun t _ => ih (by omega) t).weaken (Nat.le_refl k) (Nat.zero_le _)

theorem gather {done : Cursor → Bool} {step : σ → Reader σ}
    (hstep : ∀ k s, Moves id k 1 (step s) fun _ => True) (s : σ) :
    Moves id k 0 (Reader.gather done step s) fun _ => True :=
  fun c _ => repeatUntil hstep (Nat.lt_succ_self c.left) s c (Nat.le_refl _)

theorem optionalWord (what : Text) : Moves id k 0 (Reader.optionalWord what) fun _ => True :=
  (look _).before fun _ => .ite ((expectWord what).before fun _ => .pure trivial) (.pure trivial)

theorem run (kind : TokenKind) {step : Reader α} (hstep : ∀ k, Moves id k 1 step Q) :
    Moves id k 0 (Reader.run kind step) fun _ => True :=
  (gather (fun k _ => (hstep k).first fun _ => .pure trivial) _).before fun _ => .pure trivial

theorem color (what : Text) : Moves id k 1 (Reader.color what) fun _ => True := by
  refine next.first fun token => (?_ : Moves id k 0 _ _)
  cases token.kind <;> first | exact .pure trivial | exact failAt _ trivial

theorem operand (what : Text) : Moves id k 1 (Reader.operand what) fun _ => True := by
  refine next.first fun token => (?_ : Moves id k 0 _ _)
  cases token.kind <;> first | exact .pure trivial | exact failAt _ trivial

theorem target : Moves id k 1 Reader.target fun _ => True :=
  (expect _ _).first fun _ => expectWord _

theorem point (first second : Text) : Moves id k 1 (Reader.point first second) fun _ => True :=
  (expectNumber _).first fun _ => (expectNumber _).before fun _ => .pure trivial

theorem rect : Moves id k 1 Reader.rect fun _ => True :=
  (expectNumber _).first fun _ => (expectNumber _).before fun _ =>
    (expectNumber _).before fun _ => (expectNumber _).before fun _ => .pure trivial

theorem points (what : Text) : Moves id k 0 (Reader.points what) fun _ => True :=
  (run _ fun _ => expectNumber what).before fun _ => .ite (.pure trivial) (fail trivial)

end Moves

/-! ## 3. Statements of one command -/

namespace Statement

open Moves

variable {k : Nat}

theorem moves_say (speaker : Option Text) : Moves id k 1 (say speaker) Command.NoLabel :=
  (expectString _).before fun _ => ending nofun

theorem moves_jump : Moves id k 1 jump Command.NoLabel :=
  (expectWord _).before fun _ => ending nofun

theorem moves_wait : Moves id k 1 wait Command.NoLabel :=
  (acceptWord _).before fun _ => .ite (ending nofun) <|
    (acceptWord _).before fun _ => .ite (ending nofun) <|
      (expectNumber _).before fun _ => ending nofun

theorem moves_notify : Moves id k 1 notify Command.NoLabel :=
  (expectString _).before fun _ => (look _).before fun _ =>
    .ite ((expectNumber _).map.before fun _ => ending nofun) (pure_bind (ending nofun))

theorem moves_save : Moves id k 1 save Command.NoLabel :=
  (optionalWord _).before fun _ => ending nofun

theorem moves_load : Moves id k 1 load Command.NoLabel :=
  (optionalWord _).before fun _ => ending nofun

theorem moves_set : Moves id k 1 set Command.NoLabel :=
  (expectWord _).before fun _ => (operand _).before fun _ => ending nofun

theorem moves_track : Moves id k 1 track Command.NoLabel :=
  (run _ fun _ => expectWord _).before fun _ =>
    .ite (fail_bind _ trivial) ((expectNumber _).before fun _ => ending nofun)

theorem moves_input : Moves id k 1 input Command.NoLabel :=
  (expectWord _).before fun _ => (expectString _).before fun _ => (acceptWord _).before fun _ =>
    .ite ((expectString _).map.before fun _ => ending nofun) (pure_bind (ending nofun))

theorem moves_timeLimit : Moves id k 0 timeLimit fun _ => True :=
  (acceptWord _).before fun _ =>
    .ite ((expectNumber _).before fun _ => (look _).before fun _ =>
        .ite (fail_bind _ trivial)
          ((expectKeyword _).before fun _ => (expectInt _).before fun _ => .pure trivial))
      ((look _).before fun _ => .ite (fail trivial) (.pure trivial))

theorem moves_choiceOption : Moves id k 1 choiceOption fun _ => True :=
  (expectString _).first fun _ => (expect _ _).before fun _ => (expectWord _).before fun _ =>
    .pure trivial

theorem moves_anotherOption (done : List ChoiceOption) :
    Moves id k 1 (anotherOption done) fun _ => True :=
  (accept _ _).before fun _ => moves_choiceOption.first fun _ => .pure trivial

theorem moves_ask : Moves id k 1 ask Command.NoLabel := by
  refine (expectString _).before fun _ => moves_timeLimit.before fun limit =>
    moves_choiceOption.before fun _ => (gather (fun _ => moves_anotherOption) _).before fun _ => ?_
  obtain ⟨timeout, ordinal⟩ := limit
  cases ordinal with
  | none => exact ending nofun
  | some n => exact .ite (fail_bind _ trivial) (ending nofun)

theorem moves_play : Moves id k 1 play Command.NoLabel :=
  (optionalWord _).before fun _ => (expectString _).before fun _ => (look _).before fun _ =>
    .ite (pure_bind (ending nofun)) ((expectBool _).before fun _ => ending nofun)

theorem moves_sound : Moves id k 1 sound Command.NoLabel :=
  (optionalWord _).before fun _ => (expectString _).before fun _ => ending nofun

theorem moves_echo : Moves id k 1 echo Command.NoLabel :=
  (acceptWord _).before fun _ => .ite (ending nofun) <|
    (expectString _).before fun _ => (acceptWord _).before fun _ => ending nofun

theorem moves_voice : Moves id k 1 voice Command.NoLabel :=
  (optionalWord _).before fun _ => (expectString _).before fun _ => ending nofun

theorem moves_mute : Moves id k 1 mute Command.NoLabel :=
  (optionalWord _).before fun _ => ending nofun

theorem moves_preload : Moves id k 1 preload Command.NoLabel :=
  (expectWord _).before fun _ => (expectString _).before fun _ => ending nofun

theorem moves_cache : Moves id k 1 cache Command.NoLabel := by
  refine (expectOneOf _ _ _).before fun action => ?_
  cases action with
  | clear =>
    refine (expectOneOf _ _ _).before fun kind => ?_
    cases kind with
    | script => exact (expectString _).before fun _ => ending nofun
    | images => exact ending nofun
    | scripts => exact ending nofun
    | stage => exact ending nofun
  | pin => exact (expectWord _).before fun _ => (expectString _).before fun _ => ending nofun
  | unpin => exact (expectWord _).before fun _ => (expectString _).before fun _ => ending nofun

theorem moves_collect : Moves id k 1 collect Command.NoLabel := ending nofun

theorem moves_videoSetting (setting : Bool × VideoFit) :
    Moves id k 1 (videoSetting setting) fun _ => True :=
  (acceptWord _).before fun _ => .ite ((expectBool _).first fun _ => .pure trivial) <|
    (acceptWord _).before fun _ => .ite ((expectOneOf _ _ _).first fun _ => .pure trivial) <|
      next.before fun _ => fail trivial

theorem moves_video : Moves id k 1 video Command.NoLabel :=
  (expectOneOf _ _ _).before fun _ =>
    .ite ((expectString _).before fun _ =>
        (gather (fun _ => moves_videoSetting) _).before fun _ => ending nofun)
      (ending nofun)

theorem moves_characterColor : Moves id k 1 characterColor fun _ => True := by
  refine next.first fun token => (?_ : Moves id k 0 _ _)
  cases token.kind <;> first | exact .pure trivial | exact failAt _ trivial

theorem moves_anchorWord : Moves id k 1 anchorWord fun _ => True :=
  (expect _ _).first fun _ => .ite (.pure trivial) (failAt _ trivial)

theorem moves_characterFieldValue (who : Character) (field : Token) :
    Moves id k 0 (characterFieldValue who field) fun _ => True :=
  .ite ((expectString _).before fun _ => .pure trivial) <|
  .ite (moves_characterColor.before fun _ => .pure trivial) <|
  .ite ((expectString _).before fun _ => .pure trivial) <|
  .ite ((point _ _).before fun _ => .pure trivial) <|
  .ite ((run _ fun _ => moves_anchorWord).before fun _ => .pure trivial) <|
  .ite ((expectInt _).before fun _ => .pure trivial) <|
  .ite ((expectNumber _).before fun _ => (expectNumber _).before fun _ => .pure trivial) <|
  .ite ((expectWord _).before fun _ => (expectString _).before fun _ => .pure trivial) <|
  failAt _ trivial

theorem moves_characterField (who : Character) :
    Moves id k 1 (characterField who) fun _ => True :=
  (expect _ _).first fun field => (moves_characterFieldValue who field).before fun _ =>
    ending trivial

theorem moves_closeBlock : Moves id k 1 closeBlock fun _ => True :=
  (expect _ _).first fun _ => (accept _ _).before fun _ => .pure trivial

theorem moves_define : Moves id k 1 define Command.NoLabel :=
  (expectWord _).first fun _ => (expect _ _).before fun _ =>
    (gather (fun _ => moves_characterField) _).before fun _ =>
      moves_closeBlock.before fun _ => .pure nofun

theorem moves_phone : Moves id k 1 phone Command.NoLabel := by
  refine (expectOneOf _ _ _).before fun action => ?_
  cases action with
  | openUp => exact (expectString _).before fun _ => ending nofun
  | message =>
    exact (expectOneOf _ _ _).before fun _ => (expectString _).before fun _ => ending nofun
  | close => exact ending nofun

theorem moves_meter : Moves id k 1 meter Command.NoLabel := by
  refine (expectOneOf _ _ _).before fun action => ?_
  cases action with
  | clear => exact ending nofun
  | hide => exact (expectWord _).before fun _ => ending nofun
  | update => exact (expectWord _).before fun _ => ending nofun
  | display =>
    exact (expectWord _).before fun _ => (expectString _).before fun _ =>
      (expectNumber _).before fun _ => (expectNumber _).before fun _ =>
        .ite (fail_bind _ trivial) <| (acceptWord _).before fun _ =>
          .ite ((color _).map.before fun _ => ending nofun) (pure_bind (ending nofun))

theorem moves_itemSetting (setting : Option Text × Float) :
    Moves id k 1 (itemSetting setting) fun _ => True :=
  (acceptWord _).before fun _ => .ite ((expectString _).first fun _ => .pure trivial) <|
    (acceptWord _).before fun _ => .ite ((expectInt _).first fun _ => .pure trivial) <|
      next.before fun _ => fail trivial

theorem moves_item : Moves id k 1 item Command.NoLabel := by
  refine (expectOneOf _ _ _).before fun action => ?_
  cases action with
  | clear => exact ending nofun
  | remove =>
    exact (expectWord _).before fun _ => (acceptWord _).before fun _ =>
      .ite ((expectInt _).before fun _ => ending nofun) (pure_bind (ending nofun))
  | add =>
    exact (expectWord _).before fun _ => (expectString _).before fun _ =>
      (expectString _).before fun _ =>
        (gather (fun _ => moves_itemSetting) _).before fun _ => ending nofun

theorem moves_map : Moves id k 1 map Command.NoLabel := by
  refine (expectOneOf _ _ _).before fun action => ?_
  cases action with
  | display => exact (expectString _).before fun _ => ending nofun
  | hide => exact ending nofun
  | point =>
    exact (expectString _).before fun _ => (point _ _).before fun _ => (points _).before fun _ =>
      .ite (fail_bind _ trivial) (target.before fun _ => ending nofun)

theorem moves_hotspot : Moves id k 1 hotspot Command.NoLabel := by
  refine (expectOneOf _ _ _).before fun action => ?_
  cases action with
  | clear => exact ending nofun
  | debug => exact (expectOneOf _ _ _).before fun _ => ending nofun
  | remove => exact (expectWord _).before fun _ => ending nofun
  | add =>
    exact (expectWord _).before fun _ => rect.before fun _ => target.before fun _ => ending nofun
  | polygon =>
    exact (expectWord _).before fun _ => (points _).before fun _ =>
      .ite (fail_bind _ trivial) (target.before fun _ => ending nofun)

theorem moves_buttonFace (style : HudStyle) : Moves id k 0 (buttonFace style) fun _ => True := by
  cases style with
  | text => exact (expectString _).before fun _ => .pure trivial
  | icon => exact (expectString _).before fun _ => .pure trivial
  | both => exact (expectString _).before fun _ => (expectString _).before fun _ => .pure trivial

theorem moves_hud : Moves id k 1 hud Command.NoLabel := by
  refine (expectOneOf _ _ _).before fun action => ?_
  cases action with
  | clear => exact ending nofun
  | remove => exact (expectWord _).before fun _ => ending nofun
  | add =>
    exact (expectWord _).before fun _ => (expectOneOf _ _ _).before fun style =>
      (moves_buttonFace style).before fun _ => rect.before fun _ => target.before fun _ =>
        ending nofun

theorem moves_modifierOfWord (domain : Text) (m : Modifiers) (token : Token) :
    Moves id k 0 (Modifiers.ofWord domain m token) fun _ => True :=
  .ite ((expectInt _).before fun _ => .pure trivial) <|
  .ite ((expectNumber _).before fun _ => .pure trivial) <|
  .ite ((expectNumber _).before fun _ => (expectNumber _).before fun _ => .pure trivial) <|
  .ite ((point _ _).before fun _ => .pure trivial) <|
  .ite ((point _ _).before fun _ => .pure trivial) <|
  .ite (.pure trivial) <|
  (look _).before fun _ =>
    .ite ((oneOf _ _ _ _).before fun _ => (expectNumber _).before fun _ => .pure trivial)
      (failAt _ trivial)

theorem moves_modifier (domain : Text) (m : Modifiers) :
    Moves id k 1 (Modifiers.step domain m) fun _ => True := by
  refine next.first fun token => (?_ : Moves id k 0 _ _)
  cases token.kind <;>
    first
      | exact .pure trivial
      | exact moves_modifierOfWord domain m token
      | exact failAt _ trivial

theorem moves_modifiers (domain : Text) : Moves id k 0 (Modifiers.read domain) fun _ => True :=
  gather (fun _ => moves_modifier domain) _

theorem moves_pairFrom (numbers : List Float) (what : Text) :
    Moves id k 0 (pairFrom numbers what) fun _ => True := by
  unfold pairFrom
  split <;> first | exact .pure trivial | exact fail trivial

theorem moves_positionOf (m : Modifiers) (numbers : List Float) (what : Text) :
    Moves id k 0 (positionOf m numbers what) fun _ => True := by
  unfold positionOf
  split
  · exact .pure trivial
  · exact moves_pairFrom numbers what

theorem moves_noBareNumbers (m : Modifiers) (domain : Text) :
    Moves id k 0 (noBareNumbers m domain) fun _ => True := .ite (.pure trivial) (fail trivial)

theorem moves_scene : Moves id k 1 scene Command.NoLabel := by
  refine (expectOneOf _ _ _).before fun kind => ?_
  cases kind with
  | color =>
    exact (color _).before fun _ => (moves_modifiers _).before fun m =>
      (moves_noBareNumbers m _).before fun _ => ending nofun
  | image =>
    exact (expectString _).before fun _ => (moves_modifiers _).before fun m =>
      (moves_noBareNumbers m _).before fun _ => ending nofun

theorem moves_sizeOf (kind : AssetKind) (m : Modifiers) :
    Moves id k 0 (sizeOf kind m) fun _ => True := by
  unfold sizeOf
  split
  · split <;> first | exact .pure trivial | exact fail trivial
  · exact .pure trivial

theorem moves_sprite (domain : Text) : Moves id k 1 (sprite domain) Command.NoLabel := by
  refine (expectOneOf _ _ _).before fun kind => (expectWord _).before fun _ => ?_
  cases kind with
  | rect =>
    exact (color _).before fun _ => (moves_modifiers _).before fun m =>
      (moves_sizeOf _ m).before fun _ => (moves_positionOf m _ _).before fun _ => ending nofun
  | image =>
    exact (expectString _).before fun _ => (moves_modifiers _).before fun m =>
      (moves_sizeOf _ m).before fun _ => (moves_positionOf m _ _).before fun _ => ending nofun

theorem moves_character : Moves id k 1 character Command.NoLabel :=
  (expectWord _).before fun _ => (look _).before fun _ =>
    .ite ((expectWord _).map.before fun _ => (moves_modifiers _).before fun m =>
        (moves_positionOf m _ _).before fun _ => ending nofun)
      (pure_bind ((moves_modifiers _).before fun m =>
        (moves_positionOf m _ _).before fun _ => ending nofun))

theorem moves_appearance : Moves id k 1 appearance Command.NoLabel :=
  (look _).before fun _ => .ite (moves_sprite _) moves_character

theorem moves_off : Moves id k 1 off Command.NoLabel :=
  (expectWord _).before fun _ => (moves_modifiers _).before fun m =>
    (moves_noBareNumbers m _).before fun _ => ending nofun

theorem moves_camera : Moves id k 1 camera Command.NoLabel :=
  (acceptWord _).before fun _ => .ite (ending nofun) <|
    (expectNumber _).before fun _ => (expectNumber _).before fun _ =>
      (expectNumber _).before fun _ => .ite (fail_bind _ trivial) (ending nofun)

theorem moves_ease : Moves id k 0 ease fun _ => True :=
  (look _).before fun _ => .ite (next.before fun _ => oneOf _ _ _ _) (.pure trivial)

theorem moves_goal (kind : MovementKind) : Moves id k 0 (goal kind) fun _ => True := by
  cases kind with
  | move => exact (point _ _).before fun _ => .pure trivial
  | size => exact (point _ _).before fun _ => .pure trivial
  | alpha => exact (expectNumber _).before fun _ => .pure trivial

theorem moves_animate : Moves id k 1 animate Command.NoLabel :=
  (acceptWord _).before fun _ =>
    .ite ((optionalWord _).before fun _ => ending nofun) <|
      (expectWord _).before fun _ => (expectOneOf _ _ _).before fun kind =>
        (moves_goal kind).before fun _ => (expectNumber _).before fun _ =>
          moves_ease.before fun _ => ending nofun

theorem moves_blend : Moves id k 1 blend Command.NoLabel :=
  (expectOneOf _ _ _).before fun _ => (expectNumber _).before fun _ => ending nofun

theorem moves_plainWords : ∀ entry ∈ plainWords, Moves id k 1 entry.2 Command.NoLabel := by
  simp only [plainWords, List.forall_mem_cons, List.not_mem_nil, false_implies, implies_true,
    and_true]
  exact ⟨moves_jump, moves_jump, moves_scene, moves_sprite _, moves_appearance, moves_off,
    moves_camera, moves_animate, moves_play, moves_sound, moves_echo, moves_voice, moves_mute,
    moves_preload, moves_cache, moves_collect, moves_wait, moves_notify, moves_blend, moves_save,
    moves_load, moves_set, moves_track, moves_input, moves_phone, moves_meter, moves_item,
    moves_map, moves_video, moves_hotspot, moves_hud, moves_define, moves_ask⟩

/-- A plain statement takes a token, and it is no label. -/
theorem moves_plainStatement {word : Text} {reader : Reader Command}
    (h : plainStatements.lookup word = some reader) : Moves id k 1 reader Command.NoLabel := by
  have hmem : (word, reader) ∈ plainStatements := Table.mem_of_lookup h
  obtain ⟨entry, hentry, heq⟩ := List.mem_map.mp hmem
  cases heq
  exact moves_plainWords entry hentry

/-! ## 4. Statements of a draft -/

theorem moves_condition : Moves id k 1 condition fun _ => True :=
  (expectWord _).first fun _ => (expect _ _).before fun _ => (oneOf _ _ _ _).before fun _ =>
    (operand _).before fun _ => .pure trivial

theorem moves_checkTarget : Moves id k 0 checkTarget fun _ => True :=
  (acceptWord _).before fun _ =>
    .ite ((acceptWord _).before fun _ => .ite (fail_bind _ trivial) ((expectWord _).before fun _ =>
        endStatement.before fun _ => .pure trivial))
      ((expectWord _).before fun _ => endStatement.before fun _ => .pure trivial)

theorem moves_includeHead : Moves id k 0 includeHead fun _ => True :=
  (expectString _).before fun _ => (expectKeyword _).before fun _ =>
    (expectWord _).before fun _ => endStatement.before fun _ => .pure trivial

end Statement

namespace Moves

variable {α β : Type} {k n : Nat} {Q : α → Prop}

theorem read {r : Reader α} (hr : Moves id k n r Q) :
    Moves Draft.cursor k n (Builder.read r) Q := by
  intro d bound
  have result := hr d.cursor bound
  unfold MovesAt Ends Builder.read at *
  split at result <;> simp_all

theorem ahead (f : Cursor → α) : Moves Draft.cursor k 0 (Builder.look f) fun _ => True :=
  fun _ _ => ⟨.refl _, trivial⟩

theorem state : Moves Draft.cursor k 0 get fun _ => True :=
  fun _ _ => ⟨.refl _, trivial⟩

/-- What leaves the cursor where it is. -/
theorem change (g : Draft → Draft) (same : ∀ d, (g d).cursor = d.cursor) :
    Moves Draft.cursor k 0 (modify g) fun _ => True :=
  fun d _ => ⟨(same d).symm ▸ .refl _, trivial⟩

theorem push (command : Command) : Moves Draft.cursor k 0 (Builder.push command) fun _ => True :=
  change _ fun _ => rfl

theorem refuse {problem : ScriptProblem} (other : problem.Local) :
    Moves Draft.cursor k n (Builder.fail problem : Builder α) Q := read (fail other)

theorem refuseAt {problem : ScriptProblem} (span : Span) (other : problem.Local) :
    Moves Draft.cursor k n (Builder.failAt problem span : Builder α) Q := read (failAt span other)

/-- Nothing comes behind a refusal. -/
theorem refused {R : β → Prop} {m : Builder α} (hm : Moves Draft.cursor k 0 m fun _ => False)
    (f : α → Builder β) : Moves Draft.cursor k n (m >>= f) R := by
  have never : ∀ a, False → Moves Draft.cursor (k - 0) n (f a) R := fun _ impossible => impossible.elim
  exact (hm.bind never).weaken (Nat.le_refl k) (Nat.le_add_left n 0)

/-- A token that is there is taken first. -/
theorem taking {m : Builder α} (hm : Moves Draft.cursor k 0 m Q) {d : Draft}
    (bound : d.cursor.left ≤ k) {token : Token} (here : d.cursor.peek = some token) :
    MovesAt Draft.cursor d 1 (Builder.read Reader.skip >>= fun _ => m) Q := by
  have taken := skipped here
  have first : MovesAt Draft.cursor d 1 (Builder.read Reader.skip) fun _ => True := ⟨taken, trivial⟩
  refine first.bind fun _ e moved _ => hm e ?_
  have fewer := moved.fewer
  omega

theorem label (name : Text) : Moves Draft.cursor k 0 (Builder.label name) fun _ => True := by
  refine state.before fun d => .ite (refused ?_ _) ((change _ ?_).before fun _ => push _)
  · exact refuse trivial
  · exact fun _ => rfl

theorem resolveScript (files : FileTree) (path : Text) :
    Moves Draft.cursor k 0 (Builder.resolveScript files path) fun _ => True :=
  (ahead _).before fun _ => .ite (.pure trivial) (refuse trivial)

end Moves

namespace Statement

open Moves

variable {k : Nat} {files : FileTree} {body : Builder Unit}
variable (hbody : Moves Draft.cursor k 0 body fun _ => True)

theorem moves_call : Moves Draft.cursor k 1 (call files) fun _ => True :=
  (read (expectString _)).first fun _ => (read (expectWord _)).before fun _ =>
    (read endStatement).before fun _ => (resolveScript files _).before fun _ => push _

theorem moves_includeFile : Moves Draft.cursor k 1 (includeFile files) fun _ => True := by
  refine (read next).first fun keyword => (?_ : Moves Draft.cursor k 0 _ _)
  refine state.before fun d => .ite (refused (refuseAt _ ?_) _) ?_
  · trivial
  refine (read moves_includeHead).before fun head => state.before fun d => ?_
  refine .ite (refused (refuseAt _ ?_) _) ?_
  · trivial
  exact (resolveScript files _).before fun _ => change _ fun _ => rfl

/-- Where a statement begins with a token, it takes that token at least. -/
theorem moves_labelStatement {d : Draft} (bound : d.cursor.left ≤ k) {token : Token}
    (here : d.cursor.peek = some token) :
    MovesAt Draft.cursor d 1 labelStatement fun _ => True :=
  taking ((read (expectWord _)).before fun _ => (read (expect _ _)).before fun _ => label _) bound here

include hbody

theorem moves_check : Moves Draft.cursor k 1 (check body) fun _ => True := by
  refine (read moves_condition).first fun found => (?_ : Moves Draft.cursor k 0 _ _)
  obtain ⟨name, op, value⟩ := found
  refine (ahead _).before fun _ => .ite ?_ ?_
  · refine (change _ ?_).before fun _ => state.before fun _ => (push _).before fun _ =>
      hbody.before fun _ => label _
    exact fun _ => rfl
  · exact (read moves_checkTarget).before fun _ => push _

theorem moves_loading : Moves Draft.cursor k 1 (loading body) fun _ => True :=
  (read (expectString _)).first fun _ => (push _).before fun _ => hbody.before fun _ => push _

theorem moves_ofWord {d : Draft} (bound : d.cursor.left ≤ k) {token : Token}
    (here : d.cursor.peek = some token) :
    MovesAt Draft.cursor d 1 (ofWord files body token) fun _ => True := by
  refine MovesAt.ite (fun _ => moves_labelStatement bound here) fun _ => ?_
  refine MovesAt.ite (fun _ => moves_includeFile d bound) fun _ => ?_
  have least : ∀ {m : Builder Unit}, (Moves Draft.cursor k 1 m fun _ => True) →
      MovesAt Draft.cursor d 1 (Builder.read Reader.skip >>= fun _ => m) fun _ => True :=
    fun hm => taking (hm.weaken (Nat.le_refl k) (Nat.zero_le 1)) bound here
  refine MovesAt.ite (fun _ => least (moves_check hbody)) fun _ => ?_
  refine MovesAt.ite (fun _ => least (moves_loading hbody)) fun _ => ?_
  refine MovesAt.ite (fun _ => least moves_call) fun _ => ?_
  cases plain : plainStatements.lookup token.value with
  | some reader => exact least ((read (moves_plainStatement plain)).first fun _ => push _)
  | none =>
    refine MovesAt.ite (fun _ => least ((read (moves_say _)).first fun _ => push _)) fun _ => ?_
    refine refuseAt _ ?_ d bound
    trivial

/-- A statement takes a token if there is one. -/
theorem moves_one {d : Draft} (bound : d.cursor.left ≤ k) (more : d.cursor.atEnd = false) :
    MovesAt Draft.cursor d 1 (one files body) fun _ => True := by
  obtain ⟨token, here⟩ : ∃ token, d.cursor.peek = some token := by
    have inside : d.cursor.index < d.cursor.tokens.size := by simpa [Cursor.atEnd] using more
    exact ⟨_, Array.getElem?_eq_getElem inside⟩
  unfold MovesAt Ends one
  rw [run_bind_ok (show Builder.look Cursor.peek d = .ok d.cursor.peek d from rfl), here]
  obtain ⟨kind, value, span⟩ := token
  cases kind with
  | semi => exact ⟨skipped here, trivial⟩
  | string => exact ((read (moves_say none)).first fun command => push command) d bound
  | word => exact moves_ofWord hbody bound here
  | _ => exact ⟨⟨_, rfl, trivial⟩, .refl _⟩

omit hbody

theorem moves_inBraces (inner : Moves Draft.cursor (k - 1) 0 body fun _ => True) :
    Moves Draft.cursor k 0 (inBraces body) fun _ => True :=
  ((read (expect _ _)).bind fun _ _ => inner.before fun _ => read moves_closeBlock).weaken
    (Nat.le_refl k) (Nat.zero_le _)

/-- A statement and those behind it; a block within is a token further on. -/
theorem moves_statement {inner rest : Builder Unit}
    (hinner : Moves Draft.cursor (k - 1) 0 inner fun _ => True)
    (hrest : Moves Draft.cursor (k - 1) 0 rest fun _ => True) {d : Draft}
    (bound : d.cursor.left ≤ k) (more : d.cursor.atEnd = false) :
    MovesAt Draft.cursor d 0 (one files (inBraces inner) >>= fun _ => rest) fun _ => True := by
  refine ((moves_one (moves_inBraces hinner) bound more).bind fun _ e taken _ => hrest e ?_).weaken
    (Nat.zero_le _)
  have fewer := taken.fewer
  omega

/-- The statements of a block use one turn each. -/
theorem moves_inBlock {fuel : Nat} (enough : k < fuel) :
    Moves Draft.cursor k 0 (inBlock files fuel) fun _ => True := by
  induction fuel generalizing k with
  | zero => omega
  | succ fuel ih =>
    refine (ahead _).before fun _ => .ite (.pure trivial) ?_
    intro d bound
    show MovesAt Draft.cursor d 0 (if d.cursor.atEnd then _ else _) _
    refine MovesAt.ite (fun _ => refused ?_ _ d bound) fun more => ?_
    · exact refuse trivial
    have some : 0 < k := Nat.lt_of_lt_of_le (Cursor.left_pos (by simpa using more)) bound
    exact moves_statement (ih (by omega)) (ih (by omega)) bound (by simpa using more)

/-- And so do those of a file. -/
theorem moves_inFile {fuel : Nat} (enough : k < fuel) :
    Moves Draft.cursor k 0 (inFile files fuel) fun _ => True := by
  induction fuel generalizing k with
  | zero => omega
  | succ fuel ih =>
    intro d bound
    show MovesAt Draft.cursor d 0 (if d.cursor.atEnd then _ else _) _
    refine MovesAt.ite (fun _ => Moves.pure trivial d bound) fun more => ?_
    show MovesAt Draft.cursor d 0 (if d.cursor.kind = some .rbrace then _ else _) _
    refine MovesAt.ite (fun _ => refused ?_ _ d bound) fun _ => ?_
    · exact refuse trivial
    have some : 0 < k := Nat.lt_of_lt_of_le (Cursor.left_pos (by simpa using more)) bound
    exact moves_statement (moves_inBlock (by omega)) (ih (by omega)) bound (by simpa using more)

end Statement

/-! ## 5. Files -/

namespace Lexer

theorem local_of_stringStep {t done : Text} {n count : Nat} {problem : ScriptProblem}
    (h : stringStep done n t = .fail problem count) : problem.Local := by
  fun_induction stringStep done n t <;> simp_all <;> simp [← h.1, ScriptProblem.Local]

theorem local_of_colorStep {rest : Text} {count : Nat} {problem : ScriptProblem}
    (h : colorStep rest = .fail problem count) : problem.Local := by
  unfold colorStep at h
  simp only at h
  split at h
  · cases h
  · cases h
    trivial

theorem local_of_numberStep {t : Text} {count : Nat} {problem : ScriptProblem}
    (h : numberStep t = .fail problem count) : problem.Local := by
  unfold numberStep at h
  simp only at h
  split at h
  · cases h
    trivial
  · cases h

theorem local_of_step {t : Text} {problem : ScriptProblem} {count : Nat}
    (h : step t = .fail problem count) : problem.Local := by
  revert h
  fun_cases step t with
  | case5 => exact local_of_colorStep
  | case6 => exact local_of_stringStep
  | case8 => exact local_of_numberStep
  | case18 =>
    intro h
    cases h
    trivial
  | _ => simp

/-- A text that is refused stalls the lexer or has a problem of its own. -/
theorem scan_error {file : Option Text} {fuel : Nat} {t : Text} {place : Place}
    {done : List Token} {f : Fault} (h : scan file fuel t place done = .error f) :
    f.cause = .script .stalled ∨ f.Local := by
  fun_induction scan file fuel t place done with
  | case1 => cases h
  | case2 =>
    cases h
    exact .inl rfl
  | case3 _ _ _ _ _ _ _ _ ih => exact ih h
  | case4 _ _ _ _ _ _ _ _ _ _ _ ih => exact ih h
  | case5 _ _ _ _ _ _ problem _ refused =>
    cases h
    exact .inr ⟨problem, rfl, local_of_step refused⟩

end Lexer

/-- A file that is refused has a problem of its own, unless its text stalls the lexer. -/
theorem readDraft_error {files : FileTree} {file source : Text} {counter : Ordinal} {f : Fault}
    (h : readDraft files file source counter = .error f) :
    (f.cause = .script .stalled ∧ tokenize source (some file) = .error f) ∨ f.Local := by
  cases lexed : tokenize source (some file) with
  | error g =>
    rw [readDraft, lexed] at h
    cases h
    exact (Lexer.scan_error lexed).imp_left fun stalled => ⟨stalled, rfl⟩
  | ok tokens =>
    let start : Draft := { cursor := { tokens := tokens.toArray, file }, counter }
    have size : start.cursor.left ≤ tokens.length := by simp [start, Cursor.left]
    have ended := @Statement.moves_inFile _ files _ (Nat.lt_succ_self tokens.length) start size
    unfold MovesAt Ends at ended
    rw [readDraft, lexed] at h
    simp only [bind, Except.bind] at h
    split at h
    · cases h
    · next failed =>
      rw [failed] at ended
      cases h
      exact .inr ended.1

end VisualNovel
