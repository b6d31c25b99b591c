import VisualNovel.Proofs.Script.Ahead

/-!
Modifiers in any order.

The modifiers of a statement about the stage are read one group of tokens at a time, and each group
writes a part of its own of what is gathered. So two groups of different kinds may change places
(`apply_comm`), and all that counts of a sequence of groups is the sequence of each kind
(`foldl_of_filter_eq`). `reordered_modifiers` is the statement about the tokens of a script: behind
the positional arguments of `scene`, `add`, `show` or `off`, two arrangements of the same groups
give the same command, or are refused for causes of the same name.
-/

namespace VisualNovel

open Lexer (content)

/-! ## 1. Entries of different kinds -/

section Kinds

variable {α β κ : Type} [DecidableEq κ] {kind : α → κ}

/-- The entry that comes first of its kind, taken to the front. -/
theorem first_of_filter_eq {x : α} {xs ys : List α}
    (same : ∀ k, (x :: xs).filter (kind · = k) = ys.filter (kind · = k)) :
    ∃ front back, ys = front ++ x :: back ∧ (∀ y ∈ front, kind y ≠ kind x) ∧
      ∀ k, xs.filter (kind · = k) = (front ++ back).filter (kind · = k) := by
  have found := same (kind x)
  rw [List.filter_cons_of_pos (by simp)] at found
  obtain ⟨front, back, rfl, others, -, -⟩ := List.filter_eq_cons_iff.mp found.symm
  have apart : ∀ y ∈ front, kind y ≠ kind x := fun y hy => by simpa using others y hy
  refine ⟨front, back, rfl, apart, fun k => ?_⟩
  have whole := same k
  by_cases own : kind x = k
  · subst own
    have none : front.filter (kind · = kind x) = [] :=
      List.filter_eq_nil_iff.mpr fun y hy => by simpa using apart y hy
    simpa [List.filter_append, none] using whole
  · simpa [List.filter_append, List.filter_cons, own] using whole

omit [DecidableEq κ] in
/-- A step moves in front of steps of other kinds. -/
theorem foldl_cons_of_comm {step : β → α → β}
    (comm : ∀ b x y, kind x ≠ kind y → step (step b x) y = step (step b y) x) {x : α}
    {front : List α} (apart : ∀ y ∈ front, kind y ≠ kind x) (back : List α) (b : β) :
    (front ++ x :: back).foldl step b = (x :: (front ++ back)).foldl step b := by
  induction front generalizing b with
  | nil => rfl
  | cons y front ih =>
    have behind : ∀ z ∈ front, kind z ≠ kind x := fun z hz => apart z (List.mem_cons_of_mem _ hz)
    simp only [List.cons_append, List.foldl_cons] at ih ⊢
    rw [ih behind, comm b x y (apart y List.mem_cons_self).symm]

/-- Where steps of different kinds may change places, only the sequence of each kind counts. -/
theorem foldl_of_filter_eq {step : β → α → β}
    (comm : ∀ b x y, kind x ≠ kind y → step (step b x) y = step (step b y) x) {xs ys : List α}
    (same : ∀ k, xs.filter (kind · = k) = ys.filter (kind · = k)) (b : β) :
    xs.foldl step b = ys.foldl step b := by
  induction xs generalizing ys b with
  | nil =>
    cases ys with
    | nil => rfl
    | cons y ys => simpa using same (kind y)
  | cons x xs ih =>
    obtain ⟨front, back, rfl, apart, rest⟩ := first_of_filter_eq same
    rw [foldl_cons_of_comm comm apart, List.foldl_cons, List.foldl_cons, ih rest]

theorem perm_of_filter_eq {xs ys : List α}
    (same : ∀ k, xs.filter (kind · = k) = ys.filter (kind · = k)) : xs.Perm ys := by
  induction xs generalizing ys with
  | nil =>
    cases ys with
    | nil => rfl
    | cons y ys => simpa using same (kind y)
  | cons x xs ih =>
    obtain ⟨front, back, rfl, -, rest⟩ := first_of_filter_eq same
    exact ((ih rest).cons x).trans List.perm_middle.symm

end Kinds

/-! ## 2. Groups of tokens -/

namespace Statement

open Reader (Takes numberIn)

/-- One modifier as it is written: a word with its numbers, an anchor word, or a number without a
word. -/
inductive Modifier where
  | z (order : Text)
  | transition (style : TransitionStyle) (seconds : Text)
  | floating (amplitude speed : Text)
  | size (width height : Text)
  | pos (x y : Text)
  | anchor (word : Text)
  | number (numeral : Text)
  deriving DecidableEq, Repr

/-- The kinds of modifier. Fades are transitions like the other styles. -/
inductive Modifier.Kind where
  | z | transition | floating | size | pos | anchor | number
  deriving DecidableEq, Repr

namespace Modifier

/-- The kind of a modifier. -/
def kind : Modifier → Kind
  | z _ => .z
  | transition _ _ => .transition
  | floating _ _ => .floating
  | size _ _ => .size
  | pos _ _ => .pos
  | anchor _ => .anchor
  | number _ => .number

/-- The tokens of a modifier. -/
def lexemes : Modifier → List (TokenKind × Text)
  | z order => [(.word, "z"), (.number, order)]
  | transition style seconds => [(.word, style.word), (.number, seconds)]
  | floating amplitude speed => [(.word, "float"), (.number, amplitude), (.number, speed)]
  | size width height => [(.word, "size"), (.number, width), (.number, height)]
  | pos x y => [(.word, "pos"), (.number, x), (.number, y)]
  | anchor word => [(.word, word)]
  | number numeral => [(.number, numeral)]

/-- The order of depth is whole, and an anchor is one of the anchor words. -/
def WellFormed : Modifier → Prop
  | z order => Number.isWhole (numberIn order)
  | anchor word => word ∈ anchorWords
  | _ => True

/-- A transition under a style. A fade forgets what was said before; another style only replaces
the style and its seconds. -/
def styled (old : TransitionSpec) (style : TransitionStyle) (seconds : Float) : TransitionSpec :=
  if style = .fade then ⟨some seconds, some .fade, some seconds⟩
  else { old with style := some style, seconds := some seconds }

/-- What a modifier changes. -/
def apply (m : Modifiers) : Modifier → Modifiers
  | z order => { m with z := some (numberIn order) }
  | transition style seconds =>
    { m with transition := styled m.transition style (numberIn seconds) }
  | floating amplitude speed =>
    { m with floating := ⟨some (numberIn amplitude), some (numberIn speed)⟩ }
  | size width height => { m with size := some ⟨numberIn width, numberIn height⟩ }
  | pos x y => { m with pos := some ⟨numberIn x, numberIn y⟩ }
  | anchor word => { m with anchors := m.anchors ++ [word] }
  | number numeral => { m with numbers := m.numbers ++ [numberIn numeral] }

/-- Modifiers of different kinds change different things. -/
theorem apply_comm (m : Modifiers) (g g' : Modifier) (apart : g.kind ≠ g'.kind) :
    apply (apply m g) g' = apply (apply m g') g := by
  cases g <;> cases g' <;> first
    | exact absurd rfl apart
    | rfl

/-- A modifier begins with a word or a number. -/
theorem lexemes_eq (g : Modifier) :
    ∃ kind value rest, g.lexemes = (kind, value) :: rest ∧ (kind = .word ∨ kind = .number) := by
  cases g <;> exact ⟨_, _, _, rfl, by simp⟩

theorem length_le (gs : List Modifier) : gs.length ≤ (gs.flatMap lexemes).length := by
  induction gs with
  | nil => exact Nat.le_refl 0
  | cons g gs ih =>
    obtain ⟨kind, value, rest, begins, -⟩ := g.lexemes_eq
    simp only [List.flatMap_cons, begins, List.length_cons, List.length_append]
    omega

/-- The words that begin a transition begin nothing else. -/
theorem word_style (style : TransitionStyle) (other : style ≠ .fade) :
    (∀ word ∈ Modifiers.words, style.word ≠ word) ∧ style.word ∉ anchorWords ∧
      Modifiers.styles.lookup style.word = some style := by
  cases style <;> first | exact absurd rfl other | decide

/-- A style with its seconds. -/
theorem takes_transition (domain : Text) (m : Modifiers) (style : TransitionStyle)
    {seconds : Text} {token : Token} (word : token.value = style.word) :
    Takes (Modifiers.ofWord domain m token) [(.number, seconds)]
      (apply m (.transition style seconds)) := by
  unfold Modifiers.ofWord
  simp only [word]
  by_cases fade : style = .fade
  · subst fade
    rw [if_neg (by decide), if_pos (by decide)]
    exact (Takes.expectNumber _ _).bind .pure
  obtain ⟨other, anchors, listed⟩ := word_style style fade
  simp only [Modifiers.words, List.mem_cons, List.not_mem_nil, or_false, forall_eq_or_imp,
    forall_eq] at other
  rw [if_neg other.1, if_neg other.2.1, if_neg other.2.2.1, if_neg other.2.2.2.1,
    if_neg other.2.2.2.2, if_neg (by simpa using anchors)]
  refine Takes.look (fun c rest h => by rw [Cursor.kind, Cursor.kindAhead_eq, h]; rfl) ?_
  rw [if_pos rfl, apply, styled, if_neg fade]
  exact (Takes.oneOf listed).bind ((Takes.expectNumber _ _).bind .pure)

theorem takes_step_word {domain word : Text} {m m' : Modifiers}
    {lexemes : List (TokenKind × Text)}
    (behind : ∀ token, token.value = word → Takes (Modifiers.ofWord domain m token) lexemes m') :
    Takes (Modifiers.step domain m) ((.word, word) :: lexemes) m' := by
  unfold Modifiers.step
  refine .next fun token kind value => ?_
  rw [kind]
  exact behind token value

/-- A well-formed modifier is read in one step. -/
theorem takes_step (domain : Text) (m : Modifiers) {g : Modifier} (h : g.WellFormed) :
    Takes (Modifiers.step domain m) g.lexemes (apply m g) := by
  cases g with
  | z order =>
    refine takes_step_word fun token value => ?_
    unfold Modifiers.ofWord
    simp only [value, ↓reduceIte]
    exact (Takes.expectInt _ h).bind .pure
  | transition style seconds =>
    exact takes_step_word fun token value => takes_transition domain m style value
  | floating amplitude speed =>
    refine takes_step_word fun token value => ?_
    unfold Modifiers.ofWord
    simp only [value]
    rw [if_neg (by decide), if_neg (by decide), if_pos trivial]
    exact (Takes.expectNumber _ _).bind ((Takes.expectNumber _ _).bind .pure)
  | size width height =>
    refine takes_step_word fun token value => ?_
    unfold Modifiers.ofWord
    simp only [value]
    rw [if_neg (by decide), if_neg (by decide), if_neg (by decide), if_pos trivial]
    exact (Takes.point _ _ _ _).bind .pure
  | pos x y =>
    refine takes_step_word fun token value => ?_
    unfold Modifiers.ofWord
    simp only [value]
    rw [if_neg (by decide), if_neg (by decide), if_neg (by decide), if_neg (by decide),
      if_pos trivial]
    exact (Takes.point _ _ _ _).bind .pure
  | anchor word =>
    refine takes_step_word fun token value => ?_
    have other : ∀ anchor ∈ anchorWords, ∀ begin ∈ Modifiers.words, anchor ≠ begin := by decide
    have apart := other word h
    simp only [Modifiers.words, List.mem_cons, List.not_mem_nil, or_false, forall_eq_or_imp,
      forall_eq] at apart
    unfold Modifiers.ofWord
    simp only [value]
    rw [if_neg apart.1, if_neg apart.2.1, if_neg apart.2.2.1, if_neg apart.2.2.2.1,
      if_neg apart.2.2.2.2, if_pos (by simpa using (show word ∈ anchorWords from h))]
    exact .pure
  | number numeral =>
    unfold Modifiers.step
    refine .next fun token kind value => ?_
    rw [kind]
    subst value
    exact .pure

/-- Well-formed modifiers are read one step after the other. -/
theorem repeatUntil_step (domain : Text) {gs : List Modifier} (wellFormed : ∀ g ∈ gs, g.WellFormed)
    {tail : List (TokenKind × Text)} {c : Cursor} (here : c.ahead = gs.flatMap lexemes ++ tail)
    (fuel : Nat) (m : Modifiers) :
    ∃ d, Reader.repeatUntil Cursor.atStatementEnd (Modifiers.step domain) (gs.length + fuel) m c =
        Reader.repeatUntil Cursor.atStatementEnd (Modifiers.step domain) fuel (gs.foldl apply m) d ∧
      d.ahead = tail := by
  induction gs generalizing c m with
  | nil => exact ⟨c, by simp, by simpa using here⟩
  | cons g gs ih =>
    obtain ⟨e, taken, left⟩ := takes_step domain m (wellFormed g List.mem_cons_self) c
      (gs.flatMap lexemes ++ tail) (by rw [here, List.flatMap_cons, List.append_assoc])
    obtain ⟨d, rest, last⟩ := ih (fun g hg => wellFormed g (List.mem_cons_of_mem _ hg)) left
      (apply m g)
    refine ⟨d, ?_, last⟩
    have open_ : c.atStatementEnd = false := by
      obtain ⟨kind, value, more, begins, either⟩ := g.lexemes_eq
      have next : c.kind = some kind := by
        rw [Cursor.kind, Cursor.kindAhead_eq, here, List.flatMap_cons, begins]
        rfl
      rw [Cursor.atStatementEnd, next]
      rcases either with rfl | rfl <;> rfl
    rw [List.length_cons, Nat.add_right_comm, Reader.repeatUntil,
      run_bind_ok (show Reader.look _ c = .ok false c by rw [Reader.look, open_]),
      if_neg (by simp), run_bind_ok taken, rest]
    rfl

end Modifier

/-! ## 3. The readers of modifiers do not see places -/

open Reader (Concur)

theorem concur_ofWord (domain : Text) (m : Modifiers) {token token' : Token}
    (same : content token = content token') :
    Concur Eq (Modifiers.ofWord domain m token) (Modifiers.ofWord domain m token') := by
  have value : token.value = token'.value := congrArg Prod.snd same
  unfold Modifiers.ofWord
  simp only [value]
  exact .ite Iff.rfl ((Concur.expectInt _).bind_eq fun _ => .pure rfl) <|
    .ite Iff.rfl ((Concur.expectNumber _).bind_eq fun _ => .pure rfl) <|
    .ite Iff.rfl ((Concur.expectNumber _).bind_eq fun _ => (Concur.expectNumber _).bind_eq fun _ =>
      .pure rfl) <|
    .ite Iff.rfl ((Concur.point _ _).bind_eq fun _ => .pure rfl) <|
    .ite Iff.rfl ((Concur.point _ _).bind_eq fun _ => .pure rfl) <|
    .ite Iff.rfl (.pure rfl) <|
    (Concur.look (Cursor.sees_kindAhead 0)).bind_eq fun _ =>
      .ite Iff.rfl ((Concur.oneOf _ _ _ _ _).bind_eq fun _ =>
        (Concur.expectNumber _).bind_eq fun _ => .pure rfl) (.failAt _ _ rfl _ _)

theorem concur_step (domain : Text) (m : Modifiers) :
    Concur Eq (Modifiers.step domain m) (Modifiers.step domain m) :=
  Concur.next.bind fun token token' same => by
    have kind : token.kind = token'.kind := congrArg Prod.fst same
    rw [← kind]
    cases token.kind with
    | number =>
      exact .pure (congrArg (fun x => { m with numbers := m.numbers ++ [Reader.numberIn x] })
        (congrArg Prod.snd same))
    | word => exact concur_ofWord domain m same
    | _ => exact fun _ _ _ => rfl

theorem concur_pairFrom (numbers : List Float) (what : Text) :
    Concur Eq (pairFrom numbers what) (pairFrom numbers what) := by
  unfold pairFrom
  split <;> first | exact .pure rfl | exact .fail _

theorem concur_positionOf (m : Modifiers) (numbers : List Float) (what : Text) :
    Concur Eq (positionOf m numbers what) (positionOf m numbers what) := by
  unfold positionOf
  split
  · exact .pure rfl
  · exact concur_pairFrom numbers what

theorem concur_noBareNumbers (m : Modifiers) (domain : Text) :
    Concur Eq (noBareNumbers m domain) (noBareNumbers m domain) :=
  .ite Iff.rfl (.pure rfl) (.fail _)

theorem concur_sizeOf (kind : AssetKind) (m : Modifiers) :
    Concur Eq (sizeOf kind m) (sizeOf kind m) := by
  unfold sizeOf
  split
  · split <;> first | exact .pure rfl | exact .fail _
  · exact .pure rfl

/-- Two arrangements of modifiers are read alike, whatever stands behind them. -/
theorem alike_read (domain : Text) {gs gs' : List Modifier}
    (wellFormed : ∀ g ∈ gs, g.WellFormed)
    (same : ∀ k, gs.filter (·.kind = k) = gs'.filter (·.kind = k))
    {tail : List (TokenKind × Text)} {c c' : Cursor}
    (here : c.ahead = gs.flatMap Modifier.lexemes ++ tail)
    (there : c'.ahead = gs'.flatMap Modifier.lexemes ++ tail) :
    Alike Eq (Modifiers.read domain c) (Modifiers.read domain c') := by
  have perm := perm_of_filter_eq same
  have length : c'.ahead.length = c.ahead.length := by
    rw [here, there]
    simp [(perm.map _).sum_eq, List.length_flatMap]
  have enough : gs.length ≤ c.ahead.length := by
    rw [here, List.length_append]
    exact Nat.le_add_right_of_le (Modifier.length_le gs)
  obtain ⟨fuel, total⟩ := Nat.le.dest enough
  obtain ⟨d, run, left⟩ := Modifier.repeatUntil_step domain wellFormed here (fuel + 1) {}
  obtain ⟨d', run', left'⟩ := Modifier.repeatUntil_step domain
    (fun g hg => wellFormed g (perm.mem_iff.mpr hg)) there (fuel + 1) {}
  have fold : gs'.foldl Modifier.apply {} = gs.foldl Modifier.apply {} :=
    (foldl_of_filter_eq Modifier.apply_comm same {}).symm
  have concur := Concur.repeatUntil Cursor.sees_atStatementEnd (concur_step domain) (fuel + 1)
    (gs.foldl Modifier.apply {}) d d' (left.trans left'.symm)
  rw [fold] at run'
  rw [← run, ← run', perm.length_eq, ← Nat.add_assoc, ← perm.length_eq, total] at concur
  show Alike Eq
    (Reader.repeatUntil Cursor.atStatementEnd (Modifiers.step domain)
      (c.tokens.size - c.index + 1) {} c)
    (Reader.repeatUntil Cursor.atStatementEnd (Modifiers.step domain)
      (c'.tokens.size - c'.index + 1) {} c')
  rw [← Cursor.length_ahead, ← Cursor.length_ahead, length]
  exact concur

theorem concur_read (domain : Text) : Concur Eq (Modifiers.read domain) (Modifiers.read domain) :=
  fun c c' same => @alike_read domain [] [] (by simp) (fun _ => rfl) c.ahead c c' rfl same.symm

/-! ## 4. Statements with modifiers -/

/-- The positional arguments of the statements that take modifiers behind them. A character has an
expression or none; an expression is a word that begins no modifier and names no style. -/
inductive Positional : Text → List (TokenKind × Text) → Prop
  | scene {kind : TokenKind} {value : Text} (colored : kind ∈ [TokenKind.color, .string, .word]) :
      Positional "scene" [(.word, "color"), (kind, value)]
  | sceneImage (path : Text) : Positional "scene" [(.word, "image"), (.string, path)]
  | rect {word name : Text} (adds : word ∈ [Text.ofString "add", "show"])
      {kind : TokenKind} {value : Text} (colored : kind ∈ [TokenKind.color, .string, .word]) :
      Positional word [(.word, "rect"), (.word, name), (kind, value)]
  | image {word : Text} (adds : word ∈ [Text.ofString "add", "show"])
      (name path : Text) : Positional word [(.word, "image"), (.word, name), (.string, path)]
  | character {ident : Text} (image : ident ≠ "image") (rect : ident ≠ "rect") :
      Positional "show" [(.word, ident)]
  | expression {ident expression : Text} (image : ident ≠ "image") (rect : ident ≠ "rect")
      (begins : expression ∉ Modifiers.words) (anchor : expression ∉ anchorWords)
      (style : TransitionStyle.ofWord? expression = none) :
      Positional "show" [(.word, ident), (.word, expression)]
  | off (name : Text) : Positional "off" [(.word, name)]

theorem concur_character : Concur Eq character character :=
  (Concur.expectWord _).bind_eq fun _ => (Concur.look Cursor.sees_atExpression).bind_eq fun _ =>
    .ite Iff.rfl
      (Concur.bind_eq (r := some <$> Reader.expectWord "expression")
        ((Concur.expectWord _).bind_eq fun _ => .pure rfl) fun _ =>
          (concur_read _).bind_eq fun m => (concur_positionOf m _ _).bind_eq fun _ => .ending _)
      ((concur_read _).bind_eq fun m => (concur_positionOf m _ _).bind_eq fun _ => .ending _)

/-- What decides whether an expression is next, by the tokens ahead. -/
theorem atExpression_of_ahead {c : Cursor} {kind : TokenKind} {value : Text}
    {rest : List (TokenKind × Text)} (here : c.ahead = (kind, value) :: rest) :
    atExpression c = (decide (kind = .word) && !Modifiers.words.contains value &&
      !anchorWords.contains value &&
      !((TransitionStyle.ofWord? value).isSome && rest.head?.map (·.1) = some .number)) := by
  obtain ⟨token, peek, contents, -⟩ := Cursor.peek_of_ahead here
  obtain ⟨rfl, rfl⟩ := Prod.mk.inj contents
  have second : c.kindAhead 1 = rest.head?.map (·.1) := by
    rw [Cursor.kindAhead_eq, here, List.getElem?_cons_succ, List.head?_eq_getElem?]
  rw [atExpression, peek]
  simp only [second]

/-- A word that begins no modifier is read as an expression. -/
theorem atExpression_word {c : Cursor} {word : Text} {rest : List (TokenKind × Text)}
    (begins : word ∉ Modifiers.words) (anchor : word ∉ anchorWords)
    (style : TransitionStyle.ofWord? word = none) (here : c.ahead = (.word, word) :: rest) :
    atExpression c = true := by
  rw [atExpression_of_ahead here]
  simp [begins, anchor, style]

/-- In front of a modifier there is no expression. -/
theorem atExpression_modifiers {c : Cursor} {gs : List Modifier} (some : gs ≠ [])
    (wellFormed : ∀ g ∈ gs, g.WellFormed) {tail : List (TokenKind × Text)}
    (here : c.ahead = gs.flatMap Modifier.lexemes ++ tail) : atExpression c = false := by
  obtain ⟨g, gs, rfl⟩ := List.exists_cons_of_ne_nil some
  have h := wellFormed g List.mem_cons_self
  rw [List.flatMap_cons, List.append_assoc] at here
  cases g with
  | transition style seconds =>
    have named : (TransitionStyle.ofWord? style.word).isSome := by cases style <;> decide
    rw [atExpression_of_ahead here]
    simp [named]
  | anchor word =>
    rw [atExpression_of_ahead here]
    simp [show word ∈ anchorWords from h]
  | number numeral => rw [atExpression_of_ahead here]; rfl
  | z order => rw [atExpression_of_ahead here]; rfl
  | floating amplitude speed => rw [atExpression_of_ahead here]; rfl
  | size width height => rw [atExpression_of_ahead here]; rfl
  | pos x y => rw [atExpression_of_ahead here]; rfl

section Rearranged

variable {α β : Type} {gs gs' : List Modifier} {c c' : Cursor}
variable {lexeme : TokenKind × Text} {rest rest' tail : List (TokenKind × Text)}

/-- A token in front is taken the same way, whatever follows. -/
theorem alike_of_takes {r : Reader α} {a : α} (takes : Takes r [lexeme] a)
    (here : c.ahead = lexeme :: rest) (there : c'.ahead = lexeme :: rest') {f : α → Reader β}
    (behind : ∀ d d', d.ahead = rest → d'.ahead = rest' → Alike Eq (f a d) (f a d')) :
    Alike Eq ((r >>= f) c) ((r >>= f) c') := by
  obtain ⟨d, run, left⟩ := takes c rest here
  obtain ⟨d', run', left'⟩ := takes c' rest' there
  rw [run_bind_ok run, run_bind_ok run']
  exact behind d d' left left'

/-- The modifiers as read, and what is made of them. -/
theorem alike_of_read {domain : Text} (wellFormed : ∀ g ∈ gs, g.WellFormed)
    (same : ∀ k, gs.filter (·.kind = k) = gs'.filter (·.kind = k))
    (here : c.ahead = gs.flatMap Modifier.lexemes ++ tail)
    (there : c'.ahead = gs'.flatMap Modifier.lexemes ++ tail) {f : Modifiers → Reader β}
    (behind : ∀ m, Concur Eq (f m) (f m)) :
    Alike Eq ((Modifiers.read domain >>= f) c) ((Modifiers.read domain >>= f) c') :=
  (alike_read domain wellFormed same here there).bind fun m _ read d d' left =>
    read ▸ behind m d d' left

variable (wellFormed : ∀ g ∈ gs, g.WellFormed)
variable (same : ∀ k, gs.filter (·.kind = k) = gs'.filter (·.kind = k))
include wellFormed same

theorem alike_scene (kind : SceneKind) {word value : Text} {valueKind : TokenKind}
    (listed : [(Text.ofString "color", SceneKind.color), ("image", .image)].lookup word = some kind)
    (typed : match kind with
      | .color => valueKind ∈ [TokenKind.color, .string, .word]
      | .image => valueKind = .string)
    (here : c.ahead = (.word, word) :: (valueKind, value) :: (gs.flatMap Modifier.lexemes ++ tail))
    (there : c'.ahead =
      (.word, word) :: (valueKind, value) :: (gs'.flatMap Modifier.lexemes ++ tail)) :
    Alike Eq (scene c) (scene c') := by
  refine alike_of_takes (Takes.expectOneOf listed) here there
    fun d d' left left' => ?_
  cases kind with
  | color =>
    exact alike_of_takes (Takes.color _ typed) left left' fun e e' here there =>
      alike_of_read wellFormed same here there fun m =>
        (concur_noBareNumbers m _).bind_eq fun _ => .ending _
  | image =>
    subst typed
    exact alike_of_takes (Takes.expectString _ _) left left' fun e e' here there =>
      alike_of_read wellFormed same here there fun m =>
        (concur_noBareNumbers m _).bind_eq fun _ => .ending _

theorem alike_sprite (domain : Text) (kind : AssetKind) {word name value : Text}
    {valueKind : TokenKind}
    (listed : [(Text.ofString "image", AssetKind.image), ("rect", .rect)].lookup word = some kind)
    (typed : match kind with
      | .rect => valueKind ∈ [TokenKind.color, .string, .word]
      | .image => valueKind = .string)
    (here : c.ahead = (.word, word) :: (.word, name) :: (valueKind, value) ::
      (gs.flatMap Modifier.lexemes ++ tail))
    (there : c'.ahead = (.word, word) :: (.word, name) :: (valueKind, value) ::
      (gs'.flatMap Modifier.lexemes ++ tail)) :
    Alike Eq (sprite domain c) (sprite domain c') := by
  refine alike_of_takes (Takes.expectOneOf listed) here there
    fun d d' left left' => alike_of_takes (Takes.expectWord _ name) left left'
      fun e e' left left' => ?_
  cases kind with
  | rect =>
    exact alike_of_takes (Takes.color _ typed) left left' fun e e' here there =>
      alike_of_read wellFormed same here there fun m => (concur_sizeOf _ m).bind_eq fun _ =>
        (concur_positionOf m _ _).bind_eq fun _ => .ending _
  | image =>
    subst typed
    exact alike_of_takes (Takes.expectString _ _) left left' fun e e' here there =>
      alike_of_read wellFormed same here there fun m => (concur_sizeOf _ m).bind_eq fun _ =>
        (concur_positionOf m _ _).bind_eq fun _ => .ending _

theorem alike_off {name : Text}
    (here : c.ahead = (.word, name) :: (gs.flatMap Modifier.lexemes ++ tail))
    (there : c'.ahead = (.word, name) :: (gs'.flatMap Modifier.lexemes ++ tail)) :
    Alike Eq (off c) (off c') :=
  alike_of_takes (Takes.expectWord _ _) here there fun _ _ here there =>
    alike_of_read wellFormed same here there fun m =>
      (concur_noBareNumbers m _).bind_eq fun _ => .ending _

theorem alike_character {ident : Text}
    (here : c.ahead = (.word, ident) :: (gs.flatMap Modifier.lexemes ++ tail))
    (there : c'.ahead = (.word, ident) :: (gs'.flatMap Modifier.lexemes ++ tail)) :
    Alike Eq (character c) (character c') := by
  have perm := perm_of_filter_eq same
  by_cases none : gs = []
  · -- without modifiers the next word may be an expression, but both sequences are empty
    subst none
    cases List.nil_perm.mp perm
    exact concur_character c c' (here.trans there.symm)
  refine alike_of_takes (Takes.expectWord _ ident) here there fun d d' here there => ?_
  have seen : atExpression d = false := atExpression_modifiers none wellFormed here
  have seen' : atExpression d' = false :=
    atExpression_modifiers (fun h => none (List.perm_nil.mp (h ▸ perm)))
      (fun g hg => wellFormed g (perm.mem_iff.mpr hg)) there
  rw [run_bind_ok (show Reader.look atExpression d = .ok false d by rw [Reader.look, seen]),
    run_bind_ok (show Reader.look atExpression d' = .ok false d' by rw [Reader.look, seen'])]
  exact alike_of_read wellFormed same here there fun m =>
    (concur_positionOf m _ _).bind_eq fun _ => .ending _

theorem alike_expression {ident expression : Text} (begins : expression ∉ Modifiers.words)
    (anchor : expression ∉ anchorWords) (style : TransitionStyle.ofWord? expression = none)
    (here : c.ahead = (.word, ident) :: (.word, expression) ::
      (gs.flatMap Modifier.lexemes ++ tail))
    (there : c'.ahead = (.word, ident) :: (.word, expression) ::
      (gs'.flatMap Modifier.lexemes ++ tail)) :
    Alike Eq (character c) (character c') := by
  refine alike_of_takes (Takes.expectWord _ ident) here there
    fun d d' here there => ?_
  rw [run_bind_ok (show Reader.look atExpression d = .ok true d by
      rw [Reader.look, atExpression_word begins anchor style here]),
    run_bind_ok (show Reader.look atExpression d' = .ok true d' by
      rw [Reader.look, atExpression_word begins anchor style there])]
  have takes : Takes (some <$> Reader.expectWord "expression") [(.word, expression)]
      (some expression) := (Takes.expectWord _ expression).bind .pure
  exact alike_of_takes takes here there fun e e' here there =>
    alike_of_read wellFormed same here there fun m =>
      (concur_positionOf m _ _).bind_eq fun _ => .ending _

end Rearranged

/-! ## 5. Whole statements -/

/-- A statement that gives one command: the word it begins with, and what its reader makes of the
tokens behind. -/
theorem one_of_lookup (files : FileTree) (body : Builder Unit) (d : Draft) {word : Text}
    {reader : Reader Command} (listed : plainStatements.lookup word = some reader)
    (plain : word ∉ [Text.ofString "label", "include", "check", "loading", "call"]) {c : Cursor}
    {rest : List (TokenKind × Text)} (here : c.ahead = (.word, word) :: rest) :
    c.moved.ahead = rest ∧
      one files body { d with cursor := c } =
        match reader c.moved with
        | .ok command e => .ok () { d with cursor := e, commands := d.commands.push command }
        | .error f e => .error f { d with cursor := e } := by
  obtain ⟨token, peek, contents, left⟩ := Cursor.peek_of_ahead here
  obtain ⟨kind, value⟩ := Prod.mk.inj contents
  simp only [List.mem_cons, List.not_mem_nil, or_false, not_or] at plain
  refine ⟨left, ?_⟩
  unfold one
  rw [run_bind_ok (show Builder.look Cursor.peek { d with cursor := c } =
    .ok (some token) { d with cursor := c } by simp only [Builder.look, peek])]
  simp only [kind]
  unfold ofWord
  rw [run_bind_ok (show Builder.look _ { d with cursor := c } =
    .ok _ { d with cursor := c } from rfl)]
  simp only [value, plain, decide_false, Bool.false_and, Bool.false_eq_true, ↓reduceIte, listed]
  rw [run_bind_ok (show Builder.read Reader.skip { d with cursor := c } =
    .ok () { d with cursor := c.moved } from rfl)]
  cases h : reader c.moved with
  | ok command e =>
    rw [run_bind_ok (show Builder.read reader { d with cursor := c.moved } =
      .ok command { d with cursor := e } by simp [Builder.read, h])]
    rfl
  | error f e =>
    rw [run_bind_error (show Builder.read reader { d with cursor := c.moved } =
      .error f { d with cursor := e } by simp [Builder.read, h])]

/-- Before a kind of sprite and a name, an appearance is a sprite. -/
theorem appearance_sprite {start name : Text} (either : start = "image" ∨ start = "rect")
    {c : Cursor} {rest : List (TokenKind × Text)}
    (here : c.ahead = (.word, start) :: (.word, name) :: rest) :
    appearance c = sprite "show" c := by
  have begins : (c.isWord "image" || c.isWord "rect") = true := by
    rw [Bool.or_eq_true, Cursor.isWord_iff, Cursor.isWord_iff, here]
    simpa using either
  have second : c.kindAhead 1 = some .word := by
    rw [Cursor.kindAhead_eq, here]
    rfl
  unfold appearance
  rw [run_bind_ok (show Reader.look _ c = .ok true c by rw [Reader.look, begins, second]; rfl),
    if_pos rfl]

/-- Before any other word it is a character. -/
theorem appearance_character {ident : Text} (image : ident ≠ "image") (rect : ident ≠ "rect")
    {c : Cursor} {rest : List (TokenKind × Text)} (here : c.ahead = (.word, ident) :: rest) :
    appearance c = character c := by
  have begins : (c.isWord "image" || c.isWord "rect") = false := by
    rw [← Bool.not_eq_true, Bool.or_eq_true, Cursor.isWord_iff, Cursor.isWord_iff, here]
    simpa using ⟨image, rect⟩
  unfold appearance
  rw [run_bind_ok (show Reader.look _ c = .ok false c by rw [Reader.look, begins]; rfl),
    if_neg (by simp)]

/-- Both statements that give sprites read them alike. -/
theorem sprite_statement {word : Text}
    (adds : word ∈ [Text.ofString "add", "show"]) :
    ∃ reader, plainStatements.lookup word = some reader ∧
      word ∉ [Text.ofString "label", "include", "check", "loading", "call"] ∧
      ∀ {start : Text}, (start = "image" ∨ start = "rect") → ∃ domain, ∀ {name : Text} {c : Cursor}
        {rest : List (TokenKind × Text)}, c.ahead = (.word, start) :: (.word, name) :: rest →
        reader c = sprite domain c := by
  simp only [List.mem_cons, List.not_mem_nil, or_false] at adds
  rcases adds with rfl | rfl
  · exact ⟨sprite "add", rfl, by decide, fun _ => ⟨"add", fun _ => rfl⟩⟩
  · exact ⟨appearance, rfl, by decide, fun either => ⟨"show", appearance_sprite either⟩⟩

/-- The readers of the statements with modifiers find the same in two arrangements of them. -/
theorem alike_statement {word : Text} {arguments : List (TokenKind × Text)}
    (positional : Positional word arguments) {gs gs' : List Modifier}
    (wellFormed : ∀ g ∈ gs, g.WellFormed)
    (same : ∀ k, gs.filter (·.kind = k) = gs'.filter (·.kind = k))
    (tail : List (TokenKind × Text)) :
    ∃ reader, plainStatements.lookup word = some reader ∧
      word ∉ [Text.ofString "label", "include", "check", "loading", "call"] ∧
      ∀ c c' : Cursor, c.ahead = arguments ++ (gs.flatMap Modifier.lexemes ++ tail) →
        c'.ahead = arguments ++ (gs'.flatMap Modifier.lexemes ++ tail) →
        Alike Eq (reader c) (reader c') := by
  cases positional with
  | scene colored =>
    exact ⟨scene, rfl, by decide, fun c c' here there =>
      alike_scene wellFormed same .color rfl colored here there⟩
  | sceneImage path =>
    exact ⟨scene, rfl, by decide, fun c c' here there =>
      alike_scene wellFormed same .image rfl rfl here there⟩
  | rect adds colored =>
    obtain ⟨reader, listed, plain, reads⟩ := sprite_statement adds
    refine ⟨reader, listed, plain, fun c c' here there => ?_⟩
    obtain ⟨domain, read⟩ := reads (.inr rfl)
    rw [read here, read there]
    exact alike_sprite wellFormed same domain .rect rfl colored here there
  | image adds name path =>
    obtain ⟨reader, listed, plain, reads⟩ := sprite_statement adds
    refine ⟨reader, listed, plain, fun c c' here there => ?_⟩
    obtain ⟨domain, read⟩ := reads (.inl rfl)
    rw [read here, read there]
    exact alike_sprite wellFormed same domain .image rfl rfl here there
  | character image rect =>
    refine ⟨appearance, rfl, by decide, fun c c' here there => ?_⟩
    rw [appearance_character image rect here, appearance_character image rect there]
    exact alike_character wellFormed same here there
  | expression image rect begins anchor style =>
    refine ⟨appearance, rfl, by decide, fun c c' here there => ?_⟩
    rw [appearance_character image rect here, appearance_character image rect there]
    exact alike_expression wellFormed same begins anchor style here there
  | off name => exact ⟨off, rfl, by decide, fun c c' here there =>
      alike_off wellFormed same here there⟩

/-- Modifiers may stand in any order. Behind the positional arguments of a statement, let two
sequences of modifiers agree on the modifiers of each kind and their order. Then the statement gives
the same command with both, and goes on in front of the same tokens, or it is refused with both for
causes of the same name. -/
theorem reordered_modifiers (files : FileTree) (body : Builder Unit) (d : Draft) {word : Text}
    {arguments : List (TokenKind × Text)} (positional : Positional word arguments)
    {gs gs' : List Modifier} (wellFormed : ∀ g ∈ gs, g.WellFormed)
    (same : ∀ k, gs.filter (·.kind = k) = gs'.filter (·.kind = k))
    {tail : List (TokenKind × Text)} {c c' : Cursor}
    (here : c.ahead = (.word, word) :: (arguments ++ (gs.flatMap Modifier.lexemes ++ tail)))
    (there : c'.ahead = (.word, word) :: (arguments ++ (gs'.flatMap Modifier.lexemes ++ tail))) :
    (∃ command e e',
      one files body { d with cursor := c } =
        .ok () { d with cursor := e, commands := d.commands.push command } ∧
      one files body { d with cursor := c' } =
        .ok () { d with cursor := e', commands := d.commands.push command } ∧
      e.ahead = e'.ahead) ∨
    ∃ f f' e e',
      one files body { d with cursor := c } = .error f e ∧
      one files body { d with cursor := c' } = .error f' e' ∧
      f.cause.code = f'.cause.code := by
  obtain ⟨reader, listed, plain, reads⟩ := alike_statement positional wellFormed same tail
  obtain ⟨left, run⟩ := one_of_lookup files body d listed plain here
  obtain ⟨left', run'⟩ := one_of_lookup files body d listed plain there
  have alike := reads c.moved c'.moved left left'
  rw [run, run']
  cases h : reader c.moved <;> cases h' : reader c'.moved <;> rw [h, h'] at alike
  case ok.ok command e command' e' =>
    obtain ⟨rfl, ahead⟩ := alike
    exact .inl ⟨command, e, e', rfl, rfl, ahead⟩
  case error.error f e f' e' => exact .inr ⟨f, f', _, _, rfl, rfl, alike⟩
  all_goals exact alike.elim

/-- A script at its first statement. -/
def lineDraft (source : String) : Draft where
  cursor := ⟨((tokenize source none).toOption.getD []).toArray, "/main.vn", 0⟩
  counter := .nth 0

/-- Seven modifiers of four kinds. -/
def sevenModifiers : List Modifier :=
  [.anchor "left", .number "30", .z "2", .transition .wipe "1.5", .anchor "top", .number "40",
    .transition .fade "3"]

/-- The same in another order. -/
def sevenReordered : List Modifier :=
  [.number "30", .transition .wipe "1.5", .number "40", .anchor "left", .anchor "top",
    .transition .fade "3", .z "2"]

/-- The tokens of a line that shows a character with modifiers. -/
def aliceLine (gs : List Modifier) : List (TokenKind × Text) :=
  (TokenKind.word, Text.ofString "show") ::
    ([(TokenKind.word, Text.ofString "alice"), (.word, "happy")] ++
      (gs.flatMap Modifier.lexemes ++ [(TokenKind.semi, Text.ofString ";")]))

theorem reordered_modifiers_alice :
    ∃ command e e',
      one {} (pure ()) (lineDraft "show alice happy left 30 z 2 wipe 1.5 top 40 fade 3;") =
        .ok () { lineDraft "" with cursor := e, commands := #[command] } ∧
      one {} (pure ()) (lineDraft "show alice happy 30 wipe 1.5 40 left top fade 3 z 2;") =
        .ok () { lineDraft "" with cursor := e', commands := #[command] } ∧
      e.ahead = e'.ahead := by
  have positional : Positional "show" [(.word, "alice"), (.word, "happy")] :=
    .expression (by decide) (by decide) (by decide) (by decide) (by decide)
  have wellFormed : ∀ g ∈ sevenModifiers, g.WellFormed := by
    simp only [sevenModifiers, List.forall_mem_cons, List.not_mem_nil, false_implies, implies_true,
      and_true, Modifier.WellFormed, true_and]
    decide +kernel
  have same : ∀ k, sevenModifiers.filter (·.kind = k) = sevenReordered.filter (·.kind = k) := by
    intro k
    cases k <;> rfl
  have here : (lineDraft "show alice happy left 30 z 2 wipe 1.5 top 40 fade 3;").cursor.ahead =
      aliceLine sevenModifiers := by decide +kernel
  have there : (lineDraft "show alice happy 30 wipe 1.5 40 left top fade 3 z 2;").cursor.ahead =
      aliceLine sevenReordered := by decide +kernel
  rcases reordered_modifiers {} (pure ()) (lineDraft "") positional wellFormed same here there with
    given | ⟨f, _, e, _, refused, -⟩
  · exact given
  · have accepted : (match one {} (pure ())
        (lineDraft "show alice happy left 30 z 2 wipe 1.5 top 40 fade 3;") with
        | .ok _ _ => true
        | .error _ _ => false) = true := by decide +kernel
    have failed : one {} (pure ())
        (lineDraft "show alice happy left 30 z 2 wipe 1.5 top 40 fade 3;") = .error f e := refused
    rw [failed] at accepted
    cases accepted

end Statement
end VisualNovel
