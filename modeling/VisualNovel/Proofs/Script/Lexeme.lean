import VisualNovel.Proofs.Script.Reading

/-!
What the tokens of a script are read from.

The lexical grammar of scripts, stated without the lexer: `Lexeme` gives the kind and the value of each
stretch of text that is a token, `Comment` and `Layout` what may stand between tokens, and
`placeBehind` the place that belongs to an offset. A script that the lexer accepts is tiled by this
grammar (`tokens_tile`): the tokens are read one behind the other from stretches of the text that do
not overlap, there is layout and nothing else around them, and the span of each is that of its
stretch.

The lexer moves on by counts that each step returns. So the one fact about a step is what stands in the
units that it counts: a lexeme (`begins_of_step`), a blank or a comment (`skipped_of_step`). The only
step that counts no units is the one in front of two points and a digit, and a scan that gets there
does not end well (`scan_stalled`).
-/

namespace VisualNovel.Lexer

open Text (unit)

/-! ## 1. Places -/

/-- The place behind a text from its start: one line for each line feed, and one column for each unit
behind the last of them. -/
def placeBehind (t : Text) : Place :=
  ⟨1 + t.count (unit '\n'), 1 + (t.reverse.takeWhile (· ≠ unit '\n')).length⟩

theorem placeBehind_concat (t : Text) (u : UInt16) :
    placeBehind (t ++ [u]) = (placeBehind t).next u := by
  by_cases feed : u = unit '\n'
  · simp [placeBehind, Place.next, feed, Nat.add_assoc]
  · simp [placeBehind, Place.next, feed, Nat.add_comm]

/-- Places that are counted unit by unit are the places of the offsets. -/
theorem after_placeBehind (s t : Text) : (placeBehind s).after t = placeBehind (s ++ t) := by
  induction t generalizing s with
  | nil => simp [Place.after]
  | cons u t ih =>
    have moved := ih (s ++ [u])
    rw [placeBehind_concat, List.append_assoc] at moved
    exact moved

/-! ## 2. The grammar of tokens -/

/-- A letter behind a backslash, and the unit that the two stand for in a string. -/
inductive Escape : UInt16 → UInt16 → Prop
  | quote : Escape (unit '"') (unit '"')
  | backslash : Escape (unit '\\') (unit '\\')
  | line : Escape (unit 'n') (unit '\n')
  | tab : Escape (unit 't') (unit '\t')

/-- What stands between the quotes of a string, and its content. -/
inductive Quoted : Text → Text → Prop
  | nil : Quoted [] []
  | plain {u : UInt16} {body content : Text} (quote : u ≠ unit '"') (backslash : u ≠ unit '\\')
      (line : u ≠ unit '\n') (rest : Quoted body content) : Quoted (u :: body) (u :: content)
  | escaped {letter u : UInt16} {body content : Text} (escape : Escape letter u)
      (rest : Quoted body content) : Quoted (unit '\\' :: letter :: body) (u :: content)

/-- The sign of a numeral. -/
inductive Sign : Text → Prop
  | none : Sign []
  | minus : Sign [unit '-']
  | plus : Sign [unit '+']

/-- The part of a numeral behind its whole digits. -/
inductive Fraction : Text → Prop
  | none : Fraction []
  | point {u : UInt16} {digits : Text} (all : ∀ d ∈ u :: digits, Text.isDigit d) :
      Fraction (unit '.' :: u :: digits)

/-- A numeral: a sign, digits, and a point with digits, of which the digits in front of the point or
those behind it may be missing. -/
inductive Numeral : Text → Prop
  | mk {sign whole fraction : Text} (signed : Sign sign) (digits : ∀ u ∈ whole, Text.isDigit u)
      (scaled : Fraction fraction) (some : whole ++ fraction ≠ []) :
      Numeral (sign ++ (whole ++ fraction))

/-- The tokens that are written in one way only, and the operators. -/
def symbols : List (TokenKind × Text) :=
  [(.arrow, Text.ofString "->"), (.op, Text.ofString "=="), (.op, Text.ofString "!="),
    (.op, Text.ofString ">="), (.op, Text.ofString "<="), (.op, Text.ofString ">"),
    (.op, Text.ofString "<"), (.semi, Text.ofString ";"), (.colon, Text.ofString ":"),
    (.lbrace, Text.ofString "\x7b"), (.rbrace, Text.ofString "\x7d")]

/-- A token of a kind and with a value, and the text that it is read from. -/
inductive Lexeme : TokenKind → Text → Text → Prop
  | word {u : UInt16} {name : Text} (first : isWordStart u)
      (parts : ∀ v ∈ name, isWordPart v) : Lexeme .word (u :: name) (u :: name)
  | rooted {name : Text} (first : ∀ u ∈ name.head?, isWordStart u)
      (parts : ∀ v ∈ name, isWordPart v) :
      Lexeme .word (rootMark ++ name) (rootMark ++ name)
  | string {body content : Text} (quoted : Quoted body content) :
      Lexeme .string content (unit '"' :: (body ++ [unit '"']))
  | number {t : Text} (numeral : Numeral t) : Lexeme .number t t
  | color {hex : Text} (digits : ∀ u ∈ hex, Text.isHexDigit u) (length : hex.length ∈ [3, 4, 6, 8]) :
      Lexeme .color (unit '#' :: hex) (unit '#' :: hex)
  | symbol {kind : TokenKind} {t : Text} (listed : (kind, t) ∈ symbols) : Lexeme kind t t

/-- The front of a numeral without its sign: a digit, or a point with a digit behind it. -/
def Unsigned (t : Text) : Prop :=
  headIs Text.isDigit t ∨ headIs (· = unit '.') t ∧ headIs Text.isDigit (t.drop 1)

theorem Unsigned.head {t : Text} (h : Unsigned t) :
    ∃ u rest, t = u :: rest ∧ (Text.isDigit u ∨ u = unit '.') := by
  rcases t with - | ⟨u, rest⟩
  · rcases h with h | ⟨h, _⟩ <;> cases h
  · exact ⟨u, rest, rfl, h.imp id fun point => of_decide_eq_true point.1⟩

theorem unsigned_append {whole fraction : Text} (digits : ∀ u ∈ whole, Text.isDigit u)
    (scaled : Fraction fraction) (some : whole ++ fraction ≠ []) (rest : Text) :
    Unsigned (whole ++ (fraction ++ rest)) := by
  cases whole with
  | cons d whole => exact .inl (digits d List.mem_cons_self)
  | nil =>
    cases scaled with
    | none => exact absurd rfl some
    | point all => exact .inr ⟨rfl, all _ List.mem_cons_self⟩

theorem Unsigned.startsNumber {sign body : Text} (h : Unsigned body) (signed : Sign sign) :
    Lexer.startsNumber (sign ++ body) = true := by
  cases signed with
  | minus => simpa [Lexer.startsNumber, Unsigned] using Or.inr h
  | plus => simpa [Lexer.startsNumber, Unsigned] using Or.inr h
  | none =>
    obtain ⟨u, rest, rfl, _⟩ := h.head
    rcases h with digit | ⟨point, digit⟩
    · simp [Lexer.startsNumber, show Text.isDigit u = true from digit]
    · obtain rfl := of_decide_eq_true point
      simp [Lexer.startsNumber, show headIs Text.isDigit rest = true from digit]

theorem Numeral.startsNumber {t : Text} (h : Numeral t) (rest : Text) :
    Lexer.startsNumber (t ++ rest) = true := by
  obtain ⟨signed, digits, scaled, some⟩ := h
  rw [List.append_assoc, List.append_assoc]
  exact (unsigned_append digits scaled some rest).startsNumber signed

/-- Every lexeme begins with a unit that is no line feed. -/
theorem Lexeme.head {kind : TokenKind} {value lexeme : Text} (h : Lexeme kind value lexeme) :
    ∃ u rest, lexeme = u :: rest ∧ u ≠ unit '\n' := by
  cases h with
  | word first _ =>
    refine ⟨_, _, rfl, ?_⟩
    rintro rfl
    exact absurd first (by decide)
  | rooted _ _ => exact ⟨_, _, rfl, by decide⟩
  | string _ => exact ⟨_, _, rfl, by decide⟩
  | color _ _ => exact ⟨_, _, rfl, by decide⟩
  | symbol listed =>
    have all : ∀ m ∈ symbols, ∃ u rest, m.2 = u :: rest ∧ u ≠ unit '\n' := by
      simp [symbols, Text.ofString, Text.unitsOf, unit]
    exact all _ listed
  | number numeral =>
    have starts := numeral.startsNumber []
    rw [List.append_nil] at starts
    cases value with
    | nil => cases starts
    | cons u rest =>
      refine ⟨u, rest, rfl, ?_⟩
      rintro rfl
      exact absurd starts (by simp [Lexer.startsNumber, unit, Text.isDigit])

/-! ## 3. The grammar of layout -/

/-- A comment, without the line feed behind it. -/
inductive Comment : Text → Prop
  | slashes {t : Text} (line : unit '\n' ∉ t) : Comment (unit '/' :: unit '/' :: t)
  | hash {t : Text} (line : unit '\n' ∉ t) (blank : ∀ u ∈ t.head?, isGap u) :
      Comment (unit '#' :: t)

/-- Blanks, and comments with the line feeds that end them. -/
inductive Layout : Text → Prop
  | nil : Layout []
  | blank {u : UInt16} {t : Text} (blank : isGap u) (rest : Layout t) : Layout (u :: t)
  | comment {c t : Text} (comment : Comment c) (rest : Layout t) : Layout (c ++ unit '\n' :: t)

/-- Layout up to the end of the input, which may end a comment as well. -/
inductive Closing : Text → Prop
  | layout {t : Text} (layout : Layout t) : Closing t
  | comment {t c : Text} (layout : Layout t) (comment : Comment c) : Closing (t ++ c)

theorem Layout.append {s t : Text} (hs : Layout s) (ht : Layout t) : Layout (s ++ t) := by
  induction hs with
  | nil => exact ht
  | blank blank _ ih => exact .blank blank ih
  | comment comment _ ih =>
    rw [List.append_assoc, List.cons_append]
    exact .comment comment ih

/-! ## 4. What a step takes -/

/-- Two points and a digit: the numeral in front of them has no units. -/
def Stalled (t : Text) : Prop :=
  ∃ d rest, t = unit '.' :: unit '.' :: d :: rest ∧ Text.isDigit d

/-- A token stands at the front of a text, and takes a number of units. A root mark is all of a word in
front of a dollar sign only. -/
def Begins (t : Text) (kind : TokenKind) (value : Text) (count : Nat) : Prop :=
  ∃ lexeme rest, t = lexeme ++ rest ∧ lexeme.length = count ∧ Lexeme kind value lexeme ∧
    (lexeme = rootMark → rest.head? = some (unit '$'))

theorem begins_cons {u : UInt16} {more value : Text} {kind : TokenKind} (other : u ≠ unit ':')
    (lexeme : Lexeme kind value (u :: more)) (rest : Text) :
    Begins (u :: more ++ rest) kind value (more.length + 1) := by
  refine ⟨u :: more, rest, rfl, rfl, lexeme, fun root => absurd ?_ other⟩
  rw [rootMark_eq] at root
  exact (List.cons.inj root).1

theorem begins_of_colorStep {rest value : Text} {kind : TokenKind} {count : Nat}
    (h : colorStep rest = .token kind value count) : Begins (unit '#' :: rest) kind value count := by
  unfold colorStep at h
  simp only at h
  split at h
  · rename_i fits
    cases h
    have length : (rest.takeWhile Text.isHexDigit).length ∈ [3, 4, 6, 8] := by
      simpa [colorLengths] using (Bool.and_eq_true_iff.mp fits).1
    have color := begins_cons (by decide) (.color (Text.all_takeWhile _) length)
      (rest.dropWhile Text.isHexDigit)
    rwa [List.cons_append, List.takeWhile_append_dropWhile] at color
  · cases h

theorem escape_of_escapedUnit? {letter u : UInt16} (h : escapedUnit? letter = some u) :
    Escape letter u := by
  unfold escapedUnit? at h
  split at h
  · cases h; subst letter; exact .quote
  split at h
  · cases h; subst letter; exact .backslash
  split at h
  · cases h; subst letter; exact .line
  split at h
  · cases h; subst letter; exact .tab
  · cases h

/-- A string that ends well was quoted; what was read of it before stays in front. -/
theorem quoted_of_stringStep {t done value : Text} {kind : TokenKind} {n count : Nat}
    (h : stringStep done n t = .token kind value count) :
    kind = .string ∧ ∃ body content rest, t = body ++ unit '"' :: rest ∧ Quoted body content ∧
      value = done.reverse ++ content ∧ count = n + body.length + 1 := by
  fun_induction stringStep done n t with
  | case1 => cases h
  | case2 done n rest =>
    cases h
    exact ⟨rfl, [], [], rest, rfl, .nil, by simp, rfl⟩
  | case3 => cases h
  | case4 done n letter _ u escape _ ih =>
    obtain ⟨rfl, body, content, rest, rfl, quoted, rfl, rfl⟩ := ih h
    exact ⟨rfl, _, _, rest, rfl, .escaped (escape_of_escapedUnit? escape) quoted, by simp,
      by simp; omega⟩
  | case5 => cases h
  | case6 => cases h
  | case7 done n u rest quote backslash line ih =>
    obtain ⟨rfl, body, content, rest, rfl, quoted, rfl, rfl⟩ := ih h
    exact ⟨rfl, _, _, rest, rfl, .plain quote backslash line quoted, by simp, by simp; omega⟩

theorem begins_of_stringStep {rest value : Text} {kind : TokenKind} {count : Nat}
    (h : stringStep [] 1 rest = .token kind value count) :
    Begins (unit '"' :: rest) kind value count := by
  obtain ⟨rfl, body, content, rest, rfl, quoted, rfl, rfl⟩ := quoted_of_stringStep h
  have string := begins_cons (by decide) (.string quoted) rest
  simpa [Nat.add_comm] using string

/-- A fraction stands in front of a text, with the rest of the text behind it. -/
theorem fractionOf_spec (t : Text) : Fraction (fractionOf t) ∧ ∃ rest, t = fractionOf t ++ rest := by
  unfold fractionOf
  split
  · rename_i point
    rcases t with - | ⟨u, - | ⟨d, more⟩⟩
    · cases point
    · simp [headIs] at point
    · simp only [headIs, List.drop_succ_cons, List.drop_zero, Bool.and_eq_true, decide_eq_true_eq]
        at point
      obtain ⟨rfl, digit⟩ := point
      have digits : (d :: more).takeWhile Text.isDigit = d :: more.takeWhile Text.isDigit := by
        simp [digit]
      rw [List.drop_succ_cons, List.drop_zero, digits]
      refine ⟨.point (digits ▸ Text.all_takeWhile _), more.dropWhile Text.isDigit, ?_⟩
      simp
  · exact ⟨.none, t, rfl⟩

theorem signed_of_startsNumber {t : Text} (h : startsNumber t) :
    Stalled t ∨ ∃ sign body, t = sign ++ body ∧ Sign sign ∧ Unsigned body := by
  cases t with
  | nil => cases h
  | cons u rest =>
    simp only [startsNumber, Bool.or_eq_true, Bool.and_eq_true, decide_eq_true_eq] at h
    rcases h with digit | ⟨(rfl | rfl) | rfl, behind⟩
    · exact .inr ⟨[], u :: rest, rfl, .none, .inl digit⟩
    · exact .inr ⟨_, rest, rfl, .minus, behind⟩
    · exact .inr ⟨_, rest, rfl, .plus, behind⟩
    · rcases behind with digit | ⟨point, digit⟩
      · exact .inr ⟨[], _, rfl, .none, .inr ⟨rfl, digit⟩⟩
      · rcases rest with - | ⟨v, - | ⟨d, more⟩⟩
        · cases point
        · cases digit
        · simp only [headIs, decide_eq_true_eq] at point
          exact .inl ⟨d, more, by rw [point], digit⟩

/-- The numeral behind a sign. -/
theorem numeralOf_append {sign body : Text} (signed : Sign sign) (unsigned : Unsigned body) :
    numeralOf (sign ++ body) =
      sign ++ (body.takeWhile Text.isDigit ++ fractionOf (body.dropWhile Text.isDigit)) := by
  cases signed with
  | minus => rfl
  | plus => rfl
  | none =>
    obtain ⟨u, rest, rfl, first⟩ := unsigned.head
    have plain : u ≠ unit '-' ∧ u ≠ unit '+' := by
      constructor <;> rintro rfl <;> exact absurd first (by decide)
    simp [numeralOf, headIs, plain]

theorem Unsigned.ne_nil {t : Text} (h : Unsigned t) :
    t.takeWhile Text.isDigit ++ fractionOf (t.dropWhile Text.isDigit) ≠ [] := by
  obtain ⟨u, rest, rfl, _⟩ := h.head
  by_cases digit : Text.isDigit u
  · simp [digit]
  · obtain ⟨point, behind⟩ := h.resolve_left digit
    rw [List.dropWhile_cons_of_neg digit, fractionOf, if_pos (by rw [point, behind]; rfl)]
    simp

theorem begins_of_numberStep {t value : Text} {kind : TokenKind} {count : Nat}
    (starts : startsNumber t) (h : numberStep t = .token kind value count) :
    Stalled t ∨ Begins t kind value count := by
  refine (signed_of_startsNumber starts).imp id ?_
  rintro ⟨sign, body, rfl, signed, unsigned⟩
  unfold numberStep at h
  simp only at h
  split at h
  · cases h
  cases h
  rw [numeralOf_append signed unsigned]
  obtain ⟨fraction, rest, dropped⟩ := fractionOf_spec (body.dropWhile Text.isDigit)
  have numeral : Numeral _ := .mk signed (Text.all_takeWhile _) fraction unsigned.ne_nil
  refine ⟨_, rest, ?_, rfl, .number numeral, fun root => ?_⟩
  · rw [List.append_assoc, List.append_assoc, ← dropped, List.takeWhile_append_dropWhile]
  · have starts := numeral.startsNumber []
    rw [root] at starts
    exact absurd starts (by decide)

theorem cons_of_headIs {p : UInt16 → Bool} {t : Text} (h : headIs p t) :
    ∃ u rest, t = u :: rest ∧ p u := by
  cases t with
  | nil => cases h
  | cons u rest => exact ⟨u, rest, rfl, h⟩

theorem cons_of_headIs_unit {u : UInt16} {t : Text} (h : headIs (· = u) t) : ∃ rest, t = u :: rest := by
  obtain ⟨v, rest, rfl, same⟩ := cons_of_headIs h
  exact ⟨rest, by rw [of_decide_eq_true same]⟩

theorem begins_symbol {kind : TokenKind} {symbol : Text} (listed : (kind, symbol) ∈ symbols)
    (rest : Text) : Begins (symbol ++ rest) kind symbol symbol.length := by
  have other : ∀ s ∈ symbols, s.2 ≠ rootMark := by decide
  exact ⟨symbol, rest, rfl, rfl, .symbol listed, fun root => absurd root (other _ listed)⟩

/-- A step that takes one unit as a symbol. -/
theorem begins_unit {u : UInt16} {rest value : Text} {kind kind' : TokenKind} {count : Nat}
    (listed : (kind, [u]) ∈ symbols) (h : Step.token kind [u] 1 = .token kind' value count) :
    Stalled (u :: rest) ∨ Begins (u :: rest) kind' value count := by
  cases h
  exact .inr (begins_symbol listed rest)

theorem begins_root {rest : Text} (start : headIs isWordStart rest) :
    Begins (rootMark ++ rest) .word (rootMark ++ rest.takeWhile isWordPart)
      ((rest.takeWhile isWordPart).length + 2) := by
  obtain ⟨u, rest, rfl, first⟩ := cons_of_headIs start
  refine ⟨rootMark ++ (u :: rest).takeWhile isWordPart, (u :: rest).dropWhile isWordPart, ?_, ?_,
    .rooted ?_ (Text.all_takeWhile _), ?_⟩
  · rw [List.append_assoc, List.takeWhile_append_dropWhile]
  · simp [rootMark_eq]
  · intro v hv
    by_cases part : isWordPart u <;> simp [part] at hv
    exact hv ▸ first
  · intro root
    have unnamed : (u :: rest).takeWhile isWordPart = [] := List.append_right_eq_self.mp root
    by_cases part : isWordPart u
    · simp [part] at unnamed
    · -- A word begins with a dollar sign, or with a unit that may stand inside it as well.
      have dollar : u = unit '$' := by
        simp [isWordPart] at part
        simpa [isWordStart, part] using first
      rw [dollar, List.dropWhile_cons_of_neg (by decide), List.head?_cons]

/-- A step that gives a token has one in the units that it counts. -/
theorem begins_of_step {t value : Text} {kind : TokenKind} {count : Nat}
    (h : step t = .token kind value count) : Stalled t ∨ Begins t kind value count := by
  revert h
  fun_cases step t with
  | case5 => exact fun h => .inr (begins_of_colorStep h)
  | case6 => exact fun h => .inr (begins_of_stringStep h)
  | case7 u rest _ _ _ _ arrow =>
    intro h
    cases h
    simp only [Bool.and_eq_true, decide_eq_true_eq] at arrow
    obtain ⟨rfl, close⟩ := arrow
    obtain ⟨rest, rfl⟩ := cons_of_headIs_unit close
    have listed : (TokenKind.arrow, Text.ofString "->") ∈ symbols := by decide
    exact .inr (begins_symbol listed rest)
  | case8 _ _ _ _ _ _ _ starts => exact begins_of_numberStep starts
  | case9 u rest _ _ _ _ _ _ root =>
    intro h
    cases h
    simp only [Bool.and_eq_true, decide_eq_true_eq] at root
    obtain ⟨⟨rfl, second⟩, start⟩ := root
    obtain ⟨rest, rfl⟩ := cons_of_headIs_unit second
    exact .inr (begins_root start)
  | case10 u rest _ _ _ _ _ _ _ start =>
    intro h
    cases h
    have other : u ≠ unit ':' := by
      rintro rfl
      exact absurd start (by decide)
    have word := begins_cons other (.word start (Text.all_takeWhile rest))
      (rest.dropWhile isWordPart)
    rw [List.cons_append, List.takeWhile_append_dropWhile] at word
    exact .inr word
  | case11 u rest _ _ _ _ _ _ _ _ equality =>
    intro h
    cases h
    simp only [Bool.and_eq_true, Bool.or_eq_true, decide_eq_true_eq] at equality
    obtain ⟨first, second⟩ := equality
    obtain ⟨rest, rfl⟩ := cons_of_headIs_unit second
    have listed : (TokenKind.op, [u, unit '=']) ∈ symbols := by
      rcases first with rfl | rfl <;> decide
    exact .inr (begins_symbol listed rest)
  | case12 u rest _ _ _ _ _ _ _ _ _ order equal =>
    intro h
    cases h
    obtain ⟨rest, rfl⟩ := cons_of_headIs_unit equal
    have listed : (TokenKind.op, [u, unit '=']) ∈ symbols := by
      rcases Bool.or_eq_true_iff.mp order with first | first <;>
        rw [of_decide_eq_true first] <;> decide
    exact .inr (begins_symbol listed rest)
  | case13 u rest _ _ _ _ _ _ _ _ _ order _ =>
    refine begins_unit ?_
    rcases Bool.or_eq_true_iff.mp order with first | first <;>
      rw [of_decide_eq_true first] <;> decide
  | case14 => exact begins_unit (by decide)
  | case15 => exact begins_unit (by decide)
  | case16 => exact begins_unit (by decide)
  | case17 => exact begins_unit (by decide)
  | _ => intro h; cases h

/-- The units up to a line feed, and what stands behind them. -/
theorem line_spec (t : Text) : unit '\n' ∉ t.takeWhile (· ≠ unit '\n') ∧
    ∀ u ∈ (t.dropWhile (· ≠ unit '\n')).head?, u = unit '\n' := by
  constructor
  · intro feed
    exact absurd rfl (of_decide_eq_true (Text.all_takeWhile t _ feed))
  · intro u hu
    have stop := List.head?_dropWhile_not (· ≠ unit '\n') t
    rw [Option.mem_def.mp hu] at stop
    simpa using stop

/-- A comment stands at the front of a text, takes a number of units, and goes on up to the end of its
line. -/
def Comments (t : Text) (count : Nat) : Prop :=
  ∃ c rest, t = c ++ rest ∧ c.length = count ∧ Comment c ∧ ∀ u ∈ rest.head?, u = unit '\n'

theorem comments_line {t : Text} (comment : Comment (t.takeWhile (· ≠ unit '\n'))) :
    Comments t (lineLength t) :=
  ⟨_, t.dropWhile (· ≠ unit '\n'), List.takeWhile_append_dropWhile.symm, rfl, comment,
    (line_spec t).2⟩

theorem colorStep_ne_skip (rest : Text) (count : Nat) : colorStep rest ≠ .skip count := by
  unfold colorStep
  simp only
  split <;> simp

theorem stringStep_ne_skip (done : Text) (n : Nat) (t : Text) (count : Nat) :
    stringStep done n t ≠ .skip count := by
  fun_induction stringStep done n t <;> simp_all

theorem numberStep_ne_skip (t : Text) (count : Nat) : numberStep t ≠ .skip count := by
  unfold numberStep
  simp only
  split <;> simp

/-- A step that skips units has a blank or a comment in them. -/
theorem skipped_of_step {u : UInt16} {rest : Text} {count : Nat}
    (h : step (u :: rest) = .skip count) :
    isGap u ∧ count = 1 ∨ Comments (u :: rest) count := by
  revert h
  generalize front : u :: rest = t
  fun_cases step t with
  | case1 => cases front
  | case2 v more blank =>
    intro h
    cases h
    cases front
    exact .inl ⟨blank, rfl⟩
  | case3 v more _ slashes =>
    intro h
    cases h
    simp only [Bool.and_eq_true, decide_eq_true_eq] at slashes
    obtain ⟨rfl, second⟩ := slashes
    obtain ⟨rest, rfl⟩ := cons_of_headIs_unit second
    exact .inr (comments_line (.slashes (line_spec rest).1))
  | case4 more opens _ _ =>
    intro h
    cases h
    refine .inr (comments_line (.hash (line_spec more).1 ?_))
    intro v hv
    cases more with
    | nil => cases hv
    | cons w more =>
      have blank : isGap w := by simpa [headIs] using opens
      by_cases feed : w = unit '\n' <;> simp [feed] at hv
      exact hv ▸ blank
  | case5 => exact fun h => absurd h (colorStep_ne_skip _ _)
  | case6 => exact fun h => absurd h (stringStep_ne_skip _ _ _ _)
  | case8 => exact fun h => absurd h (numberStep_ne_skip _ _)
  | _ => intro h; cases h

/-- The units that are looked for before all classes but that of the blanks. -/
def openers : List UInt16 :=
  [unit ' ', unit '\t', unit '\r', unit '\n', unit '/', unit '#', unit '"']

theorem not_mem_of_class {p : UInt16 → Bool} {u : UInt16} (member : p u) {vs : List UInt16}
    (others : vs.any p = false) : u ∉ vs :=
  fun mem => List.any_eq_false.mp others u mem member

theorem not_opener_of_class {p : UInt16 → Bool} {u : UInt16} (member : p u)
    (others : openers.any p = false) :
    isGap u = false ∧ u ≠ unit '/' ∧ u ≠ unit '#' ∧ u ≠ unit '"' := by
  have other := not_mem_of_class member others
  simp only [openers, List.mem_cons, List.not_mem_nil, or_false, not_or] at other
  simp [isGap, other]

/-- The units that a numeral can begin with. -/
def isNumeralStart (u : UInt16) : Bool :=
  Text.isDigit u || u = unit '-' || u = unit '+' || u = unit '.'

/-- Nothing that is looked for earlier begins like a numeral. -/
theorem step_eq_numberStep {t : Text} (starts : startsNumber t) : step t = numberStep t := by
  cases t with
  | nil => cases starts
  | cons u rest =>
    have first : isNumeralStart u := by
      simp only [startsNumber, isNumeralStart, Bool.or_eq_true, Bool.and_eq_true,
        decide_eq_true_eq] at starts ⊢
      tauto
    have other := not_opener_of_class first (by decide)
    have arrow : (decide (u = unit '-') && headIs (· = unit '>') rest) = false := by
      refine Bool.eq_false_iff.mpr fun arrow => ?_
      simp only [Bool.and_eq_true, decide_eq_true_eq] at arrow
      obtain ⟨rfl, close⟩ := arrow
      obtain ⟨rest, rfl⟩ := cons_of_headIs_unit close
      cases starts
    simp [step, other, arrow, starts]

/-- In front of two points and a digit stands a numeral of no units. -/
theorem step_stalled {t : Text} (stalled : Stalled t) : step t = .token .number [] 0 := by
  obtain ⟨d, rest, rfl, digit⟩ := stalled
  have starts : startsNumber (unit '.' :: unit '.' :: d :: rest) := digit
  exact (step_eq_numberStep starts).trans rfl

/-- The lexer makes no progress in front of two points and a digit. -/
theorem scan_stalled {file : Option Text} {t : Text} (stalled : Stalled t) (fuel : Nat) (place : Place)
    (done tokens : List Token) : scan file fuel t place done ≠ .ok tokens := by
  have idle := step_stalled stalled
  obtain ⟨d, rest, rfl, _⟩ := stalled
  induction fuel generalizing place done with
  | zero => exact fun h => nomatch h
  | succ fuel ih =>
    rw [scan, idle]
    exact ih _ _

/-! ## 5. Tiles -/

/-- A token is read from the stretch of a text between two offsets. -/
structure ReadFrom (source : Text) (a b : Nat) (token : Token) : Prop where
  lexeme : Lexeme token.kind token.value (source.extract a b)
  span : token.span = ⟨placeBehind (source.take a), placeBehind (source.take b)⟩
  root : source.extract a b = rootMark → source[b]? = some (unit '$')

/-- A text from an offset on is tiled by tokens, with layout around them. -/
inductive Tiled (source : Text) : Nat → List Token → Prop
  | last {i : Nat} (inside : i ≤ source.length) (gap : Closing (source.drop i)) : Tiled source i []
  | token {i a b : Nat} {token : Token} {tokens : List Token} (order : i ≤ a) (some : a < b)
      (inside : b ≤ source.length) (gap : Layout (source.extract i a))
      (read : ReadFrom source a b token) (rest : Tiled source b tokens) :
      Tiled source i (token :: tokens)

/-- Every token of a tiling is read from a lexeme. -/
theorem Tiled.lexed {source : Text} {i : Nat} {tokens : List Token} (h : Tiled source i tokens) :
    ∀ token ∈ tokens, ∃ lexeme, Lexeme token.kind token.value lexeme := by
  induction h with
  | last => exact fun _ mem => nomatch mem
  | token _ _ _ _ read _ ih =>
    rintro token (_ | ⟨_, mem⟩)
    · exact ⟨_, read.lexeme⟩
    · exact ih token mem

theorem extract_middle (before middle behind : Text) :
    (before ++ middle ++ behind).extract before.length (before ++ middle).length = middle := by
  simp

/-- Tiles are put together from the parts of a text. -/
theorem Tiled.cons {before gap lexeme behind value : Text} {kind : TokenKind} {tokens : List Token}
    (layout : Layout gap) (read : Lexeme kind value lexeme)
    (root : lexeme = rootMark → behind.head? = some (unit '$'))
    (rest : Tiled (before ++ gap ++ lexeme ++ behind) (before ++ gap ++ lexeme).length tokens) :
    Tiled (before ++ gap ++ lexeme ++ behind) before.length
      (⟨kind, value, ⟨placeBehind (before ++ gap), placeBehind (before ++ gap ++ lexeme)⟩⟩ ::
        tokens) := by
  have stretch := extract_middle (before ++ gap) lexeme behind
  have between : (before ++ gap ++ lexeme ++ behind).extract before.length (before ++ gap).length =
      gap := by
    rw [List.append_assoc (before ++ gap)]
    exact extract_middle before gap (lexeme ++ behind)
  obtain ⟨u, more, form, _⟩ := read.head
  refine .token (by simp) ?_ (by simp) (between.symm ▸ layout) ⟨stretch.symm ▸ read, ?_, ?_⟩ rest
  · simp [form]
  · rw [List.take_left, List.append_assoc (before ++ gap), List.take_left]
  · rw [stretch, List.getElem?_append_right (by simp)]
    simpa [List.head?_eq_getElem?] using root

/-- The gap behind a token up to where the lexer stands: layout, or layout with a comment behind it
whose line ends there. -/
inductive Pending (gap t : Text) : Prop
  | layout (layout : Layout gap)
  | comment {g c : Text} (form : gap = g ++ c) (layout : Layout g) (comment : Comment c)
      (line : ∀ u ∈ t.head?, u = unit '\n')

theorem Pending.closing {gap : Text} (h : Pending gap []) : Closing gap := by
  cases h with
  | layout layout => exact .layout layout
  | comment form layout comment _ => exact form ▸ .comment layout comment

theorem Pending.layout_of_ne {gap t : Text} {u : UInt16} (h : Pending gap (u :: t))
    (other : u ≠ unit '\n') : Layout gap := by
  cases h with
  | layout layout => exact layout
  | comment _ _ _ line => exact absurd (line u rfl) other

theorem Pending.blank {gap t : Text} {u : UInt16} (h : Pending gap (u :: t))
    (blank : isGap u) : Layout (gap ++ [u]) := by
  cases h with
  | layout layout => exact layout.append (.blank blank .nil)
  | comment form layout comment line =>
    obtain rfl := line u rfl
    rw [form, List.append_assoc]
    exact layout.append (.comment comment .nil)

/-- A comment begins with a unit that is no line feed. -/
theorem Comment.head {c : Text} (h : Comment c) : ∃ u rest, c = u :: rest ∧ u ≠ unit '\n' := by
  cases h with
  | slashes _ => exact ⟨_, _, rfl, by decide⟩
  | hash _ _ => exact ⟨_, _, rfl, by decide⟩

theorem Pending.comments {gap c t : Text} (h : Pending gap (c ++ t)) (comment : Comment c)
    (line : ∀ u ∈ t.head?, u = unit '\n') : Pending (gap ++ c) t := by
  obtain ⟨u, rest, rfl, other⟩ := comment.head
  exact .comment rfl (h.layout_of_ne other) comment line

/-- A scan that ends well tiles what it reads, behind the tokens that it has already. -/
theorem tiled_of_scan {file : Option Text} {fuel : Nat} {t : Text} {place : Place}
    {done tokens : List Token} (h : scan file fuel t place done = .ok tokens) {before gap : Text}
    (pending : Pending gap t) (here : place = placeBehind (before ++ gap)) :
    ∃ more, tokens = done.reverse ++ more ∧ Tiled (before ++ gap ++ t) before.length more := by
  fun_induction scan file fuel t place done generalizing before gap with
  | case1 =>
    cases h
    refine ⟨[], (List.append_nil _).symm, .last (by simp) ?_⟩
    rw [List.append_nil, List.drop_left]
    exact pending.closing
  | case2 => cases h
  | case3 fuel u rest place done t count hstep ih =>
    rcases skipped_of_step hstep with ⟨blank, rfl⟩ | ⟨c, behind, form, rfl, comment, line⟩
    · obtain ⟨more, htokens, tiled⟩ := ih h (.layout (pending.blank blank))
        (by rw [here, after_placeBehind, List.append_assoc]; rfl)
      exact ⟨more, htokens, by simpa [t] using tiled⟩
    · simp only [t, form, List.drop_left, List.take_left] at ih h
      rw [form] at pending ⊢
      obtain ⟨more, htokens, tiled⟩ := ih h (pending.comments comment line)
        (by rw [here, after_placeBehind, List.append_assoc])
      exact ⟨more, htokens, by simpa using tiled⟩
  | case4 fuel u rest place done t kind value count hstep behind =>
    rename_i ih
    rcases begins_of_step (t := u :: rest) hstep with
      stalled | ⟨lexeme, after, form, rfl, read, root⟩
    · have whole : scan file (fuel + 1) (u :: rest) place done = .ok tokens := by
        rw [scan, show step (u :: rest) = _ from hstep]
        exact h
      exact absurd whole (scan_stalled stalled _ _ _ _)
    · simp only [behind, t, form, List.drop_left, List.take_left] at ih h
      rw [form] at pending ⊢
      obtain ⟨v, others, rfl, other⟩ := read.head
      have layout := pending.layout_of_ne other
      have moved : place.after (v :: others) = placeBehind (before ++ gap ++ v :: others) := by
        rw [here, after_placeBehind]
      obtain ⟨more, htokens, tiled⟩ := ih h (.layout .nil) (by rw [moved, List.append_nil])
      rw [List.append_nil] at tiled
      rw [moved, here, List.reverse_cons, List.append_assoc] at htokens
      rw [← List.append_assoc]
      exact ⟨_ :: more, htokens, .cons layout read root tiled⟩
  | case5 => cases h

/-- The tokens of a script tile its text: each is read from a stretch of it and has the kind, the value
and the span of the stretch, and what stands before, between and behind the stretches is layout. -/
theorem tokens_tile {source : Text} {file : Option Text} {tokens : List Token}
    (h : tokenize source file = .ok tokens) : Tiled source 0 tokens := by
  have first : Place.start = placeBehind ([] ++ []) := rfl
  obtain ⟨more, rfl, tiled⟩ := tiled_of_scan h (.layout .nil) first
  exact tiled

/-- A comment, a root mark in front of a dollar sign, a numeral without whole digits, a string with an
escape, and a comment that the input ends. -/
def mixedLine : Text := Text.ofString "// x\n::$ -.5\t\"\\n\"#"

/-- The tokens of that text. -/
def mixedTokens : List Token :=
  [⟨.word, Text.ofString "::", ⟨⟨2, 1⟩, ⟨2, 3⟩⟩⟩, ⟨.word, Text.ofString "$", ⟨⟨2, 3⟩, ⟨2, 4⟩⟩⟩,
    ⟨.number, Text.ofString "-.5", ⟨⟨2, 5⟩, ⟨2, 8⟩⟩⟩,
    ⟨.string, Text.ofString "\n", ⟨⟨2, 9⟩, ⟨2, 13⟩⟩⟩]

theorem tokens_tile_mixed :
    tokenize mixedLine none = .ok mixedTokens ∧ Tiled mixedLine 0 mixedTokens := by
  have run : tokenize mixedLine none = .ok mixedTokens := by decide +kernel
  exact ⟨run, tokens_tile run⟩

end VisualNovel.Lexer
