import VisualNovel.Proofs.Script.Lexeme

/-!
Printing the tokens of a script and reading them again.

A token is printed as what it was read from, but for a string, which is printed in quotes with its
escapes (`printToken`). `Printing` puts any layout between tokens, as long as there is some. What is
printed reads back as the same kinds and values (`printing_reads_back`): of a token and the text behind
it, a step takes the token and nothing else (`LexesTo`), and layout takes no part in the tokens
(`skipsTo_layout`).

Only a blank or a comment follows a printed token, so what `Stops` says of the text behind it rules out
that a class of units goes on there. The one token that does not read back is a root mark that is all
of a word. It is read in front of a dollar sign only, and with layout behind it the two colons are two
tokens.
-/

namespace VisualNovel.Lexer

open Text (unit)

/-! ## 1. Printed tokens -/

/-- A unit as it stands in the quotes of a string. -/
def escapeUnit (u : UInt16) : Text :=
  if u = unit '"' then [unit '\\', unit '"']
  else if u = unit '\\' then [unit '\\', unit '\\']
  else if u = unit '\n' then [unit '\\', unit 'n']
  else if u = unit '\t' then [unit '\\', unit 't']
  else [u]

/-- A string as it is printed. -/
def quote (t : Text) : Text := unit '"' :: (t.flatMap escapeUnit ++ [unit '"'])

/-- A token as it is printed. -/
def printToken (token : Token) : Text :=
  if token.kind = .string then quote token.value else token.value

/-- What a token says, wherever it stands. -/
def content (token : Token) : TokenKind × Text := (token.kind, token.value)

/-- Tokens and a text that they are printed as: there is layout behind each of them, and some layout
between two of them. -/
inductive Printing : List Token → Text → Prop
  | last {t : Text} (gap : Closing t) : Printing [] t
  | token {token : Token} {tokens : List Token} {gap t : Text} (layout : Layout gap)
      (apart : tokens ≠ [] → gap ≠ []) (rest : Printing tokens t) :
      Printing (token :: tokens) (printToken token ++ (gap ++ t))

theorem quoted_escapes (t : Text) : Quoted (t.flatMap escapeUnit) t := by
  induction t with
  | nil => exact .nil
  | cons u t ih =>
    rw [List.flatMap_cons, escapeUnit]
    split
    · next quote => subst quote; exact .escaped .quote ih
    split
    · next backslash => subst backslash; exact .escaped .backslash ih
    split
    · next line => subst line; exact .escaped .line ih
    split
    · next tab => subst tab; exact .escaped .tab ih
    · next quote backslash line _ => exact .plain quote backslash line ih

theorem lexeme_quote (t : Text) : Lexeme .string t (quote t) := .string (quoted_escapes t)

/-- A token that was read from a lexeme is printed as one. -/
theorem Lexeme.printToken {token : Token} {lexeme : Text}
    (h : Lexeme token.kind token.value lexeme) :
    Lexeme token.kind token.value (printToken token) := by
  obtain ⟨kind, value, span⟩ := token
  by_cases string : kind = .string
  · subst string
    exact lexeme_quote value
  · rw [Lexer.printToken, if_neg string]
    cases h with
    | string _ => exact absurd rfl string
    | word first parts => exact .word first parts
    | rooted first parts => exact .rooted first parts
    | number numeral => exact .number numeral
    | color digits length => exact .color digits length
    | symbol listed => exact .symbol listed

/-- Only a word is a root mark. -/
theorem Lexeme.kind_of_root {kind : TokenKind} {value : Text} (h : Lexeme kind value rootMark) :
    (kind, value) = (.word, rootMark) := by
  generalize form : rootMark = lexeme at h
  cases h with
  | rooted _ _ => rw [← form]
  | word first _ =>
    obtain ⟨rfl, _⟩ := List.cons.inj (rootMark_eq.symm.trans form)
    exact absurd first (by decide)
  | string _ => exact absurd form (by simp [rootMark_eq, unit])
  | color _ _ => exact absurd form (by simp [rootMark_eq, unit])
  | number numeral =>
    have starts := numeral.startsNumber []
    rw [← form] at starts
    exact absurd starts (by decide)
  | symbol listed =>
    have other : ∀ s ∈ symbols, s.2 ≠ rootMark := by decide
    exact absurd form.symm (other _ listed)

/-! ## 2. What may follow a token -/

/-- The units that may follow a printed token: blanks, and those that open a comment. -/
def stops : List UInt16 :=
  [unit ' ', unit '\t', unit '\r', unit '\n', unit '/', unit '#']

/-- A text that a printed token ends in front of. -/
def Stops (t : Text) : Prop := ∀ u ∈ t.head?, u ∈ stops

/-- No class without such units goes on there. -/
theorem Stops.clear {p : UInt16 → Bool} {t : Text} (h : Stops t) (none : stops.any p = false) :
    ∀ u ∈ t.head?, p u = false :=
  fun u mem => Bool.eq_false_iff.mpr (List.any_eq_false.mp none u (h u mem))

theorem Stops.headIs {p : UInt16 → Bool} {t : Text} (h : Stops t) (none : stops.any p = false) :
    headIs p t = false := by
  cases t with
  | nil => rfl
  | cons u t => exact h.clear none u rfl

theorem stops_of_isGap {u : UInt16} (h : isGap u) : u ∈ stops := by
  simp only [isGap, Bool.or_eq_true, decide_eq_true_eq] at h
  rcases h with ((rfl | rfl) | rfl) | rfl <;> simp [stops]

theorem Comment.stops {c : Text} (h : Comment c) (t : Text) : Stops (c ++ t) := by
  cases h with
  | slashes _ =>
    rintro u ⟨⟩
    simp [Lexer.stops]
  | hash _ _ =>
    rintro u ⟨⟩
    simp [Lexer.stops]

theorem Layout.stops {gap t : Text} (h : Layout gap) (rest : gap = [] → Stops t) :
    Stops (gap ++ t) := by
  cases h with
  | nil => exact rest rfl
  | blank blank _ =>
    rintro u ⟨⟩
    exact stops_of_isGap blank
  | comment comment _ =>
    rw [List.append_assoc]
    exact comment.stops _

theorem Closing.stops {t : Text} (h : Closing t) : Stops t := by
  have none : Stops [] := fun _ h => nomatch h
  cases h with
  | layout layout => simpa using layout.stops fun _ => none
  | comment layout comment =>
    have behind := comment.stops []
    rw [List.append_nil] at behind
    exact layout.stops fun _ => behind

/-- Behind a printed token there is layout, or the end of the input. -/
theorem Printing.stops {tokens : List Token} {gap t : Text} (h : Printing tokens t)
    (layout : Layout gap) (apart : tokens ≠ [] → gap ≠ []) : Stops (gap ++ t) := by
  refine layout.stops fun none => ?_
  cases h with
  | last closing => exact closing.stops
  | token => exact absurd none (apart (List.cons_ne_nil _ _))

/-! ## 3. One token -/

/-- A step in front of a text and something that a printed token ends in front of takes the text as a
token. -/
def LexesTo (kind : TokenKind) (value lexeme : Text) : Prop :=
  ∀ t, Stops t → step (lexeme ++ t) = .token kind value lexeme.length

theorem isDigit_of_isWordStart {u : UInt16} (h : isWordStart u) : Text.isDigit u = false := by
  simp only [isWordStart, Text.isLetter, Text.isDigit, unit, UInt16.le_iff_toNat_le,
    ← UInt16.toNat_inj, Bool.or_eq_true, Bool.and_eq_true, decide_eq_true_eq,
    Bool.and_eq_false_iff, decide_eq_false_iff_not] at h ⊢
  simp at h ⊢
  omega

theorem lexesTo_word {u : UInt16} {name : Text} (first : isWordStart u)
    (parts : ∀ v ∈ name, isWordPart v) : LexesTo .word (u :: name) (u :: name) := by
  intro t stops
  obtain ⟨taken, _⟩ := Text.span_class parts (stops.clear (by decide))
  have other := not_opener_of_class first (by decide)
  have digit := isDigit_of_isWordStart first
  have sign : u ∉ [unit '-', unit '+', unit '.', unit ':'] := not_mem_of_class first (by decide)
  simp only [List.mem_cons, List.not_mem_nil, or_false, not_or] at sign
  simp [step, other, sign, startsNumber, digit, first, taken]

theorem lexesTo_root {u : UInt16} {name : Text} (first : isWordStart u)
    (parts : ∀ v ∈ u :: name, isWordPart v) :
    LexesTo .word (rootMark ++ u :: name) (rootMark ++ u :: name) := by
  intro t stops
  obtain ⟨taken, _⟩ := Text.span_class parts (stops.clear (by decide))
  have read : step (unit ':' :: unit ':' :: (u :: name ++ t)) =
      if headIs isWordStart (u :: name ++ t) then
        .token .word (rootMark ++ (u :: name ++ t).takeWhile isWordPart)
          (((u :: name ++ t).takeWhile isWordPart).length + 2)
      else .token .colon [unit ':'] 1 := rfl
  have start : headIs isWordStart (u :: name ++ t) = true := first
  rw [if_pos start, taken, rootMark_eq] at read
  rw [rootMark_eq]
  exact read

theorem escapedUnit?_of_escape {letter u : UInt16} (h : Escape letter u) :
    escapedUnit? letter = some u := by
  cases h <;> rfl

theorem stringStep_quoted {body content : Text} (h : Quoted body content) (done : Text) (n : Nat)
    (t : Text) : stringStep done n (body ++ unit '"' :: t) =
      .token .string (done.reverse ++ content) (n + body.length + 1) := by
  induction h generalizing done n with
  | nil =>
    rw [List.nil_append, stringStep.eq_def]
    simp
  | plain quote backslash line _ ih =>
    rw [List.cons_append, stringStep.eq_def]
    simp only [quote, backslash, line, if_false, ih]
    simp [Nat.add_comm, Nat.add_left_comm]
  | escaped escape _ ih =>
    rw [List.cons_append, List.cons_append, stringStep.eq_def]
    simp only [escapedUnit?_of_escape escape, ih]
    rw [if_neg (by decide), if_true]
    simp [Nat.add_comm, Nat.add_left_comm]

theorem lexesTo_string {body content : Text} (h : Quoted body content) :
    LexesTo .string content (unit '"' :: (body ++ [unit '"'])) := by
  intro t _
  have read : step (unit '"' :: (body ++ unit '"' :: t)) = stringStep [] 1 (body ++ unit '"' :: t) :=
    rfl
  rw [stringStep_quoted h] at read
  simpa [Nat.add_comm, Nat.add_left_comm] using read

theorem lexesTo_color {hex : Text} (digits : ∀ u ∈ hex, Text.isHexDigit u)
    (length : hex.length ∈ [3, 4, 6, 8]) : LexesTo .color (unit '#' :: hex) (unit '#' :: hex) := by
  intro t stops
  obtain ⟨taken, dropped⟩ := Text.span_class digits (stops.clear (by decide))
  have color : colorStep (hex ++ t) = .token .color (unit '#' :: hex) (hex.length + 1) := by
    have behind : headIs isWordPart t = false := stops.headIs (by decide)
    have fits : hex.length ∈ colorLengths := length
    simp [colorStep, taken, dropped, fits, behind]
  cases hex with
  | nil => simp at length
  | cons u hex =>
    have solid := (not_opener_of_class (digits u List.mem_cons_self) (by decide)).1
    have read : step (unit '#' :: (u :: hex ++ t)) =
        if isGap u then .skip (lineLength (unit '#' :: (u :: hex ++ t)))
        else colorStep (u :: hex ++ t) := rfl
    rw [solid, color] at read
    exact read

theorem fractionOf_append {fraction t : Text} (h : Fraction fraction) (stops : Stops t) :
    fractionOf (fraction ++ t) = fraction := by
  cases h with
  | none =>
    have point : headIs (· = unit '.') t = false := stops.headIs (by decide)
    simp [fractionOf, point]
  | point all =>
    obtain ⟨taken, _⟩ := Text.span_class all (stops.clear (by decide))
    have digit := all _ List.mem_cons_self
    rw [fractionOf, if_pos]
    · rw [List.cons_append, List.drop_succ_cons, List.drop_zero, taken]
    · simpa [headIs] using digit

theorem lexesTo_number {numeral : Text} (h : Numeral numeral) : LexesTo .number numeral numeral := by
  intro t stops
  rw [step_eq_numberStep (h.startsNumber t)]
  obtain @⟨sign, whole, fraction, signed, digits, scaled, some⟩ := h
  have unsigned := unsigned_append digits scaled some t
  have stop : ∀ u ∈ (fraction ++ t).head?, Text.isDigit u = false := by
    cases scaled with
    | none => exact stops.clear (by decide)
    | point all => rintro u ⟨⟩; rfl
  obtain ⟨taken, dropped⟩ := Text.span_class digits stop
  have numeral : numeralOf (sign ++ (whole ++ fraction) ++ t) = sign ++ (whole ++ fraction) := by
    rw [List.append_assoc, List.append_assoc, numeralOf_append signed unsigned, taken, dropped,
      fractionOf_append scaled stops]
  have word : headIs isWordStart t = false := stops.headIs (by decide)
  simp only [numberStep, numeral, List.drop_left, word]
  rfl

theorem step_order {u : UInt16} (order : u = unit '>' ∨ u = unit '<') {t : Text}
    (equal : headIs (· = unit '=') t = false) : step (u :: t) = .token .op [u] 1 := by
  have read : step (u :: t) =
      if headIs (· = unit '=') t then .token .op [u, unit '='] 2 else .token .op [u] 1 := by
    rcases order with rfl | rfl <;> rfl
  rw [read, equal]
  rfl

theorem step_colon {t : Text} (colon : headIs (· = unit ':') t = false) :
    step (unit ':' :: t) = .token .colon [unit ':'] 1 := by
  have read : step (unit ':' :: t) =
      if headIs (· = unit ':') t && headIs isWordStart (t.drop 1) then
        .token .word (rootMark ++ (t.drop 1).takeWhile isWordPart)
          (((t.drop 1).takeWhile isWordPart).length + 2)
      else .token .colon [unit ':'] 1 := rfl
  rw [read, colon]
  rfl

theorem lexesTo_symbol {kind : TokenKind} {symbol : Text} (listed : (kind, symbol) ∈ symbols) :
    LexesTo kind symbol symbol := by
  intro t stops
  have equal : headIs (· = unit '=') t = false := stops.headIs (by decide)
  have colon : headIs (· = unit ':') t = false := stops.headIs (by decide)
  simp only [symbols, List.mem_cons, List.not_mem_nil, or_false, Prod.mk.injEq] at listed
  rcases listed with ⟨rfl, rfl⟩ | ⟨rfl, rfl⟩ | ⟨rfl, rfl⟩ | ⟨rfl, rfl⟩ | ⟨rfl, rfl⟩ | ⟨rfl, rfl⟩ |
    ⟨rfl, rfl⟩ | ⟨rfl, rfl⟩ | ⟨rfl, rfl⟩ | ⟨rfl, rfl⟩ | ⟨rfl, rfl⟩
  -- Only `>`, `<` and `:` depend on what stands behind them.
  any_goals rfl
  · exact step_order (.inl rfl) equal
  · exact step_order (.inr rfl) equal
  · exact step_colon colon

/-- A lexeme is read back, unless it is a root mark that is all of a word. -/
theorem Lexeme.lexesTo {kind : TokenKind} {value lexeme : Text} (h : Lexeme kind value lexeme)
    (named : lexeme ≠ rootMark) : LexesTo kind value lexeme := by
  cases h with
  | word first parts => exact lexesTo_word first parts
  | @rooted name first parts =>
    cases name with
    | nil => exact absurd (List.append_nil _) named
    | cons u name => exact lexesTo_root (first u rfl) parts
  | string quoted => exact lexesTo_string quoted
  | number numeral => exact lexesTo_number numeral
  | color digits length => exact lexesTo_color digits length
  | symbol listed => exact lexesTo_symbol listed

/-! ## 4. Layout -/

theorem step_blank {u : UInt16} (blank : isGap u) (t : Text) : step (u :: t) = .skip 1 := by
  rw [step, if_pos blank]

theorem Comment.clear {c : Text} (h : Comment c) : unit '\n' ∉ c := by
  cases h with
  | slashes line => simpa [unit] using line
  | hash line _ => simpa [unit] using line

theorem lineLength_append {c t : Text} (clear : unit '\n' ∉ c)
    (line : ∀ u ∈ t.head?, u = unit '\n') : lineLength (c ++ t) = c.length := by
  have all : ∀ u ∈ c, decide (u ≠ unit '\n') = true :=
    fun u mem => decide_eq_true fun same => clear (same ▸ mem)
  have stop : ∀ u ∈ t.head?, decide (u ≠ unit '\n') = false :=
    fun u mem => decide_eq_false fun other => other (line u mem)
  rw [lineLength, (Text.span_class all stop).1]

/-- A comment is skipped up to the end of its line. -/
theorem step_comment {c t : Text} (comment : Comment c) (line : ∀ u ∈ t.head?, u = unit '\n') :
    step (c ++ t) = .skip c.length := by
  rw [← lineLength_append comment.clear line]
  cases comment with
  | slashes _ => rfl
  | @hash more _ blank =>
    have read : step (unit '#' :: (more ++ t)) =
        if (more ++ t).isEmpty || headIs isGap (more ++ t) then
          .skip (lineLength (unit '#' :: (more ++ t)))
        else colorStep (more ++ t) := rfl
    have opens : ((more ++ t).isEmpty || headIs isGap (more ++ t)) = true := by
      cases more with
      | cons u more => simpa [headIs] using blank u rfl
      | nil =>
        cases t with
        | nil => rfl
        | cons u t =>
          obtain rfl := line u rfl
          rfl
    rw [List.cons_append, read, opens]
    rfl

/-! ## 5. All tokens -/

/-- A scan of one text goes on as a scan of another one without a token in between, with as many steps
left as that may need. -/
def SkipsTo (s t : Text) : Prop :=
  ∀ file fuel place done, s.length ≤ fuel → ∃ fuel' place', t.length ≤ fuel' ∧
    scan file fuel s place done = scan file fuel' t place' done

theorem SkipsTo.trans {r s t : Text} (hrs : SkipsTo r s) (hst : SkipsTo s t) : SkipsTo r t := by
  intro file fuel place done enough
  obtain ⟨fuel', place', enough', first⟩ := hrs file fuel place done enough
  obtain ⟨fuel'', place'', enough'', second⟩ := hst file fuel' place' done enough'
  exact ⟨fuel'', place'', enough'', first.trans second⟩

theorem skipsTo_of_step (front : Text) {t : Text} (some : front ≠ [])
    (h : step (front ++ t) = .skip front.length) : SkipsTo (front ++ t) t := by
  intro file fuel place done enough
  obtain ⟨u, rest, rfl⟩ := List.exists_cons_of_ne_nil some
  simp only [List.length_append, List.length_cons] at enough
  obtain ⟨fuel, rfl⟩ := Nat.exists_eq_succ_of_ne_zero (n := fuel) (by omega)
  refine ⟨fuel, place.after (u :: rest), by omega, ?_⟩
  rw [List.cons_append] at h ⊢
  rw [scan, h, ← List.cons_append]
  simp only [List.drop_left, List.take_left]

theorem skipsTo_blank {u : UInt16} (blank : isGap u) (t : Text) : SkipsTo (u :: t) t :=
  skipsTo_of_step [u] (List.cons_ne_nil _ _) (step_blank blank t)

theorem skipsTo_comment {c t : Text} (comment : Comment c) (line : ∀ u ∈ t.head?, u = unit '\n') :
    SkipsTo (c ++ t) t := by
  obtain ⟨u, rest, form, _⟩ := comment.head
  exact skipsTo_of_step c (form ▸ List.cons_ne_nil _ _) (step_comment comment line)

/-- Layout takes no part in the tokens. -/
theorem skipsTo_layout {gap : Text} (layout : Layout gap) (t : Text) : SkipsTo (gap ++ t) t := by
  induction layout with
  | nil => exact fun _ fuel place _ enough => ⟨fuel, place, enough, rfl⟩
  | blank blank _ ih => exact (skipsTo_blank blank _).trans ih
  | comment comment _ ih =>
    have feed : isGap (unit '\n') := by decide
    rw [List.append_assoc, List.cons_append]
    refine (skipsTo_comment comment ?_).trans ((skipsTo_blank feed _).trans ih)
    rintro u ⟨⟩
    rfl

theorem skipsTo_closing {t : Text} (closing : Closing t) : SkipsTo t [] := by
  have ends : ∀ u ∈ ([] : Text).head?, u = unit '\n' := fun _ h => nomatch h
  cases closing with
  | layout layout => simpa using skipsTo_layout layout []
  | comment layout comment =>
    refine (skipsTo_layout layout _).trans ?_
    simpa using skipsTo_comment comment ends

/-- A scan takes a lexeme as a token. -/
theorem scan_lexeme {kind : TokenKind} {value lexeme t : Text} (h : Lexeme kind value lexeme)
    (named : lexeme ≠ rootMark) (stops : Stops t) (file : Option Text) (fuel : Nat) (place : Place)
    (done : List Token) : scan file (fuel + 1) (lexeme ++ t) place done =
      scan file fuel t (place.after lexeme) (⟨kind, value, ⟨place, place.after lexeme⟩⟩ :: done) := by
  have taken := h.lexesTo named t stops
  obtain ⟨u, rest, rfl, _⟩ := h.head
  rw [List.cons_append] at taken ⊢
  rw [scan, taken, ← List.cons_append]
  simp only [List.drop_left, List.take_left]

/-- What is printed is scanned as tokens that say the same. -/
theorem scan_printing {tokens : List Token} {text : Text} (h : Printing tokens text)
    (lexed : ∀ token ∈ tokens, ∃ lexeme, Lexeme token.kind token.value lexeme)
    (named : ∀ token ∈ tokens, content token ≠ (.word, rootMark)) {file : Option Text} {fuel : Nat}
    {place : Place} {done : List Token} (enough : text.length ≤ fuel) :
    ∃ again, scan file fuel text place done = .ok (done.reverse ++ again) ∧
      again.map content = tokens.map content := by
  induction h generalizing fuel place done with
  | last closing =>
    obtain ⟨fuel', place', _, skipped⟩ := skipsTo_closing closing file fuel place done enough
    refine ⟨[], ?_, rfl⟩
    rw [skipped, scan, List.append_nil]
  | @token token tokens gap t layout apart rest ih =>
    obtain ⟨lexeme, read⟩ := lexed token List.mem_cons_self
    have printed := read.printToken
    have other : printToken token ≠ rootMark := fun root =>
      named token List.mem_cons_self (root ▸ printed).kind_of_root
    obtain ⟨u, more, form, _⟩ := printed.head
    obtain ⟨fuel, rfl⟩ := Nat.exists_eq_succ_of_ne_zero (n := fuel) (by simp [form] at enough; omega)
    have inside : (gap ++ t).length ≤ fuel := by simp [form] at enough ⊢; omega
    have first := scan_lexeme printed other (rest.stops layout apart) file fuel place done
    generalize place.after (printToken token) = behind at first
    obtain ⟨fuel', place', enough', skipped⟩ := skipsTo_layout layout t file fuel behind
      (⟨token.kind, token.value, ⟨place, behind⟩⟩ :: done) inside
    obtain ⟨again, scanned, same⟩ := ih (fun s hs => lexed s (List.mem_cons_of_mem _ hs))
      (fun s hs => named s (List.mem_cons_of_mem _ hs)) enough'
    have whole := (first.trans skipped).trans scanned
    rw [List.reverse_cons, List.append_assoc] at whole
    exact ⟨_, whole, congrArg (content token :: ·) same⟩

/-- Every text is the value of a string that a script can write down. -/
theorem tokenize_quote (value : Text) (file : Option Text) :
    tokenize (quote value) file =
      .ok [⟨.string, value, ⟨.start, Place.start.after (quote value)⟩⟩] := by
  have string := lexeme_quote value
  have named : quote value ≠ rootMark := fun root =>
    TokenKind.noConfusion (Prod.mk.inj (root ▸ string).kind_of_root).1
  have read := scan_lexeme string named (fun _ h => nomatch h : Stops []) file
    (value.flatMap escapeUnit ++ [unit '"']).length .start []
  rw [List.append_nil] at read
  exact read.trans (by rw [scan]; rfl)

/-- The tokens of a script read back as they were when they are printed again, with any layout between
them and around them, unless a root mark is all of a word. Any text is the value of a string. -/
theorem printing_reads_back {source : Text} {file : Option Text} {tokens : List Token}
    (h : tokenize source file = .ok tokens)
    (named : ∀ token ∈ tokens, content token ≠ (.word, rootMark)) :
    (∀ (lead text : Text) (file : Option Text), Layout lead → Printing tokens text →
      ∃ again, tokenize (lead ++ text) file = .ok again ∧
        again.map content = tokens.map content) ∧
    ∀ (value : Text) (file : Option Text), ∃ span,
      tokenize (quote value) file = .ok [⟨.string, value, span⟩] := by
  refine ⟨fun lead text file layout printing => ?_, fun value file => ⟨_, tokenize_quote value file⟩⟩
  obtain ⟨fuel, place, enough, skipped⟩ :=
    skipsTo_layout layout text file (lead ++ text).length .start [] le_rfl
  obtain ⟨_, rfl, tiled⟩ := tiled_of_scan h (.layout .nil) (rfl : _ = placeBehind ([] ++ []))
  obtain ⟨again, scanned, same⟩ := scan_printing printing tiled.lexed named enough
  exact ⟨again, skipped.trans scanned, same⟩

/-- A line without any layout. -/
def denseLine : Text := Text.ofString "x\"\\n\".5:"

/-- The tokens of that line. -/
def denseTokens : List Token :=
  [⟨.word, Text.ofString "x", ⟨⟨1, 1⟩, ⟨1, 2⟩⟩⟩, ⟨.string, Text.ofString "\n", ⟨⟨1, 2⟩, ⟨1, 6⟩⟩⟩,
    ⟨.number, Text.ofString ".5", ⟨⟨1, 6⟩, ⟨1, 8⟩⟩⟩, ⟨.colon, Text.ofString ":", ⟨⟨1, 8⟩, ⟨1, 9⟩⟩⟩]

/-- The same tokens with comments and blanks around them. -/
def airyLines : Text := Text.ofString "x//y\n\"\\n\"\t.5#\n :# z"

theorem printing_airyLines : Printing denseTokens airyLines := by
  have slashes : Layout (unit '/' :: unit '/' :: [unit 'y'] ++ unit '\n' :: []) :=
    .comment (.slashes (by decide)) .nil
  have tab : Layout [unit '\t'] := .blank rfl .nil
  have hash : Layout (unit '#' :: [] ++ unit '\n' :: [unit ' ']) :=
    .comment (.hash (by decide) fun _ h => nomatch h) (.blank rfl .nil)
  have ending : Closing ([] ++ unit '#' :: [unit ' ', unit 'z']) :=
    .comment .nil (.hash (by decide) fun _ h => by cases h; rfl)
  have printing : Printing denseTokens _ :=
    .token slashes (fun _ => List.cons_ne_nil _ _) <| .token tab (fun _ => List.cons_ne_nil _ _) <|
      .token hash (fun _ => List.cons_ne_nil _ _) <| .token .nil (fun h => absurd rfl h) <|
      .last ending
  exact printing

theorem printing_reads_back_airyLines :
    tokenize denseLine none = .ok denseTokens ∧ Printing denseTokens airyLines ∧
      ∃ again, tokenize airyLines none = .ok again ∧
        again.map content = denseTokens.map content := by
  have run : tokenize denseLine none = .ok denseTokens := by decide +kernel
  have named : ∀ token ∈ denseTokens, content token ≠ (.word, rootMark) := by decide
  exact ⟨run, printing_airyLines,
    (printing_reads_back run named).1 [] airyLines none .nil printing_airyLines⟩

end VisualNovel.Lexer
