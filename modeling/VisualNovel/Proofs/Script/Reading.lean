import VisualNovel.Proofs.Number.Range
import VisualNovel.Proofs.Stateful
import VisualNovel.Proofs.Table
import VisualNovel.Proofs.Text
import VisualNovel.Script.Lexer
import VisualNovel.Script.Statement

/-!
What the commands of a script are like.

A name that a script writes down is a word: it begins with a letter, an underscore, a dollar sign or
the root mark, and never with a digit. It has the root mark once at most. `Command.Spelled` says of two
properties of words that the names and the targets of a command have them, that a choice offers
at least one option, that options and items are counted by whole numbers, that the zoom of a camera
is not zero or less, and that the seconds of a movement are a number that can be compared. Every statement reader gives such commands, as long as the words among its
tokens have the property: `Reads W r Q` says that the reader `r` keeps the tokens and the file of its cursor
and gives a value with `Q`, and there is one such statement for each reader, in the order of the
readers themselves.
-/

namespace VisualNovel

open Text (unit)

/-! ## 1. Words -/

/-- A text that begins like a word of a script. -/
def Text.IsWord (t : Text) : Prop :=
  Lexer.headIs (fun u => Lexer.isWordStart u || u = unit ':') t = true

instance (t : Text) : Decidable t.IsWord := inferInstanceAs (Decidable (_ = true))

/-- Every token that is called a word is one. -/
def Cursor.Lexed (c : Cursor) : Prop := ∀ t ∈ c.tokens, t.kind = .word → t.value.IsWord

/-- A word as the lexer finds it: behind its root mark there is no other. -/
structure Text.IsName (t : Text) : Prop where
  word : t.IsWord
  mark : (stripRootMark t).startsWith rootMark = false

/-- The tokens that are called words have a property. -/
def Cursor.Spells (W : Text → Prop) (c : Cursor) : Prop :=
  ∀ t ∈ c.tokens, t.kind = .word → W t.value

theorem rootMark_eq : rootMark = [unit ':', unit ':'] := by decide

/-- A name that begins otherwise has no root mark. -/
theorem startsWith_rootMark_cons {u : UInt16} (other : u ≠ unit ':') (rest : Text) :
    Text.startsWith (u :: rest) rootMark = false := by
  have first : (unit ':' == u) = false := beq_false_of_ne fun h => other h.symm
  rw [rootMark_eq]
  simp [Text.startsWith, List.isPrefixOf, first]

namespace Lexer

theorem isName_of_stringStep {t done value : Text} {n count : Nat}
    (h : stringStep done n t = .token .word value count) : value.IsName := by
  fun_induction stringStep done n t generalizing value count <;> simp_all

theorem colorStep_ne_word (rest value : Text) (count : Nat) :
    colorStep rest ≠ .token .word value count := by
  unfold colorStep
  simp only
  split <;> simp

theorem numberStep_ne_word (t value : Text) (count : Nat) :
    numberStep t ≠ .token .word value count := by
  unfold numberStep
  simp only
  split <;> simp

/-- A name that begins like a word and not with the mark. -/
theorem isName_cons {u : UInt16} (start : isWordStart u = true) (rest : Text) :
    Text.IsName (u :: rest) := by
  have other : u ≠ unit ':' := by
    rintro rfl
    exact absurd start (by decide)
  have plain := startsWith_rootMark_cons other rest
  refine ⟨by simp [Text.IsWord, headIs, start], ?_⟩
  rw [stripRootMark, if_neg (by simp [plain])]
  exact plain

/-- A name behind the mark has no further mark, because no part of a word is one. -/
theorem isName_marked (rest : Text) :
    Text.IsName (Text.ofString "::" ++ rest.takeWhile isWordPart) := by
  have mark : Text.ofString "::" = rootMark := rfl
  rw [mark]
  refine ⟨by rw [rootMark_eq]; exact (by decide : Text.IsWord [unit ':']), ?_⟩
  have strip : stripRootMark (rootMark ++ rest.takeWhile isWordPart) =
      rest.takeWhile isWordPart := by
    rw [stripRootMark, if_pos (by simp [Text.startsWith])]
    simp [show rootMark.length = 2 by decide]
  rw [strip]
  cases taken : rest.takeWhile isWordPart with
  | nil => decide
  | cons u others =>
    apply startsWith_rootMark_cons
    rintro rfl
    have part : isWordPart (unit ':') = true :=
      Text.all_takeWhile rest _ (taken ▸ List.mem_cons_self)
    exact absurd part (by decide)

theorem isName_of_step {t value : Text} {count : Nat} (h : step t = .token .word value count) :
    value.IsName := by
  revert h
  fun_cases step t with
  | case5 => exact fun h => absurd h (colorStep_ne_word _ _ _)
  | case6 => exact isName_of_stringStep
  | case8 => exact fun h => absurd h (numberStep_ne_word _ _ _)
  | case9 =>
    intro h
    cases h
    exact isName_marked _
  | case10 u rest _ _ _ _ _ _ _ hstart =>
    intro h
    cases h
    exact isName_cons hstart _
  | _ => simp

/-- Every token that the lexer calls a word is one. -/
theorem isName_of_scan {file : Option Text} {fuel : Nat} {t : Text} {place : Place}
    {done tokens : List Token} (hdone : ∀ t ∈ done, t.kind = .word → t.value.IsName)
    (h : scan file fuel t place done = .ok tokens) :
    ∀ t ∈ tokens, t.kind = .word → t.value.IsName := by
  fun_induction scan file fuel t place done with
  | case1 =>
    cases h
    intro t ht
    exact hdone t (List.mem_reverse.mp ht)
  | case2 => cases h
  | case3 _ _ _ _ _ _ _ _ ih => exact ih hdone h
  | case4 place done fuel u rest t kind value count hstep behind ih =>
    refine ih ?_ h
    intro token htoken hword
    rcases List.mem_cons.mp htoken with rfl | hin
    · simp only at hword
      subst hword
      exact isName_of_step hstep
    · exact hdone token hin hword
  | case5 => cases h

end Lexer

theorem isName_of_tokenize {source : Text} {file : Option Text} {tokens : List Token}
    (h : tokenize source file = .ok tokens) : ∀ t ∈ tokens, t.kind = .word → t.value.IsName :=
  Lexer.isName_of_scan (fun _ ht => by cases ht) h

/-! ## 2. Reading with a cursor -/

/-- The reader keeps the tokens and the file of a cursor whose words are spelled in a way, and its
value has the property. -/
def Reads {α : Type} (W : Text → Prop) (r : Reader α) (Q : α → Prop) : Prop :=
  ∀ c : Cursor, c.Spells W → ∀ a c', r c = .ok a c' → c'.tokens = c.tokens ∧ c'.file = c.file ∧ Q a

namespace Reads

open Reader

variable {α β σ : Type} {W : Text → Prop} {r : Reader α} {Q Q' : α → Prop} {R : β → Prop}

theorem pure {a : α} (h : Q a) : Reads W (Pure.pure a) Q := by
  intro c _ b c' hb
  cases hb
  exact ⟨rfl, rfl, h⟩

theorem lexed (hr : Reads W r Q) {c c' : Cursor} {a : α} (hc : c.Spells W) (h : r c = .ok a c') :
    c'.Spells W := by
  unfold Cursor.Spells
  rw [(hr c hc a c' h).1]
  exact hc

theorem bind {f : α → Reader β} (hr : Reads W r Q) (hf : ∀ a, Q a → Reads W (f a) R) :
    Reads W (r >>= f) R := by
  intro c hc b c'' h
  obtain ⟨a, c', hra, hfa⟩ := run_bind_eq_ok.mp h
  obtain ⟨htokens, hfile, ha⟩ := hr c hc a c' hra
  obtain ⟨htokens', hfile', hb⟩ := hf a ha c' (hr.lexed hc hra) b c'' hfa
  exact ⟨htokens'.trans htokens, hfile'.trans hfile, hb⟩

theorem pure_bind {a : α} {f : α → Reader β} (h : Reads W (f a) R) :
    Reads W (Pure.pure a >>= f) R := h

theorem map {f : α → β} (hr : Reads W r Q) : Reads W (f <$> r) fun _ => True := by
  rw [map_eq_pure_bind]
  exact hr.bind fun _ _ => .pure trivial

theorem branch {p : Prop} [Decidable p] {r' : Reader α} (hr : p → Reads W r Q)
    (hr' : ¬ p → Reads W r' Q) : Reads W (if p then r else r') Q := by
  split
  · next h => exact hr h
  · next h => exact hr' h

theorem ite {p : Prop} [Decidable p] {r' : Reader α} (hr : Reads W r Q) (hr' : Reads W r' Q) :
    Reads W (if p then r else r') Q := branch (fun _ => hr) fun _ => hr'

theorem fail (problem : ScriptProblem) : Reads W (Reader.fail problem) Q := by
  intro c _ a c' h
  cases h

theorem fail_bind (problem : ScriptProblem) {f : α → Reader β} :
    Reads W (Reader.fail problem >>= f) R := by
  intro c _ a c' h
  cases h

theorem failAt (problem : ScriptProblem) (span : Span) : Reads W (Reader.failAt problem span) Q := by
  intro c _ a c' h
  cases h

theorem look (f : Cursor → α) : Reads W (Reader.look f) fun _ => True := by
  intro c _ a c' h
  cases h
  exact ⟨rfl, rfl, trivial⟩

theorem skip : Reads W Reader.skip fun _ => True := by
  intro c _ a c' h
  cases h
  exact ⟨rfl, rfl, trivial⟩

/-- What is looked at is one of the tokens. -/
theorem peek : Reads W (Reader.look Cursor.peek)
    fun t => ∀ token, t = some token → token.kind = .word → W token.value := by
  intro c hc a c' h
  cases h
  refine ⟨rfl, rfl, fun token ht => ?_⟩
  exact hc token (Array.mem_of_getElem? ht)

theorem next : Reads W Reader.next fun t => t.kind = .word → W t.value := by
  refine peek.bind fun t ht => ?_
  cases t with
  | none => exact fail _
  | some token => exact skip.bind fun _ _ => .pure (ht token rfl)

theorem expect (kind : TokenKind) (what : Text) :
    Reads W (Reader.expect kind what) fun t => kind = .word → W t.value := by
  refine peek.bind fun t ht => ?_
  cases t with
  | none => exact fail _
  | some token =>
    show Reads W (if token.kind = kind then _ else _) _
    split
    · rename_i hkind
      exact skip.bind fun _ _ => .pure fun hword => ht token rfl (hkind.trans hword)
    · exact fail _

theorem expectWord (what : Text) : Reads W (Reader.expectWord what) W :=
  (expect .word what).bind fun _ h => .pure (h rfl)

theorem expectString (what : Text) : Reads W (Reader.expectString what) fun _ => True :=
  (expect .string what).bind fun _ _ => .pure trivial

/-- What a numeral spells is never the error value. -/
theorem ordered_numberOf (token : Token) : Number.Ordered (Reader.numberOf token) := by
  unfold Reader.numberOf
  cases h : Number.ofNumeral? token.value with
  | none => exact Number.ordered_ofScientific 0 true 1
  | some x => exact Number.ordered_ofNumeral h

theorem expectNumber (what : Text) : Reads W (Reader.expectNumber what) Number.Ordered :=
  (expect .number what).bind fun token _ => .pure (ordered_numberOf token)

theorem expectInt (what : Text) : Reads W (Reader.expectInt what) fun x => Number.isWhole x = true :=
  (expect .number what).bind fun _ _ => .branch (fun whole => .pure whole) fun _ => failAt _ _

theorem expectKeyword (word : Text) : Reads W (Reader.expectKeyword word) fun _ => True :=
  (look _).bind fun _ _ => .ite skip ((look _).bind fun _ _ => fail _)

theorem expectBool (what : Text) : Reads W (Reader.expectBool what) fun _ => True :=
  (look _).bind fun _ _ => .ite (skip.bind fun _ _ => .pure trivial) <|
    (look _).bind fun _ _ => .ite (skip.bind fun _ _ => .pure trivial) <|
      (look _).bind fun _ _ => fail _

theorem accept (kind : TokenKind) (value : Option Text) :
    Reads W (Reader.accept kind value) fun _ => True := by
  refine (look _).bind fun t _ => ?_
  cases t with
  | none => exact .pure trivial
  | some token => exact .ite (skip.bind fun _ _ => .pure trivial) (.pure trivial)

theorem acceptWord (word : Text) : Reads W (Reader.acceptWord word) fun _ => True := accept _ _

theorem endStatement : Reads W Reader.endStatement fun _ => True :=
  (expect _ _).bind fun _ _ => .pure trivial

/-- A statement that ends here gives its value. -/
theorem ending {a : α} (h : Q a) : Reads W (Reader.endStatement >>= fun _ => Pure.pure a) Q :=
  endStatement.bind fun _ _ => .pure h

theorem oneOf (word : Text) (vocabulary : List (Text × α)) (domain : Text) (span : Span) :
    Reads W (Reader.oneOf word vocabulary domain span) fun _ => True := by
  unfold Reader.oneOf
  split
  · exact .pure trivial
  · exact failAt _ _

theorem expectOneOf (what : Text) (vocabulary : List (Text × α)) (domain : Text) :
    Reads W (Reader.expectOneOf what vocabulary domain) fun _ => True :=
  (expect _ _).bind fun _ _ => oneOf _ _ _ _

theorem repeatUntil {done : Cursor → Bool} {step : σ → Reader σ} {J : σ → Prop}
    (hstep : ∀ s, J s → Reads W (step s) J) (fuel : Nat) {s : σ} (hs : J s) :
    Reads W (Reader.repeatUntil done step fuel s) J := by
  induction fuel generalizing s with
  | zero => exact fail _
  | succ fuel ih =>
    refine (look done).bind fun _ _ => .ite (.pure hs) ?_
    exact (hstep s hs).bind fun s' hs' => ih hs'

/-- What a step keeps, a repetition keeps. -/
theorem gather {done : Cursor → Bool} {step : σ → Reader σ} {J : σ → Prop}
    (hstep : ∀ s, J s → Reads W (step s) J) {s : σ} (hs : J s) :
    Reads W (Reader.gather done step s) J :=
  (look _).bind fun _ _ => repeatUntil hstep _ hs

theorem optionalWord (what : Text) : Reads W (Reader.optionalWord what) fun _ => True :=
  (look _).bind fun _ _ => .ite ((expectWord what).bind fun _ _ => .pure trivial) (.pure trivial)

theorem run (kind : TokenKind) {step : Reader α} (hstep : Reads W step Q) :
    Reads W (Reader.run kind step) fun _ => True :=
  (gather (J := fun _ => True) (fun _ _ => hstep.bind fun _ _ => .pure trivial) trivial).bind
    fun _ _ => .pure trivial

theorem color (what : Text) : Reads W (Reader.color what) fun _ => True := by
  refine next.bind fun token _ => ?_
  cases token.kind <;> first | exact .pure trivial | exact failAt _ _

theorem operand (what : Text) : Reads W (Reader.operand what) fun _ => True := by
  refine next.bind fun token _ => ?_
  cases token.kind <;> first | exact .pure trivial | exact failAt _ _

theorem target : Reads W Reader.target W := (expect _ _).bind fun _ _ => expectWord _

theorem point (first second : Text) : Reads W (Reader.point first second) fun _ => True :=
  (expectNumber _).bind fun _ _ => (expectNumber _).bind fun _ _ => .pure trivial

theorem rect : Reads W Reader.rect fun _ => True :=
  (expectNumber _).bind fun _ _ => (expectNumber _).bind fun _ _ =>
    (expectNumber _).bind fun _ _ => (expectNumber _).bind fun _ _ => .pure trivial

theorem points (what : Text) : Reads W (Reader.points what) fun _ => True :=
  (run _ (expectNumber what)).bind fun _ _ => .ite (.pure trivial) (fail _)

end Reads

/-! ## 3. Commands of statements -/

/-- The sprites of a character stand under words that a record can keep, each under one of its
own. -/
structure Character.WellFormed (W : Text → Prop) (c : Character) : Prop where
  ident : W c.ident
  expressions : ∀ e ∈ c.sprites.keys, W e ∧ e ≠ unrecordedName
  distinct : c.sprites.keys.Nodup

/-- Names are spelled in one way and targets in another, a choice has an option, whole numbers count
options and items, a camera does not look from behind, and the seconds of a movement can be
compared. -/
def Command.Spelled (W T : Text → Prop) : Command → Prop
  | .say speaker _ => ∀ name, speaker = some name → W name
  | .jump target => T target
  | .jumpIf _ _ _ target => T target
  | .choice _ options _ default =>
    options ≠ [] ∧ (∀ o ∈ options, T o.target) ∧ ∀ p ∈ default, Number.Integral p.number
  | .mapPoint _ _ _ target => T target
  | .hotspot _ _ target => T target
  | .button b => T b.target
  | .show sprite => W sprite.name
  | .showCharacter appearance => W appearance.ident
  | .define character => character.WellFormed W
  | .addItem id _ _ _ amount => W id ∧ Number.isWhole amount = true
  | .removeItem _ amount => Number.isWhole amount = true
  | .showMeter name .. => W name
  | .camera view => ¬ view.zoom ≤ 0.0
  | .animate _ _ seconds _ => Number.Ordered seconds
  | _ => True

namespace Command.Spelled

variable {W T T' : Text → Prop} {c : Command}

theorem targets (h : c.Spelled W T) : ∀ t ∈ c.targets, T t := by
  cases c with
  | choice prompt options timeout default =>
    intro t mem
    obtain ⟨o, inside, rfl⟩ := List.mem_map.mp mem
    exact h.2.1 o inside
  | _ => simp_all [Command.targets, Command.Spelled]

/-- New targets leave the names as they are. -/
theorem mapTargets (h : c.Spelled W T) {f : Text → Text} (g : Option (Text → Text))
    (new : ∀ t, T t → T' (f t)) : (c.mapTargets f g).Spelled W T' := by
  cases c with
  | label name => cases g <;> trivial
  | choice prompt options timeout default =>
    refine ⟨by simpa using h.1, fun o mem => ?_, h.2.2⟩
    obtain ⟨old, inside, rfl⟩ := List.mem_map.mp mem
    exact new _ (h.2.1 old inside)
  | _ => simp_all [Command.mapTargets, Command.Spelled]

end Command.Spelled

namespace Statement

open Reads

variable {W : Text → Prop}

theorem reads_say {speaker : Option Text} (h : ∀ name, speaker = some name → W name) :
    Reads W (say speaker) (Command.Spelled W W) :=
  (expectString _).bind fun _ _ => ending h

theorem reads_jump : Reads W jump (Command.Spelled W W) :=
  (expectWord _).bind fun _ htarget => ending htarget

theorem reads_wait : Reads W wait (Command.Spelled W W) :=
  (acceptWord _).bind fun _ _ => .ite (ending trivial) <|
    (acceptWord _).bind fun _ _ => .ite (ending trivial) <|
      (expectNumber _).bind fun _ _ => ending trivial

theorem reads_notify : Reads W notify (Command.Spelled W W) :=
  (expectString _).bind fun _ _ => (look _).bind fun _ _ =>
    .ite ((expectNumber _).map.bind fun _ _ => ending trivial)
      (pure_bind (ending trivial))

theorem reads_save : Reads W save (Command.Spelled W W) :=
  (optionalWord _).bind fun _ _ => ending trivial

theorem reads_load : Reads W load (Command.Spelled W W) :=
  (optionalWord _).bind fun _ _ => ending trivial

theorem reads_set : Reads W set (Command.Spelled W W) :=
  (expectWord _).bind fun _ _ => (operand _).bind fun _ _ => ending trivial

theorem reads_track : Reads W track (Command.Spelled W W) :=
  (run _ (expectWord _)).bind fun _ _ =>
    .ite (fail_bind _)
      ((expectNumber _).bind fun _ _ => ending trivial)

theorem reads_input : Reads W input (Command.Spelled W W) :=
  (expectWord _).bind fun _ _ => (expectString _).bind fun _ _ => (acceptWord _).bind fun _ _ =>
    .ite ((expectString _).map.bind fun _ _ => ending trivial)
      (pure_bind (ending trivial))

theorem reads_timeLimit :
    Reads W timeLimit fun limit => ∀ n ∈ limit.2, Number.isWhole n = true := by
  refine (acceptWord _).bind fun _ _ => .ite ?_ ?_
  · refine (expectNumber _).bind fun _ _ => (look _).bind fun _ _ => .ite (fail_bind _) ?_
    refine (expectKeyword _).bind fun _ _ => (expectInt _).bind fun n whole => .pure ?_
    rintro _ ⟨⟩
    exact whole
  · exact (look _).bind fun _ _ => .ite (fail _) (.pure (by simp))

theorem reads_choiceOption : Reads W choiceOption fun o => W o.target :=
  (expectString _).bind fun _ _ => (expect _ _).bind fun _ _ => (expectWord _).bind fun _ htarget =>
    .pure htarget

theorem reads_anotherOption {done : List ChoiceOption} (hdone : ∀ o ∈ done, W o.target) :
    Reads W (anotherOption done) fun options => options ≠ [] ∧ ∀ o ∈ options, W o.target :=
  (accept _ _).bind fun _ _ => reads_choiceOption.bind fun _ hfirst =>
    .pure ⟨List.cons_ne_nil _ _, List.forall_mem_cons.mpr ⟨hfirst, hdone⟩⟩

/-- A choice has its first option at least. -/
theorem reads_ask : Reads W ask (Command.Spelled W W) := by
  refine (expectString _).bind fun _ _ => reads_timeLimit.bind fun limit whole =>
    reads_choiceOption.bind fun first hfirst => ?_
  refine (gather (J := fun options => options ≠ [] ∧ ∀ o ∈ options, W o.target)
    (fun _ hdone => reads_anotherOption hdone.2)
    ⟨List.cons_ne_nil first [], by simpa using hfirst⟩).bind fun options hoptions => ?_
  have hne : options.reverse ≠ [] ∧ ∀ o ∈ options.reverse, W o.target := by simpa using hoptions
  obtain ⟨timeout, ordinal⟩ := limit
  cases ordinal with
  | none => exact ending ⟨hne.1, hne.2, by simp⟩
  | some n =>
    have counted : ∀ p ∈ (some n).map Ordinal.ofNumber, Number.Integral p.number := by
      rintro _ ⟨⟩
      exact Ordinal.integral_ofNumber (Number.integral_of_isWhole (whole n rfl))
    exact .ite (fail_bind _) (ending ⟨hne.1, hne.2, counted⟩)

/-! ## 4. Sound and video -/

theorem reads_play : Reads W play (Command.Spelled W W) :=
  (optionalWord _).bind fun _ _ => (expectString _).bind fun _ _ => (look _).bind fun _ _ =>
    .ite (pure_bind (ending trivial)) ((expectBool _).bind fun _ _ => ending trivial)

theorem reads_sound : Reads W sound (Command.Spelled W W) :=
  (optionalWord _).bind fun _ _ => (expectString _).bind fun _ _ => ending trivial

theorem reads_echo : Reads W echo (Command.Spelled W W) :=
  (acceptWord _).bind fun _ _ => .ite (ending trivial) <|
    (expectString _).bind fun _ _ => (acceptWord _).bind fun _ _ => ending trivial

theorem reads_voice : Reads W voice (Command.Spelled W W) :=
  (optionalWord _).bind fun _ _ => (expectString _).bind fun _ _ => ending trivial

theorem reads_mute : Reads W mute (Command.Spelled W W) :=
  (optionalWord _).bind fun _ _ => ending trivial

theorem reads_preload : Reads W preload (Command.Spelled W W) :=
  (expectWord _).bind fun _ _ => (expectString _).bind fun _ _ => ending trivial

theorem reads_cache : Reads W cache (Command.Spelled W W) := by
  refine (expectOneOf _ _ _).bind fun action _ => ?_
  cases action with
  | clear =>
    refine (expectOneOf _ _ _).bind fun kind _ => ?_
    cases kind with
    | script => exact (expectString _).bind fun _ _ => ending trivial
    | images => exact ending trivial
    | scripts => exact ending trivial
    | stage => exact ending trivial
  | pin => exact (expectWord _).bind fun _ _ => (expectString _).bind fun _ _ => ending trivial
  | unpin => exact (expectWord _).bind fun _ _ => (expectString _).bind fun _ _ => ending trivial

theorem reads_collect : Reads W collect (Command.Spelled W W) := ending trivial

theorem reads_videoSetting (setting : Bool × VideoFit) :
    Reads W (videoSetting setting) fun _ => True :=
  (acceptWord _).bind fun _ _ => .ite ((expectBool _).bind fun _ _ => .pure trivial) <|
    (acceptWord _).bind fun _ _ => .ite ((expectOneOf _ _ _).bind fun _ _ => .pure trivial) <|
      next.bind fun _ _ => fail _

theorem reads_video : Reads W video (Command.Spelled W W) :=
  (expectOneOf _ _ _).bind fun _ _ =>
    .ite ((expectString _).bind fun _ _ =>
        (gather (fun setting _ => reads_videoSetting setting) trivial).bind fun _ _ =>
          ending trivial)
      (ending trivial)

/-! ## 5. Characters -/

theorem reads_characterColor : Reads W characterColor fun _ => True := by
  refine next.bind fun token _ => ?_
  cases token.kind <;> first | exact .pure trivial | exact failAt _ _

theorem reads_anchorWord : Reads W anchorWord fun _ => True :=
  (expect _ _).bind fun _ _ => .ite (.pure trivial) (failAt _ _)

theorem wellFormed_addSprite {who : Character} (h : who.WellFormed W) {expression : Text}
    (hword : W expression) (path : Text) :
    { who with sprites := addSprite who.sprites expression path }.WellFormed W := by
  unfold addSprite
  split
  · exact h
  · rename_i hname
    refine ⟨h.ident, ?_, Table.nodup_keys_set h.distinct expression path⟩
    intro e he
    rcases Table.mem_keys_set.mp he with rfl | hin
    · exact ⟨hword, hname⟩
    · exact h.expressions e hin

theorem reads_characterFieldValue {who : Character} (h : who.WellFormed W) (field : Token) :
    Reads W (characterFieldValue who field) (Character.WellFormed W) :=
  .ite ((expectString _).bind fun _ _ => .pure ⟨h.1, h.2, h.3⟩) <|
  .ite (reads_characterColor.bind fun _ _ => .pure ⟨h.1, h.2, h.3⟩) <|
  .ite ((expectString _).bind fun _ _ => .pure ⟨h.1, h.2, h.3⟩) <|
  .ite ((point _ _).bind fun _ _ => .pure ⟨h.1, h.2, h.3⟩) <|
  .ite ((run _ reads_anchorWord).bind fun _ _ => .pure ⟨h.1, h.2, h.3⟩) <|
  .ite ((expectInt _).bind fun _ _ => .pure ⟨h.1, h.2, h.3⟩) <|
  .ite ((expectNumber _).bind fun _ _ => (expectNumber _).bind fun _ _ =>
    .pure ⟨h.1, h.2, h.3⟩) <|
  .ite ((expectWord _).bind fun _ hword => (expectString _).bind fun _ _ =>
    .pure (wellFormed_addSprite h hword _)) <|
  failAt _ _

theorem reads_characterField {who : Character} (h : who.WellFormed W) :
    Reads W (characterField who) (Character.WellFormed W) :=
  (expect _ _).bind fun field _ => (reads_characterFieldValue h field).bind fun _ h' => ending h'

theorem reads_closeBlock : Reads W closeBlock fun _ => True :=
  (expect _ _).bind fun _ _ => (accept _ _).bind fun _ _ => .pure trivial

theorem reads_define : Reads W define (Command.Spelled W W) := by
  refine (expectWord _).bind fun ident hident => (expect _ _).bind fun _ _ => ?_
  have hstart : ({ ident } : Character).WellFormed W :=
    ⟨hident, by simp [Table.keys], by simp [Table.keys]⟩
  exact (gather (fun _ => reads_characterField) hstart).bind fun who hwho =>
    reads_closeBlock.bind fun _ _ => .pure hwho

/-! ## 6. Interface -/

theorem reads_phone : Reads W phone (Command.Spelled W W) := by
  refine (expectOneOf _ _ _).bind fun action _ => ?_
  cases action with
  | openUp => exact (expectString _).bind fun _ _ => ending trivial
  | message =>
    exact (expectOneOf _ _ _).bind fun _ _ => (expectString _).bind fun _ _ => ending trivial
  | close => exact ending trivial

theorem reads_meter : Reads W meter (Command.Spelled W W) := by
  refine (expectOneOf _ _ _).bind fun action _ => ?_
  cases action with
  | clear => exact ending trivial
  | hide => exact (expectWord _).bind fun _ _ => ending trivial
  | update => exact (expectWord _).bind fun _ _ => ending trivial
  | display =>
    exact (expectWord _).bind fun _ hname => (expectString _).bind fun _ _ =>
      (expectNumber _).bind fun _ _ => (expectNumber _).bind fun _ _ =>
        .ite (fail_bind _) <| (acceptWord _).bind fun _ _ =>
          .ite ((color _).map.bind fun _ _ => ending hname) (pure_bind (ending hname))

/-- The amount of an item. -/
def WholeAmount (setting : Option Text × Float) : Prop := Number.isWhole setting.2 = true

theorem reads_itemSetting (setting : Option Text × Float) (old : WholeAmount setting) :
    Reads W (itemSetting setting) WholeAmount :=
  (acceptWord _).bind fun _ _ => .ite ((expectString _).bind fun _ _ => .pure old) <|
    (acceptWord _).bind fun _ _ => .ite ((expectInt _).bind fun _ whole => .pure whole) <|
      next.bind fun _ _ => fail _

theorem reads_item : Reads W item (Command.Spelled W W) := by
  have one : WholeAmount (none, 1.0) := by
    unfold WholeAmount
    decide +kernel
  refine (expectOneOf _ _ _).bind fun action _ => ?_
  cases action with
  | clear => exact ending trivial
  | remove =>
    exact (expectWord _).bind fun _ _ => (acceptWord _).bind fun _ _ =>
      .ite ((expectInt _).bind fun _ whole => ending whole) (pure_bind (ending one))
  | add =>
    exact (expectWord _).bind fun _ hid => (expectString _).bind fun _ _ =>
      (expectString _).bind fun _ _ =>
        (gather (J := WholeAmount) reads_itemSetting one).bind fun _ whole => ending ⟨hid, whole⟩

theorem reads_map : Reads W map (Command.Spelled W W) := by
  refine (expectOneOf _ _ _).bind fun action _ => ?_
  cases action with
  | display => exact (expectString _).bind fun _ _ => ending trivial
  | hide => exact ending trivial
  | point =>
    exact (expectString _).bind fun _ _ => (point _ _).bind fun _ _ => (points _).bind fun _ _ =>
      .ite (fail_bind _) (target.bind fun _ htarget => ending htarget)

theorem reads_hotspot : Reads W hotspot (Command.Spelled W W) := by
  refine (expectOneOf _ _ _).bind fun action _ => ?_
  cases action with
  | clear => exact ending trivial
  | debug => exact (expectOneOf _ _ _).bind fun _ _ => ending trivial
  | remove => exact (expectWord _).bind fun _ _ => ending trivial
  | add =>
    exact (expectWord _).bind fun _ _ => rect.bind fun _ _ => target.bind fun _ htarget => ending htarget
  | polygon =>
    exact (expectWord _).bind fun _ _ => (points _).bind fun _ _ =>
      .ite (fail_bind _) (target.bind fun _ htarget => ending htarget)

theorem reads_buttonFace (style : HudStyle) : Reads W (buttonFace style) fun _ => True := by
  cases style with
  | text => exact (expectString _).bind fun _ _ => .pure trivial
  | icon => exact (expectString _).bind fun _ _ => .pure trivial
  | both => exact (expectString _).bind fun _ _ => (expectString _).bind fun _ _ => .pure trivial

theorem reads_hud : Reads W hud (Command.Spelled W W) := by
  refine (expectOneOf _ _ _).bind fun action _ => ?_
  cases action with
  | clear => exact ending trivial
  | remove => exact (expectWord _).bind fun _ _ => ending trivial
  | add =>
    exact (expectWord _).bind fun _ _ => (expectOneOf _ _ _).bind fun style _ =>
      (reads_buttonFace style).bind fun _ _ => rect.bind fun _ _ => target.bind fun _ htarget =>
        ending htarget

/-! ## 7. The stage -/

theorem reads_modifierOfWord (domain : Text) (m : Modifiers) (token : Token) :
    Reads W (Modifiers.ofWord domain m token) fun _ => True :=
  .ite ((expectInt _).bind fun _ _ => .pure trivial) <|
  .ite ((expectNumber _).bind fun _ _ => .pure trivial) <|
  .ite ((expectNumber _).bind fun _ _ => (expectNumber _).bind fun _ _ => .pure trivial) <|
  .ite ((point _ _).bind fun _ _ => .pure trivial) <|
  .ite ((point _ _).bind fun _ _ => .pure trivial) <|
  .ite (.pure trivial) <|
  (look _).bind fun _ _ =>
    .ite ((oneOf _ _ _ _).bind fun _ _ => (expectNumber _).bind fun _ _ => .pure trivial)
      (failAt _ _)

theorem reads_modifier (domain : Text) (m : Modifiers) :
    Reads W (Modifiers.step domain m) fun _ => True := by
  refine next.bind fun token _ => ?_
  cases token.kind <;>
    first
      | exact .pure trivial
      | exact reads_modifierOfWord domain m token
      | exact failAt _ _

theorem reads_modifiers (domain : Text) : Reads W (Modifiers.read domain) fun _ => True :=
  gather (fun m _ => reads_modifier domain m) trivial

theorem reads_pairFrom (numbers : List Float) (what : Text) :
    Reads W (pairFrom numbers what) fun _ => True := by
  unfold pairFrom
  split <;> first | exact .pure trivial | exact fail _

theorem reads_positionOf (m : Modifiers) (numbers : List Float) (what : Text) :
    Reads W (positionOf m numbers what) fun _ => True := by
  unfold positionOf
  split
  · exact .pure trivial
  · exact reads_pairFrom numbers what

theorem reads_noBareNumbers (m : Modifiers) (domain : Text) :
    Reads W (noBareNumbers m domain) fun _ => True := .ite (.pure trivial) (fail _)

theorem reads_scene : Reads W scene (Command.Spelled W W) := by
  refine (expectOneOf _ _ _).bind fun kind _ => ?_
  cases kind with
  | color =>
    exact (color _).bind fun _ _ => (reads_modifiers _).bind fun m _ =>
      (reads_noBareNumbers m _).bind fun _ _ => ending trivial
  | image =>
    exact (expectString _).bind fun _ _ => (reads_modifiers _).bind fun m _ =>
      (reads_noBareNumbers m _).bind fun _ _ => ending trivial

theorem reads_sizeOf (kind : AssetKind) (m : Modifiers) :
    Reads W (sizeOf kind m) fun _ => True := by
  unfold sizeOf
  split
  · split <;> first | exact .pure trivial | exact fail _
  · exact .pure trivial

theorem reads_sprite (domain : Text) : Reads W (sprite domain) (Command.Spelled W W) := by
  refine (expectOneOf _ _ _).bind fun kind _ => (expectWord _).bind fun name hname => ?_
  cases kind with
  | rect =>
    exact (color _).bind fun _ _ => (reads_modifiers _).bind fun m _ =>
      (reads_sizeOf _ m).bind fun _ _ => (reads_positionOf m _ _).bind fun _ _ => ending hname
  | image =>
    exact (expectString _).bind fun _ _ => (reads_modifiers _).bind fun m _ =>
      (reads_sizeOf _ m).bind fun _ _ => (reads_positionOf m _ _).bind fun _ _ => ending hname

theorem reads_character : Reads W character (Command.Spelled W W) :=
  (expectWord _).bind fun _ hident => (look _).bind fun _ _ =>
    .ite ((expectWord _).map.bind fun _ _ => (reads_modifiers _).bind fun m _ =>
        (reads_positionOf m _ _).bind fun _ _ => ending hident)
      (pure_bind ((reads_modifiers _).bind fun m _ =>
        (reads_positionOf m _ _).bind fun _ _ => ending hident))

theorem reads_appearance : Reads W appearance (Command.Spelled W W) :=
  (look _).bind fun _ _ => .ite (reads_sprite _) reads_character

theorem reads_off : Reads W off (Command.Spelled W W) :=
  (expectWord _).bind fun _ _ => (reads_modifiers _).bind fun m _ =>
    (reads_noBareNumbers m _).bind fun _ _ => ending trivial

/-- A zoom that is not positive is refused. -/
theorem reads_camera : Reads W camera (Command.Spelled W W) :=
  (acceptWord _).bind fun _ _ => .ite (ending (show ¬ (1.0 : Float) ≤ 0.0 by decide)) <|
    (expectNumber _).bind fun _ _ => (expectNumber _).bind fun _ _ =>
      (expectNumber _).bind fun _ _ => .branch (fun _ => fail_bind _) fun zoom => ending zoom

theorem reads_ease : Reads W ease fun _ => True :=
  (look _).bind fun _ _ => .ite (next.bind fun _ _ => oneOf _ _ _ _) (.pure trivial)

theorem reads_goal (kind : MovementKind) : Reads W (goal kind) fun _ => True := by
  cases kind with
  | move => exact (point _ _).bind fun _ _ => .pure trivial
  | size => exact (point _ _).bind fun _ _ => .pure trivial
  | alpha => exact (expectNumber _).bind fun _ _ => .pure trivial

theorem reads_animate : Reads W animate (Command.Spelled W W) :=
  (acceptWord _).bind fun _ _ =>
    .ite ((optionalWord _).bind fun _ _ => ending trivial) <|
      (expectWord _).bind fun _ _ => (expectOneOf _ _ _).bind fun kind _ =>
        (reads_goal kind).bind fun _ _ => (expectNumber _).bind fun _ timed =>
          reads_ease.bind fun _ _ => ending timed

theorem reads_blend : Reads W blend (Command.Spelled W W) :=
  (expectOneOf _ _ _).bind fun _ _ => (expectNumber _).bind fun _ _ => ending trivial

/-! ## 8. All plain statements -/

theorem reads_plainWords : ∀ entry ∈ plainWords, Reads W entry.2 (Command.Spelled W W) := by
  simp only [plainWords, List.forall_mem_cons, List.not_mem_nil, false_implies, implies_true,
    and_true]
  exact ⟨reads_jump, reads_jump, reads_scene, reads_sprite _, reads_appearance, reads_off,
    reads_camera, reads_animate, reads_play, reads_sound, reads_echo, reads_voice, reads_mute,
    reads_preload, reads_cache, reads_collect, reads_wait, reads_notify, reads_blend, reads_save,
    reads_load, reads_set, reads_track, reads_input, reads_phone, reads_meter, reads_item,
    reads_map, reads_video, reads_hotspot, reads_hud, reads_define, reads_ask⟩

theorem reads_plainStatement {word : Text} {reader : Reader Command}
    (h : plainStatements.lookup word = some reader) : Reads W reader (Command.Spelled W W) := by
  have hmem : (word, reader) ∈ plainStatements := Table.mem_of_lookup h
  obtain ⟨entry, hentry, heq⟩ := List.mem_map.mp hmem
  cases heq
  exact reads_plainWords entry hentry

theorem reads_condition : Reads W condition fun _ => True :=
  (expectWord _).bind fun _ _ => (expect _ _).bind fun _ _ => (oneOf _ _ _ _).bind fun _ _ =>
    (operand _).bind fun _ _ => .pure trivial

theorem reads_checkTarget : Reads W checkTarget W :=
  (acceptWord _).bind fun _ _ =>
    .ite ((acceptWord _).bind fun _ _ => .ite (fail_bind _) ((expectWord _).bind fun _ htarget =>
        ending htarget))
      ((expectWord _).bind fun _ htarget => ending htarget)

theorem reads_includeHead : Reads W includeHead fun head => W head.2 :=
  (expectString _).bind fun _ _ => (expectKeyword _).bind fun _ _ =>
    (expectWord _).bind fun _ hscope => ending hscope

end Statement
end VisualNovel
