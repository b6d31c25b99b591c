import VisualNovel.Player.CommandLine
import VisualNovel.Proofs.Json.RoundTrip
import VisualNovel.Proofs.Relay.Rest

/-!
What an agent prints can be read in one way only.

The texts of a story stand in the lines of the agent as they are, whatever they hold: quotes, line
feeds, lines that look like those of the agent. Three things keep the output readable. A quoted text
holds no line feed, so the lines can be told apart (`ended_injective`). Quoting is injective
(`quote_injective`). And no kind of line begins like another, so the lines of a kind can be picked out
(`ofKind`), although most kinds may be missing and some may be repeated.

Two boundaries that print alike therefore agree in all that is printed. At the boundaries where the
runner stops nothing else is left: there the options are numbered in their order, and a prompt goes with
its event (`Boundary.Plain`). So they are the same boundary (`boundary_eq_of_printed_eq`).
-/

namespace VisualNovel

/-! ## 1. Quoted texts -/

namespace Json

/-- A quoted text, whatever follows it, tells the text and the rest. -/
theorem quote_append_injective {s t rest more : Text} (h : quote s ++ rest = quote t ++ more) :
    s = t ∧ rest = more := by
  have body : escape s ++ Text.unit '"' :: rest = escape t ++ Text.unit '"' :: more := by
    simpa [quote] using h
  have read := congrArg (stringBody .plain []) body
  rw [stringBody_escape, stringBody_escape] at read
  simpa using read

theorem quote_injective {s t : Text} (h : quote s = quote t) : s = t := by
  have whole : quote s ++ [] = quote t ++ [] := by rw [h]
  exact (quote_append_injective whole).1

theorem lineFeed_not_mem_numberedEscape (u : UInt16) : Text.unit '\n' ∉ numberedEscape u := by
  have digits : ∀ d < 16, Text.unit (Nat.digitChar d) ≠ Text.unit '\n' := by decide
  have digit := fun n => (digits (n % 16) (Nat.mod_lt n (by decide))).symm
  have mark : Text.unit '\n' ∉ Text.ofString "\\u" := by decide
  simp [numberedEscape, hexDigits, mark, digit]

theorem lineFeed_not_mem_escapeUnit (u : UInt16) : Text.unit '\n' ∉ escapeUnit u := by
  unfold escapeUnit
  split; · decide
  split; · decide
  split; · decide
  split; · decide
  split; · decide
  split; · decide
  split; · decide
  split
  · exact lineFeed_not_mem_numberedEscape u
  · next other =>
    intro mem
    rw [List.mem_singleton] at mem
    exact other (mem ▸ by decide)

theorem lineFeed_not_mem_escape (t : Text) : Text.unit '\n' ∉ escape t := by
  have low : Text.isHighHalf (Text.unit '\n') = false ∧ Text.isLowHalf (Text.unit '\n') = false := by
    decide
  induction t using escape.induct with
  | case1 => simp [escape]
  | case2 u half =>
    rw [escape, if_pos half]
    exact lineFeed_not_mem_numberedEscape u
  | case3 u whole =>
    rw [escape, if_neg whole]
    exact lineFeed_not_mem_escapeUnit u
  | case4 u v rest pair ih =>
    rw [escape, if_pos pair]
    rw [Bool.and_eq_true] at pair
    have first : Text.unit '\n' ≠ u := by rintro rfl; simp [low] at pair
    have second : Text.unit '\n' ≠ v := by rintro rfl; simp [low] at pair
    simp [first, second, ih]
  | case5 u v rest pair ih =>
    rw [escape, if_neg pair, List.mem_append, not_or]
    refine ⟨?_, ih⟩
    split
    · exact lineFeed_not_mem_numberedEscape u
    · exact lineFeed_not_mem_escapeUnit u

theorem lineFeed_not_mem_quote (t : Text) : Text.unit '\n' ∉ quote t := by
  have mark : Text.unit '\n' ≠ Text.unit '"' := by decide
  simp [quote, mark, lineFeed_not_mem_escape]

end Json

/-! ## 2. Lines -/

namespace CommandLine

theorem ended_cons (first : Text) (lines : List Text) :
    ended (first :: lines) = first ++ Text.unit '\n' :: ended lines := by
  simp [ended]

/-- Lines can be told apart, as none of them holds a line feed. -/
theorem ended_injective {xs ys : List Text} (one : ∀ l ∈ xs, Text.unit '\n' ∉ l)
    (two : ∀ l ∈ ys, Text.unit '\n' ∉ l) (h : ended xs = ended ys) : xs = ys := by
  induction xs generalizing ys with
  | nil =>
    cases ys with
    | nil => rfl
    | cons y ys => simp [ended] at h
  | cons x xs ih =>
    cases ys with
    | nil => simp [ended] at h
    | cons y ys =>
      rw [ended_cons, ended_cons] at h
      have cut : ∀ {l : Text} (rest : Text), Text.unit '\n' ∉ l →
          (l ++ Text.unit '\n' :: rest).takeWhile (· ≠ Text.unit '\n') = l ∧
          (l ++ Text.unit '\n' :: rest).dropWhile (· ≠ Text.unit '\n') =
            Text.unit '\n' :: rest := by
        intro l rest own
        refine Text.span_class (fun u mem => decide_eq_true ?_) (by simp)
        rintro rfl
        exact own mem
      have front := cut (ended xs) (one x List.mem_cons_self)
      have other := cut (ended ys) (two y List.mem_cons_self)
      rw [h] at front
      obtain rfl : x = y := front.1.symm.trans other.1
      have rest : ended xs = ended ys := (List.cons.inj (front.2.symm.trans other.2)).2
      rw [ih (fun l mem => one l (List.mem_cons_of_mem x mem))
        (fun l mem => two l (List.mem_cons_of_mem x mem)) rest]

end CommandLine

namespace Agent

/-- Lines of one kind: its name, and what stands in each line behind it. -/
structure Section where
  name : Text
  bodies : List Text

/-- The lines of a section. -/
def Section.lines (s : Section) : List Text := s.bodies.map (s.name ++ ·)

/-- Two names neither of which begins with the other. -/
def Apart (a b : Text) : Prop := ¬ a <+: b ∧ ¬ b <+: a

instance (a b : Text) : Decidable (Apart a b) := inferInstanceAs (Decidable (_ ∧ _))

/-- A line of one section does not begin with the name of another. -/
theorem Section.not_prefix {name : Text} {s : Section} (apart : Apart name s.name) :
    ∀ l ∈ s.lines, ¬ name <+: l := by
  intro l mem begins
  obtain ⟨body, -, rfl⟩ := List.mem_map.mp mem
  exact (List.prefix_or_prefix_of_prefix begins (List.prefix_append s.name body)).elim
    apart.1 apart.2

/-- A section ends where a line begins with another name. -/
theorem section_append_injective {name : Text} {xs ys rest more : List Text}
    (one : ∀ l ∈ rest, ¬ name <+: l) (two : ∀ l ∈ more, ¬ name <+: l)
    (h : xs.map (name ++ ·) ++ rest = ys.map (name ++ ·) ++ more) : xs = ys ∧ rest = more := by
  induction xs generalizing ys with
  | nil =>
    cases ys with
    | nil => exact ⟨rfl, h⟩
    | cons y ys =>
      have first : name ++ y ∈ rest := by
        rw [List.map_nil, List.nil_append] at h
        simp [h]
      exact absurd (List.prefix_append name y) (one _ first)
  | cons x xs ih =>
    cases ys with
    | nil =>
      have first : name ++ x ∈ more := by
        rw [List.map_nil, List.nil_append] at h
        simp [← h]
      exact absurd (List.prefix_append name x) (two _ first)
    | cons y ys =>
      obtain ⟨same, later⟩ := List.cons.inj h
      obtain ⟨rfl, ends⟩ := ih later
      exact ⟨by rw [List.append_cancel_left same], ends⟩

/-- Sections whose names are apart can be told from their lines. -/
theorem sections_injective {xs ys : List Section} (apart : (xs.map (·.name)).Pairwise Apart)
    (names : xs.map (·.name) = ys.map (·.name))
    (h : xs.flatMap (·.lines) = ys.flatMap (·.lines)) : xs = ys := by
  induction xs generalizing ys with
  | nil => exact (List.map_eq_nil_iff.mp names.symm).symm
  | cons x xs ih =>
    cases ys with
    | nil => cases names
    | cons y ys =>
      obtain ⟨name, bodies⟩ := x
      obtain ⟨other, others⟩ := y
      obtain ⟨named, later⟩ := List.cons.inj names
      obtain rfl : name = other := named
      rw [List.map_cons, List.pairwise_cons] at apart
      have foreign : ∀ zs : List Section, (∀ s ∈ zs, Apart name s.name) →
          ∀ l ∈ zs.flatMap (·.lines), ¬ name <+: l := by
        intro zs all l mem
        obtain ⟨s, inside, own⟩ := List.mem_flatMap.mp mem
        exact Section.not_prefix (all s inside) l own
      have one := foreign xs fun s mem => apart.1 _ (List.mem_map_of_mem mem)
      have two := foreign ys fun s mem => apart.1 _ (later ▸ List.mem_map_of_mem mem)
      obtain ⟨rfl, rest⟩ := section_append_injective one two h
      rw [ih apart.2 later rest]

/-- What a boundary says, section by section. -/
def sections (b : Boundary) (stateOut : Option Text) : List Section :=
  [⟨"RESULT:", ["OK"]⟩, ⟨"EVENT:", [b.event.word]⟩, ⟨"TEXT_JSON:", b.texts.map Json.quote⟩,
    ⟨"PROMPT_JSON:", (promptOf b).toList.map Json.quote⟩,
    ⟨"CHOICE:", b.choices.map fun c => line [c.index.text, "|", Json.quote c.text]⟩,
    ⟨"INPUT_DEFAULT_JSON:", (defaultOf b).toList.map Json.quote⟩,
    ⟨"STATE_OUT:", [stateOut.getD "NONE"]⟩]

theorem boundaryLines_eq (b : Boundary) (stateOut : Option Text) :
    boundaryLines b stateOut = (sections b stateOut).flatMap (·.lines) := by
  have ok : Text.ofString "RESULT:OK" = Text.ofString "RESULT:" ++ Text.ofString "OK" := by decide
  simp [boundaryLines, sections, Section.lines, line, ScriptProblem.sentence, ok,
    Function.comp_def]

end Agent

/-! ## 3. Boundaries -/

theorem BoundaryEvent.word_injective {a b : BoundaryEvent} (h : a.word = b.word) : a = b := by
  cases a <;> cases b <;> first | rfl | exact absurd h (by decide)

/-- A boundary without anything that is not printed: its options are numbered in their order, and its
prompt and its default are those of its event. -/
structure Boundary.Plain (b : Boundary) : Prop where
  choices : b.choices = BoundaryChoice.number (b.choices.map (·.text))
  choicePrompt : b.event ≠ .choices → b.choicePrompt = none
  inputPrompt : b.event ≠ .input → b.inputPrompt = none
  inputDefault : b.event ≠ .input → b.inputDefault = none

theorem BoundaryChoice.number_texts (texts : List Text) :
    (number texts).map (·.text) = texts := by
  simp [number, Function.comp_def]

variable {τ : Type}

/-- What the player of a game has to decide is a plain boundary. -/
theorem Game.boundary_plain (g : Game τ) (texts : List Text) : (g.boundary texts).Plain := by
  unfold Game.boundary
  split
  · exact ⟨by simp only [Boundary.atChoice, BoundaryChoice.number_texts], fun h => absurd rfl h,
      fun _ => rfl, fun _ => rfl⟩
  · exact ⟨by simp only [Boundary.atMap, BoundaryChoice.number_texts], fun _ => rfl,
      fun _ => rfl, fun _ => rfl⟩
  · exact ⟨rfl, fun _ => rfl, fun h => absurd rfl h, fun h => absurd rfl h⟩
  · exact ⟨rfl, fun _ => rfl, fun _ => rfl, fun _ => rfl⟩

namespace Agent

/-- The numbers in front of the options do not get in the way of their texts. -/
theorem numbered_injective {xs ys : List Text}
    (h : (BoundaryChoice.number xs).map (fun c => line [c.index.text, "|", Json.quote c.text]) =
      (BoundaryChoice.number ys).map fun c => line [c.index.text, "|", Json.quote c.text]) :
    xs = ys := by
  have length : xs.length = ys.length := by
    simpa [BoundaryChoice.number] using congrArg List.length h
  refine List.ext_getElem length fun i left right => ?_
  have entry := congrArg (·[i]?) h
  simp only [BoundaryChoice.number, List.getElem?_map, List.getElem?_zipIdx,
    List.getElem?_eq_getElem left, List.getElem?_eq_getElem right, Option.map_some, line,
    ScriptProblem.sentence, List.flatten_cons, List.flatten_nil, List.append_nil,
    Option.some.injEq, List.append_cancel_left_eq] at entry
  exact Json.quote_injective entry

/-- A text that may be missing is quoted, or nothing is written. -/
theorem quoted_injective {s t : Option Text}
    (h : s.toList.map Json.quote = t.toList.map Json.quote) : s = t := by
  cases s <;> cases t <;> simp at h
  · rfl
  · rw [Json.quote_injective h]

/-- A plain boundary is known from what is printed of it. -/
theorem eq_of_sections {a b : Boundary} (one : a.Plain) (two : b.Plain) {p q : Option Text}
    (h : sections a p = sections b q) : a = b ∧ p.getD "NONE" = q.getD "NONE" := by
  simp only [sections, List.cons.injEq, Section.mk.injEq, true_and, and_true] at h
  obtain ⟨events, texts, prompts, choices, defaults, state⟩ := h
  refine ⟨?_, state⟩
  have event := BoundaryEvent.word_injective events
  have said := List.map_injective_iff.mpr (fun _ _ => Json.quote_injective) texts
  have prompt := quoted_injective prompts
  have fallback := quoted_injective defaults
  rw [one.choices, two.choices] at choices
  have options : a.choices = b.choices := by
    rw [one.choices, two.choices, numbered_injective choices]
  obtain ⟨-, onePrompt, oneAsked, oneDefault⟩ := one
  obtain ⟨-, twoPrompt, twoAsked, twoDefault⟩ := two
  cases a with
  | mk kind =>
  cases b with
  | mk other =>
  obtain rfl : kind = other := event
  -- What does not belong to the event is missing on both sides.
  cases kind <;> simp_all [promptOf, defaultOf]

/-- A line is one line, whatever the texts of the story hold. -/
theorem lineFeed_not_mem_boundaryLines {b : Boundary} (plain : b.Plain) {stateOut : Option Text}
    (path : ∀ p ∈ stateOut, Text.unit '\n' ∉ p) :
    ∀ l ∈ boundaryLines b stateOut, Text.unit '\n' ∉ l := by
  have names : ∀ s ∈ sections b stateOut, Text.unit '\n' ∉ s.name := by
    simp only [sections, List.forall_mem_cons]
    refine ⟨?_, ?_, ?_, ?_, ?_, ?_, ?_, nofun⟩ <;> decide
  have number : ∀ c ∈ b.choices, Text.unit '\n' ∉ c.index.text := by
    rw [plain.choices]
    intro c mem digit
    obtain ⟨entry, -, rfl⟩ := List.mem_map.mp mem
    exact absurd (Json.isDigit_ofNat _ _ digit) (by decide)
  have bodies : ∀ s ∈ sections b stateOut, ∀ t ∈ s.bodies, Text.unit '\n' ∉ t := by
    have quoted : ∀ ts : List Text, ∀ t ∈ ts.map Json.quote, Text.unit '\n' ∉ t := by
      intro ts t mem
      obtain ⟨u, -, rfl⟩ := List.mem_map.mp mem
      exact Json.lineFeed_not_mem_quote u
    simp only [sections, List.forall_mem_cons]
    refine ⟨⟨by decide, nofun⟩, ⟨?_, nofun⟩, quoted _, quoted _, ?_, quoted _, ⟨?_, nofun⟩,
      nofun⟩
    · cases b.event <;> decide
    · intro t mem
      obtain ⟨c, inside, rfl⟩ := List.mem_map.mp mem
      have bar : Text.unit '\n' ∉ Text.ofString "|" := by decide
      simp [line, ScriptProblem.sentence, number c inside, bar, Json.lineFeed_not_mem_quote]
    · cases stateOut with
      | none => decide
      | some p => exact path p rfl
  rw [boundaryLines_eq]
  intro l mem
  obtain ⟨s, inside, own⟩ := List.mem_flatMap.mp mem
  obtain ⟨t, body, rfl⟩ := List.mem_map.mp own
  rw [List.mem_append, not_or]
  exact ⟨names s inside, bodies s inside t body⟩

/-- Plain boundaries that print alike are the same. -/
theorem eq_of_ended_boundaryLines {a b : Boundary} (one : a.Plain) (two : b.Plain)
    {p q : Option Text} (left : ∀ path ∈ p, Text.unit '\n' ∉ path)
    (right : ∀ path ∈ q, Text.unit '\n' ∉ path)
    (h : CommandLine.ended (boundaryLines a p) = CommandLine.ended (boundaryLines b q)) :
    a = b ∧ p.getD "NONE" = q.getD "NONE" := by
  have lines := CommandLine.ended_injective (lineFeed_not_mem_boundaryLines one left)
    (lineFeed_not_mem_boundaryLines two right) h
  rw [boundaryLines_eq, boundaryLines_eq] at lines
  refine eq_of_sections one two (sections_injective ?_ rfl lines)
  change List.Pairwise Apart ["RESULT:", "EVENT:", "TEXT_JSON:", "PROMPT_JSON:", "CHOICE:",
    "INPUT_DEFAULT_JSON:", "STATE_OUT:"]
  decide

/-! ## 4. What the runner returns -/

/-- Two boundaries at which the runner stops, in any games, print alike only if they are the same
boundary: the same event, texts, options, prompt and default. The line about the state file is the
same then, too. -/
theorem boundary_eq_of_printed_eq [Clock τ] {g₁ t₁ g₂ t₂ : Game τ} {b₁ b₂ : Boundary}
    (first : Action.playToBoundary g₁ = .ok b₁ t₁) (second : Action.playToBoundary g₂ = .ok b₂ t₂)
    {p₁ p₂ : Option Text} (left : ∀ path ∈ p₁, Text.unit '\n' ∉ path)
    (right : ∀ path ∈ p₂, Text.unit '\n' ∉ path)
    (same : CommandLine.ended (boundaryLines b₁ p₁) = CommandLine.ended (boundaryLines b₂ p₂)) :
    b₁ = b₂ ∧ line ["STATE_OUT:", p₁.getD "NONE"] = line ["STATE_OUT:", p₂.getD "NONE"] := by
  obtain ⟨texts₁, rfl⟩ := Action.boundary_eq_of_playToBoundary first
  obtain ⟨texts₂, rfl⟩ := Action.boundary_eq_of_playToBoundary second
  obtain ⟨boundary, path⟩ := eq_of_ended_boundaryLines (t₁.boundary_plain texts₁)
    (t₂.boundary_plain texts₂) left right same
  exact ⟨boundary, by rw [path]⟩

/-- A story with a choice that asks nothing. -/
def crossingSource : Text :=
  "\"Left.\\nSTATE_OUT:NONE\"; ask \"\" \"North\" -> a \"South\" -> b; label a: label b:"

/-- A story with a map of the same places. -/
def crossingMapSource : Text :=
  "\"Left.\\nSTATE_OUT:NONE\"; map show \"crossing.png\"; map poi \"North\" 1 1 -> a;
    map poi \"South\" 1 9 -> b; label a: label b:"

/-- What is printed at the crossing. -/
def crossingLines : List Text :=
  ["RESULT:OK", "EVENT:CHOICES", "TEXT_JSON:\"Left.\\nSTATE_OUT:NONE\"", "CHOICE:0|\"North\"",
    "CHOICE:1|\"South\"", "STATE_OUT:NONE"]

/-- The runner plays a story to the crossing. -/
theorem exists_crossing (source : Text) (status : Status)
    (h : (gameProject.launchOn Float (soloFiles source)).load.view (fun _ g =>
      match Action.playToBoundary g with
      | .ok b t => decide (t.status = status ∧ boundaryLines b none = crossingLines)
      | .error _ _ => false) = some true) :
    ∃ (g t : Game Float) (b : Boundary), Action.playToBoundary g = .ok b t ∧ t.status = status ∧
      boundaryLines b none = crossingLines := by
  obtain ⟨-, g, -, seen⟩ := Launched.exists_done h
  cases played : Action.playToBoundary g with
  | error e t =>
    rw [played] at seen
    cases seen
  | ok b t =>
    rw [played] at seen
    exact ⟨g, t, b, played, of_decide_eq_true seen⟩

/-- A choice that asks nothing and a map print alike, and they are the same boundary. -/
theorem boundary_eq_of_printed_eq_crossing :
    ∃ (g₁ g₂ t₁ t₂ : Game Float) (b₁ b₂ : Boundary),
      Action.playToBoundary g₁ = .ok b₁ t₁ ∧ Action.playToBoundary g₂ = .ok b₂ t₂ ∧
      t₁.status = .waitingChoice ∧ t₂.status = .mapOverlay ∧
      CommandLine.ended (boundaryLines b₁ none) = CommandLine.ended (boundaryLines b₂ none) ∧
      b₁ = b₂ := by
  obtain ⟨g₁, t₁, b₁, first, choice, one⟩ :=
    exists_crossing crossingSource .waitingChoice (by decide +kernel)
  obtain ⟨g₂, t₂, b₂, second, map, two⟩ :=
    exists_crossing crossingMapSource .mapOverlay (by decide +kernel)
  have same := congrArg CommandLine.ended (one.trans two.symm)
  exact ⟨g₁, g₂, t₁, t₂, b₁, b₂, first, second, choice, map, same,
    (boundary_eq_of_printed_eq first second (by simp) (by simp) same).1⟩

end Agent
end VisualNovel
