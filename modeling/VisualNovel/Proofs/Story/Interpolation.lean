import VisualNovel.Proofs.Table
import VisualNovel.Proofs.Text
import VisualNovel.Story.Value

/-!
Texts with variables in them.

`Placed` is the grammar of placeholders, stated without the scan: a stretch of text is a placeholder
for a name in front of what follows it. Each placeholder begins with the only dollar sign in it, and
behind that it has inner units only (`Placed.inner`). So a text comes apart, in one way, into
placeholders and single units (`induction_on_parts`), filling it in goes part by part
(`interpolate_placed`, `interpolate_plain`), and two texts can be filled in apart from each other
wherever the second one does not begin with an inner unit (`interpolate_append`).
-/

namespace VisualNovel

open Text (unit)

namespace Placeholder

/-! ## 1. The grammar of placeholders -/

/-- A name: a letter or an underscore, and further units of a class. -/
def Spelled (part : UInt16 → Bool) (name : Text) : Prop :=
  ∃ u more, name = u :: more ∧ isNameStart u ∧ ∀ v ∈ more, part v

/-- A stretch of text is a placeholder for a name in front of the rest. In braces it ends where they
close; a bare name goes on as long as it can. -/
inductive Placed (name : Text) : Text → Text → Prop
  | braced {rest : Text} (spelled : Spelled isBracedPart name) :
      Placed name (unit '$' :: unit '\x7b' :: (name ++ [unit '\x7d'])) rest
  | bare {rest : Text} (spelled : Spelled isNamePart name)
      (stop : ∀ u ∈ rest.head?, isNamePart u = false) : Placed name (unit '$' :: name) rest

/-- A text has a placeholder for a name. -/
def Named (name t : Text) : Prop :=
  ∃ before form rest, t = before ++ (form ++ rest) ∧ Placed name form rest

/-- A unit that can stand in a placeholder behind its dollar sign: a letter, a digit, an underscore,
a point or a brace. -/
def isInner (u : UInt16) : Bool := isBracedPart u || u = unit '\x7b' || u = unit '\x7d'

theorem Spelled.inner {part : UInt16 → Bool} {name : Text} (h : Spelled part name)
    (parts : ∀ u, part u → isBracedPart u) : ∀ u ∈ name, isInner u := by
  obtain ⟨v, more, rfl, start, rest⟩ := h
  intro u hu
  have braced : isBracedPart u := by
    rcases List.mem_cons.mp hu with rfl | hu
    · simp [isBracedPart, isNamePart, start]
    · exact parts u (rest u hu)
  simp [isInner, braced]

theorem isBracedPart_of_isNamePart {u : UInt16} (h : isNamePart u) : isBracedPart u := by
  simp [isBracedPart, h]

/-- A placeholder is a dollar sign and inner units behind it. -/
theorem Placed.inner {name form rest : Text} (h : Placed name form rest) :
    ∃ inside, form = unit '$' :: inside ∧ ∀ u ∈ inside, isInner u := by
  cases h with
  | braced spelled =>
    refine ⟨_, rfl, fun u hu => ?_⟩
    simp only [List.mem_cons, List.mem_append, List.not_mem_nil, or_false] at hu
    rcases hu with rfl | hu | rfl
    · decide
    · exact spelled.inner (fun _ => id) u hu
    · decide
  | bare spelled _ => exact ⟨_, rfl, spelled.inner fun _ => isBracedPart_of_isNamePart⟩

/-- A placeholder spells its name. -/
theorem Placed.mem {name form rest : Text} (h : Placed name form rest) {u : UInt16} (hu : u ∈ name) :
    u ∈ form := by
  cases h <;> simp [hu]

/-- What does not begin with an inner unit can come behind a placeholder. -/
theorem Placed.append {name form rest b : Text} (h : Placed name form rest)
    (apart : ∀ u ∈ b.head?, isInner u = false) : Placed name form (rest ++ b) := by
  cases h with
  | braced spelled => exact .braced spelled
  | bare spelled stop =>
    refine .bare spelled fun u hu => ?_
    cases rest with
    | cons v more => exact stop u hu
    | nil =>
      have outer := apart u hu
      simp only [isInner, isBracedPart, Bool.or_eq_false_iff] at outer
      exact outer.1.1.1

/-- A placeholder at the front of two texts lies in the first of them, where the second one does not
begin with an inner unit. -/
theorem Placed.within {name form rest a b : Text} (h : Placed name form rest)
    (apart : ∀ u ∈ b.head?, isInner u = false) (some : a ≠ []) (split : a ++ b = form ++ rest) :
    ∃ after, a = form ++ after ∧ Placed name form after := by
  obtain ⟨inside, shape, inner⟩ := h.inner
  rcases List.append_eq_append_iff.mp split with ⟨beyond, long, begins⟩ | ⟨after, rfl, rfl⟩
  · -- Units of the placeholder that reach into the second text are inner units, so there are none.
    obtain ⟨u, front, rfl⟩ := List.exists_cons_of_ne_nil some
    obtain ⟨rfl, tail⟩ := List.cons.inj (shape.symm.trans long)
    cases beyond with
    | nil =>
      refine ⟨[], by rw [long, List.append_nil, List.append_nil], ?_⟩
      cases h with
      | braced spelled => exact .braced spelled
      | bare spelled _ => exact .bare spelled nofun
    | cons v beyond =>
      have outer := apart v (by simp [begins])
      rw [inner v (by simp [tail])] at outer
      cases outer
  · refine ⟨after, rfl, ?_⟩
    cases h with
    | braced spelled => exact .braced spelled
    | bare spelled stop =>
      refine .bare spelled fun u hu => stop u ?_
      cases after with
      | nil => cases hu
      | cons v more => exact hu

/-- Every text comes apart into placeholders and the units that stand for themselves. -/
theorem induction_on_parts {motive : Text → Prop} (nil : motive [])
    (placed : ∀ name form rest, Placed name form rest → motive rest → motive (form ++ rest))
    (plain : ∀ u rest, (∀ name form after, u :: rest = form ++ after → ¬ Placed name form after) →
      motive rest → motive (u :: rest))
    (t : Text) : motive t := by
  induction size : t.length using Nat.strongRecOn generalizing t with
  | ind n ih =>
    subst size
    cases t with
    | nil => exact nil
    | cons u rest =>
      by_cases front : ∃ name form after, u :: rest = form ++ after ∧ Placed name form after
      · obtain ⟨name, form, after, split, here⟩ := front
        obtain ⟨inside, shape, _⟩ := here.inner
        rw [split]
        exact placed name form after here (ih _ (by simp [split, shape]) after rfl)
      · have none := fun name form after split here => front ⟨name, form, after, split, here⟩
        exact plain u rest none (ih _ (by simp) rest rfl)

/-! ## 2. The scan -/

theorem leadingName_append {part : UInt16 → Bool} {name rest : Text} (spelled : Spelled part name)
    (stop : ∀ u ∈ rest.head?, part u = false) : leadingName part (name ++ rest) = name := by
  obtain ⟨u, more, rfl, start, parts⟩ := spelled
  rw [List.cons_append, leadingName, if_pos start, (Text.span_class parts stop).1]

theorem leadingName_spec (part : UInt16 → Bool) (t : Text) :
    leadingName part t = [] ∨
      ∃ name rest, t = name ++ rest ∧ leadingName part t = name ∧ Spelled part name ∧
        ∀ u ∈ rest.head?, part u = false := by
  cases t with
  | nil => exact .inl rfl
  | cons u rest =>
    rw [leadingName]
    by_cases start : isNameStart u
    · refine .inr ⟨u :: rest.takeWhile part, rest.dropWhile part, ?_, if_pos start, ?_, ?_⟩
      · rw [List.cons_append, List.takeWhile_append_dropWhile]
      · exact ⟨u, _, rfl, start, Text.all_takeWhile rest⟩
      · exact fun v hv => by simpa [Option.mem_def.mp hv] using List.head?_dropWhile_not part rest
    · exact .inl (if_neg start)

/-- The scan finds the placeholders of the grammar. -/
theorem behindDollar?_of_placed {name form rest : Text} (h : Placed name (unit '$' :: form) rest) :
    behindDollar? (form ++ rest) = some (name, form.length) := by
  cases h with
  | braced spelled =>
    have found : leadingName isBracedPart (name ++ unit '\x7d' :: rest) = name :=
      leadingName_append spelled (by simp [isBracedPart, isNamePart, isNameStart, unit,
        Text.isLetter, Text.isDigit])
    have some : name ≠ [] := by
      obtain ⟨u, more, rfl, _⟩ := spelled
      simp
    simp [behindDollar?, found, some]
  | bare spelled stop =>
    have found := leadingName_append spelled stop
    obtain ⟨u, more, rfl, start, _⟩ := spelled
    have other : u ≠ unit '\x7b' := by
      rintro rfl
      exact absurd start (by decide)
    rw [List.cons_append] at found ⊢
    simp [behindDollar?, other, found]

/-- And it finds nothing else. -/
theorem placed_of_behindDollar? {t name : Text} {count : Nat}
    (h : behindDollar? t = some (name, count)) :
    ∃ form rest, t = form ++ rest ∧ Placed name (unit '$' :: form) rest := by
  cases t with
  | nil => cases h
  | cons u t =>
    unfold behindDollar? at h
    simp only at h
    split at h
    · next brace =>
      split at h
      · next closed =>
        cases h
        rcases leadingName_spec isBracedPart t with
          none | ⟨name, rest, rfl, found, spelled, _⟩
        · simp [none] at closed
        · rw [found] at closed ⊢
          cases rest with
          | nil => simp at closed
          | cons v rest =>
            obtain rfl : v = unit '\x7d' := by simpa using (Bool.and_eq_true_iff.mp closed).2
            exact ⟨_, rest, by simp [brace], .braced spelled⟩
      · cases h
    · split at h
      · cases h
      · next some =>
        cases h
        rcases leadingName_spec isNamePart (u :: t) with
          none | ⟨name, rest, split, found, spelled, stop⟩
        · simp [none] at some
        · rw [found, split]
          exact ⟨name, rest, rfl, .bare spelled stop⟩

/-- Units that are done are passed over. -/
theorem fill_drop (vars : Variables) (count : Nat) (t : Text) :
    fill vars count t = interpolate vars (t.drop count) := by
  induction count generalizing t with
  | zero => rfl
  | succ count ih =>
    cases t with
    | nil => rfl
    | cons u rest => exact ih rest

end Placeholder

open Placeholder

section

variable {vars : Variables} {name form rest a b t : Text}

/-- What a placeholder stands for: the value of its variable, or itself. -/
def Variables.shown (vars : Variables) (name form : Text) : Text :=
  (vars.get? name).elim form Value.text

/-- A placeholder is filled in, and its value is not looked at again. -/
theorem interpolate_placed (h : Placed name form rest) :
    interpolate vars (form ++ rest) = vars.shown name form ++ interpolate vars rest := by
  obtain ⟨inside, rfl, _⟩ := h.inner
  have found := behindDollar?_of_placed h
  rw [List.cons_append, interpolate, fill, if_pos rfl, found]
  simp only [fill_drop, List.drop_left, List.take_left, Variables.shown]
  cases vars.get? name <;> rfl

/-- A unit with which no placeholder begins is kept. -/
theorem interpolate_plain {u : UInt16}
    (h : ∀ name form after, u :: rest = form ++ after → ¬ Placed name form after) :
    interpolate vars (u :: rest) = u :: interpolate vars rest := by
  rw [interpolate, fill]
  split
  · next dollar =>
    split
    · next name count found =>
      obtain ⟨form, after, rfl, here⟩ := placed_of_behindDollar? found
      exact absurd here (h name _ after (by rw [dollar, List.cons_append]))
    · rfl
  · rfl

/-! ## 3. Filling in -/

/-- Where the second text does not begin with an inner unit, the two are filled in apart. -/
theorem interpolate_append (apart : ∀ u ∈ b.head?, isInner u = false) :
    interpolate vars (a ++ b) = interpolate vars a ++ interpolate vars b := by
  induction a using induction_on_parts with
  | nil => rfl
  | placed name form rest here ih =>
    rw [List.append_assoc, interpolate_placed (here.append apart), interpolate_placed here, ih,
      List.append_assoc]
  | plain u rest none ih =>
    have still : ∀ name form after, u :: (rest ++ b) = form ++ after → ¬ Placed name form after := by
      intro name form after split here
      obtain ⟨left, inside, placed⟩ := here.within apart (List.cons_ne_nil u rest) split
      exact none name form left inside placed
    rw [List.cons_append, interpolate_plain still, interpolate_plain none, ih, List.cons_append]

/-- What is placed in a later part of a text is placed in the text. -/
theorem Placeholder.Named.later (h : Named name t) (a : Text) : Named name (a ++ t) := by
  obtain ⟨before, form, rest, rfl, here⟩ := h
  exact ⟨a ++ before, form, rest, (List.append_assoc _ _ _).symm, here⟩

/-- A text without placeholders is kept. -/
theorem interpolate_unnamed (none : ∀ name, ¬ Named name t) : interpolate vars t = t := by
  induction t using induction_on_parts with
  | nil => rfl
  | placed name form rest here _ => exact absurd ⟨[], form, rest, rfl, here⟩ (none name)
  | plain u rest front ih =>
    rw [interpolate_plain front, ih fun name named => none name (named.later [u])]

/-- Variables that are not named in a text do not matter. -/
theorem interpolate_congr {others : Variables}
    (same : ∀ name, Named name t → others.get? name = vars.get? name) :
    interpolate others t = interpolate vars t := by
  induction t using induction_on_parts with
  | nil => rfl
  | placed name form rest here ih =>
    have value := same name ⟨[], form, rest, rfl, here⟩
    rw [interpolate_placed here, interpolate_placed here, Variables.shown, Variables.shown, value,
      ih fun name named => same name (named.later form)]
  | plain u rest front ih =>
    rw [interpolate_plain front, interpolate_plain front,
      ih fun name named => same name (named.later [u])]

end

/-- Texts are filled in part by part, in one pass. Two texts are filled in apart from each other where
the second one does not begin with an inner unit. A placeholder becomes the value of its variable,
which is not looked at again, or stays as it is written; what stands around it is filled in as if it
were not there. A text without placeholders is kept, and what a text does not name does not matter. -/
theorem interpolate_in_one_pass (vars : Variables) :
    (∀ a b, (∀ u ∈ b.head?, isInner u = false) →
      interpolate vars (a ++ b) = interpolate vars a ++ interpolate vars b) ∧
    (∀ before name form rest, Placed name form rest →
      interpolate vars (before ++ (form ++ rest)) =
        interpolate vars before ++ (vars.shown name form ++ interpolate vars rest)) ∧
    (∀ t, (∀ name, ¬ Named name t) → interpolate vars t = t) ∧
    ∀ others t, (∀ name, Named name t → others.get? name = vars.get? name) →
      interpolate others t = interpolate vars t := by
  refine ⟨fun _ _ => interpolate_append, fun before name form rest here => ?_,
    fun _ => interpolate_unnamed, fun _ _ => interpolate_congr⟩
  obtain ⟨inside, rfl, _⟩ := here.inner
  rw [interpolate_append (by simp [isInner, isBracedPart, isNamePart, isNameStart, unit,
    Text.isLetter, Text.isDigit]), interpolate_placed here]

/-- A variable whose value looks like a placeholder for itself. -/
def echoing : Variables := ⟨[(Text.ofString "who", .str (Text.ofString "$who"))]⟩

/-- The same with a variable that is named in no text below. -/
def echoingAside : Variables := echoing.set (Text.ofString "mine") (.bool true)

theorem interpolate_in_one_pass_echoing :
    (∀ u ∈ (Text.ofString " and $who").head?, isInner u = false) ∧
    Placed (Text.ofString "who") (Text.ofString "$who") (Text.ofString "?") ∧
    (∀ name, ¬ Named name (Text.ofString "I")) ∧
    (∀ name, Named name (Text.ofString "$who") → echoingAside.get? name = echoing.get? name) ∧
    interpolate echoing (Text.ofString "$\x7bwho" ++ Text.ofString " and $who") =
      interpolate echoing (Text.ofString "$\x7bwho") ++
        interpolate echoing (Text.ofString " and $who") ∧
    interpolate echoing (Text.ofString "I? $" ++ (Text.ofString "$who" ++ Text.ofString "?")) =
      interpolate echoing (Text.ofString "I? $") ++
        (echoing.shown (Text.ofString "who") (Text.ofString "$who") ++
          interpolate echoing (Text.ofString "?")) ∧
    interpolate echoing (Text.ofString "I") = Text.ofString "I" ∧
    interpolate echoingAside (Text.ofString "$who") =
      interpolate echoing (Text.ofString "$who") := by
  have apart : ∀ u ∈ (Text.ofString " and $who").head?, isInner u = false := by
    rintro u ⟨⟩
    rfl
  have placed : Placed (Text.ofString "who") (Text.ofString "$who") (Text.ofString "?") :=
    .bare ⟨unit 'w', Text.ofString "ho", rfl, rfl, List.all_eq_true.mp rfl⟩ (by rintro u ⟨⟩; rfl)
  have none : ∀ name, ¬ Named name (Text.ofString "I") := by
    rintro name ⟨before, form, rest, split, here⟩
    obtain ⟨inside, rfl, _⟩ := here.inner
    have dollar := List.mem_append_right before (List.mem_append_left rest
      (List.mem_cons_self : unit '$' ∈ unit '$' :: inside))
    rw [← split] at dollar
    exact absurd dollar (by decide)
  have same : ∀ name, Named name (Text.ofString "$who") →
      echoingAside.get? name = echoing.get? name := by
    rintro name ⟨before, form, rest, split, here⟩
    have other : name ≠ Text.ofString "mine" := by
      rintro rfl
      have letter := here.mem (show unit 'm' ∈ Text.ofString "mine" by decide)
      have found := List.mem_append_right before (List.mem_append_left rest letter)
      rw [← split] at found
      exact absurd found (by decide)
    rw [echoingAside, Table.get?_set, if_neg other]
  obtain ⟨law, filled, kept, unnamed⟩ := interpolate_in_one_pass echoing
  exact ⟨apart, placed, none, same, law _ _ apart, filled _ _ _ _ placed, kept _ none,
    unnamed _ _ same⟩

end VisualNovel
