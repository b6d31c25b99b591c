/-!
Steps that change a state and may fail.

Readers of tokens, builders of drafts and actions on games are all functions from a state to a
result and a state. The lemmas of the first section run such a step on a state, one construct at a
time. `Ends m s Q E` says what holds where the step `m` ends when it begins in `s`: `Q` of its value
and the state if it succeeds, `E` of its failure and the state if it fails. The statement about a
sequence is one about its first step, so a proof follows the steps as they are written.
-/

namespace VisualNovel

variable {ε σ α β : Type}

/-! ## 1. Running a step -/

section Run

theorem run_bind (m : EStateM ε σ α) (f : α → EStateM ε σ β) (s : σ) :
    (m >>= f) s =
      match m s with
      | .ok a t => f a t
      | .error e t => .error e t := rfl

@[simp] theorem run_pure (a : α) (s : σ) : (pure a : EStateM ε σ α) s = .ok a s := rfl

@[simp] theorem run_get (s : σ) : (get : EStateM ε σ σ) s = .ok s s := rfl

@[simp] theorem run_set (s t : σ) : (set t : EStateM ε σ PUnit) s = .ok ⟨⟩ t := rfl

@[simp] theorem run_modify (f : σ → σ) (s : σ) :
    (modify f : EStateM ε σ PUnit) s = .ok ⟨⟩ (f s) := rfl

@[simp] theorem run_throw (e : ε) (s : σ) : (throw e : EStateM ε σ α) s = .error e s := rfl

theorem run_bind_ok {m : EStateM ε σ α} {f : α → EStateM ε σ β} {s t : σ} {a : α}
    (h : m s = .ok a t) : (m >>= f) s = f a t := by
  rw [run_bind, h]

theorem run_bind_error {m : EStateM ε σ α} {f : α → EStateM ε σ β} {s t : σ} {e : ε}
    (h : m s = .error e t) : (m >>= f) s = .error e t := by
  rw [run_bind, h]

/-- A sequence that succeeds is two steps that succeed. -/
theorem run_bind_eq_ok {m : EStateM ε σ α} {f : α → EStateM ε σ β} {s u : σ} {b : β} :
    (m >>= f) s = .ok b u ↔ ∃ a t, m s = .ok a t ∧ f a t = .ok b u := by
  constructor
  · intro h
    cases hm : m s with
    | ok a t => exact ⟨a, t, rfl, by rwa [run_bind_ok hm] at h⟩
    | error e t => rw [run_bind_error hm] at h; cases h
  · rintro ⟨a, t, hm, hf⟩
    rw [run_bind_ok hm]
    exact hf

/-- The same for results without a state. -/
theorem except_bind_eq_ok {x : Except ε α} {f : α → Except ε β} {b : β} :
    (x >>= f) = .ok b ↔ ∃ a, x = .ok a ∧ f a = .ok b := by
  cases x with
  | ok a => exact ⟨fun h => ⟨a, rfl, h⟩, fun ⟨_, ha, h⟩ => by cases ha; exact h⟩
  | error e => exact ⟨fun h => (by cases h), fun ⟨_, ha, _⟩ => by cases ha⟩

/-- A result that can be seen to succeed. -/
theorem exists_ok {x : Except ε α} {f : α → β} {b : β} (h : x.toOption.map f = some b) :
    ∃ a, x = .ok a ∧ f a = b := by
  cases x with
  | ok a => exact ⟨a, rfl, Option.some.inj h⟩
  | error e => cases h

/-- A step that can be seen to succeed. -/
theorem exists_run {m : EStateM ε σ α} {s : σ} {f : α → σ → β} {b : β}
    (h : (match m s with
      | .ok a t => some (f a t)
      | .error _ _ => none) = some b) : ∃ a t, m s = .ok a t ∧ f a t = b := by
  cases hm : m s with
  | ok a t =>
    rw [hm] at h
    exact ⟨a, t, rfl, Option.some.inj h⟩
  | error e t =>
    rw [hm] at h
    cases h

/-- A step that can be seen to fail. -/
theorem exists_failure {m : EStateM ε σ α} {s : σ} {f : ε → σ → β} {b : β}
    (h : (match m s with
      | .ok _ _ => none
      | .error e t => some (f e t)) = some b) : ∃ e t, m s = .error e t ∧ f e t = b := by
  cases hm : m s with
  | ok a t =>
    rw [hm] at h
    cases h
  | error e t =>
    rw [hm] at h
    exact ⟨e, t, rfl, Option.some.inj h⟩

end Run

/-! ## 2. Where a step ends -/

/-- What holds where a step ends that begins in a state: of the value and the state on success, of
the failure and the state otherwise. -/
def Ends (m : EStateM ε σ α) (s : σ) (Q : α → σ → Prop) (E : ε → σ → Prop) : Prop :=
  match m s with
  | .ok a t => Q a t
  | .error e t => E e t

section Ends

variable {m : EStateM ε σ α} {f : α → EStateM ε σ β} {s t : σ} {a : α}
variable {Q Q' : α → σ → Prop} {R : β → σ → Prop} {E E' : ε → σ → Prop}

@[simp] theorem ends_pure : Ends (pure a) s Q E ↔ Q a s := Iff.rfl

@[simp] theorem ends_throw {e : ε} : Ends (throw e : EStateM ε σ α) s Q E ↔ E e s := Iff.rfl

@[simp] theorem ends_get {Q : σ → σ → Prop} : Ends get s Q E ↔ Q s s := Iff.rfl

@[simp] theorem ends_set {Q : PUnit → σ → Prop} : Ends (set t) s Q E ↔ Q ⟨⟩ t := Iff.rfl

@[simp] theorem ends_modify {g : σ → σ} {Q : PUnit → σ → Prop} :
    Ends (modify g) s Q E ↔ Q ⟨⟩ (g s) := Iff.rfl

theorem ends_bind : Ends (m >>= f) s R E ↔ Ends m s (fun a t => Ends (f a) t R E) E := by
  unfold Ends
  rw [run_bind]
  cases m s <;> rfl

theorem ends_bind_ok (h : m s = .ok a t) : Ends (m >>= f) s R E ↔ Ends (f a) t R E := by
  rw [Ends, run_bind_ok h, ← Ends]

theorem ends_bind_error {e : ε} (h : m s = .error e t) : Ends (m >>= f) s R E ↔ E e t := by
  rw [Ends, run_bind_error h]

theorem Ends.bind (hm : Ends m s Q E) (hf : ∀ a t, Q a t → Ends (f a) t R E) :
    Ends (m >>= f) s R E := by
  rw [ends_bind]
  unfold Ends at hm ⊢
  cases h : m s with
  | ok a t => rw [h] at hm; exact hf a t hm
  | error e t => rw [h] at hm; exact hm

theorem Ends.mono (hm : Ends m s Q E) (hq : ∀ a t, Q a t → Q' a t) (he : ∀ e t, E e t → E' e t) :
    Ends m s Q' E' := by
  unfold Ends at hm ⊢
  cases h : m s with
  | ok a t => rw [h] at hm; exact hq a t hm
  | error e t => rw [h] at hm; exact he e t hm

theorem Ends.of_ok (hm : Ends m s Q E) (h : m s = .ok a t) : Q a t := by
  unfold Ends at hm
  rw [h] at hm
  exact hm

theorem Ends.ite {c : Prop} [Decidable c] {n : EStateM ε σ α} (hm : c → Ends m s Q E)
    (hn : ¬ c → Ends n s Q E) : Ends (if c then m else n) s Q E := by
  split
  · exact hm ‹_›
  · exact hn ‹_›

end Ends

end VisualNovel
