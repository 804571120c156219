/-!
# Outcomes of stateful computations that may throw

`EStateM` keeps the state when a computation throws. This module names the two
parts of an outcome, the state and the value, and says which computations leave
the state as it is.

1. `Keeps.bind`: computations that leave the state as it is can be sequenced.
2. `state_bind_of_keeps`: what a computation does to the state stands, whatever
   such a continuation does.
3. `Congruence`: relations between computations that sequencing keeps, so that
   programs over related operations are related. `agreesOnSuccess` and `alike` are two
   of them.
4. `value?_bind_pure`: what becomes of the value when it is only rewritten.
-/

namespace EStateM

variable {ε σ α β : Type}

namespace Result

/-- The state an outcome leaves behind, whether or not it is an error. -/
def state : Result ε σ α → σ
  | .ok _ s => s
  | .error _ s => s

/-- The value of an outcome, if it is not an error. -/
def value? : Result ε σ α → Option α
  | .ok a _ => some a
  | .error _ _ => none

@[simp] theorem state_ok (a : α) (s : σ) : (Result.ok a s : Result ε σ α).state = s := rfl

@[simp] theorem state_error (e : ε) (s : σ) : (Result.error e s : Result ε σ α).state = s := rfl

end Result

/-- The computation leaves every state as it is. -/
def Keeps (x : EStateM ε σ α) : Prop := ∀ s, (x s).state = s

theorem keeps_pure (a : α) : Keeps (pure a : EStateM ε σ α) := fun _ => rfl

theorem keeps_throw (e : ε) : Keeps (throw e : EStateM ε σ α) := fun _ => rfl

theorem state_bind_of_keeps {x : EStateM ε σ α} {f : α → EStateM ε σ β} (hf : ∀ a, Keeps (f a))
    (s : σ) : ((x >>= f) s).state = (x s).state := by
  show (EStateM.bind x f s).state = _
  unfold EStateM.bind
  cases x s with
  | ok a s' => exact hf a s'
  | error e s' => rfl

theorem Keeps.bind {x : EStateM ε σ α} {f : α → EStateM ε σ β} (hx : Keeps x)
    (hf : ∀ a, Keeps (f a)) : Keeps (x >>= f) :=
  fun s => (state_bind_of_keeps hf s).trans (hx s)

theorem bind_of_ok {x : EStateM ε σ α} {f : α → EStateM ε σ β} {s s' : σ} {a : α}
    (h : x s = .ok a s') : (x >>= f) s = f a s' := by
  show EStateM.bind x f s = _
  rw [EStateM.bind, h]

theorem bind_of_error {x : EStateM ε σ α} {f : α → EStateM ε σ β} {s s' : σ} {e : ε}
    (h : x s = .error e s') : (x >>= f) s = .error e s' := by
  show EStateM.bind x f s = _
  rw [EStateM.bind, h]

/-! ## Related computations -/

/-- A relation between computations on two kinds of states that holds of what only
returns or throws, and that sequencing keeps. -/
structure Congruence (ε σ τ : Type) where
  Rel : ∀ {α : Type}, EStateM ε σ α → EStateM ε τ α → Prop
  rel_pure : ∀ {α : Type} (a : α), Rel (pure a) (pure a)
  rel_throw : ∀ {α : Type} (e : ε), Rel (throw e : EStateM ε σ α) (throw e)
  rel_bind : ∀ {α β : Type} {x : EStateM ε σ α} {y : EStateM ε τ α}
    {f : α → EStateM ε σ β} {g : α → EStateM ε τ β},
    Rel x y → (∀ a, Rel (f a) (g a)) → Rel (x >>= f) (y >>= g)

/-- Where `x` has a result, `y` has the same result and leaves the same state. -/
def AgreesOnSuccess (x y : EStateM ε σ α) : Prop :=
  ∀ s a s', x s = .ok a s' → y s = .ok a s'

def agreesOnSuccess (ε σ : Type) : Congruence ε σ σ where
  Rel := AgreesOnSuccess
  rel_pure _ _ _ _ h := h
  rel_throw _ _ _ _ h := h
  rel_bind {α β x y f g} hxy hfg := by
    intro s b s' h
    cases hx : x s with
    | error e t =>
      rw [bind_of_error hx] at h
      cases h
    | ok a t =>
      rw [bind_of_ok hx] at h
      rw [bind_of_ok (hxy s a t hx)]
      exact hfg a t b s' h

/-- The same value, or an error each, and states in the relation. -/
structure Result.Alike {τ : Type} (R : σ → τ → Prop) (r : Result ε σ α) (q : Result ε τ α) :
    Prop where
  value : r.value? = q.value?
  state : R r.state q.state

/-- What comes after two outcomes that are alike. -/
theorem Result.Alike.bind {τ : Type} {R : σ → τ → Prop} {x : EStateM ε σ α}
    {y : EStateM ε τ α} {f : α → EStateM ε σ β} {g : α → EStateM ε τ β} {s : σ} {t : τ}
    (h : (x s).Alike R (y t)) (hfg : ∀ a s' t', R s' t' → (f a s').Alike R (g a t')) :
    ((x >>= f) s).Alike R ((y >>= g) t) := by
  obtain ⟨hvalue, hstate⟩ := h
  cases hx : x s with
  | ok a s' =>
    cases hy : y t with
    | ok b t' =>
      rw [hx, hy] at hvalue hstate
      obtain rfl : a = b := Option.some.inj hvalue
      rw [bind_of_ok hx, bind_of_ok hy]
      exact hfg a s' t' hstate
    | error e t' =>
      rw [hx, hy] at hvalue
      cases hvalue
  | error e s' =>
    cases hy : y t with
    | ok b t' =>
      rw [hx, hy] at hvalue
      cases hvalue
    | error e' t' =>
      rw [hx, hy] at hstate
      rw [bind_of_error hx, bind_of_error hy]
      exact ⟨rfl, hstate⟩

/-- From states in the relation, both have the same value or both throw, and the states
that they leave are in the relation again. -/
def alike (ε : Type) {σ τ : Type} (R : σ → τ → Prop) : Congruence ε σ τ where
  Rel x y := ∀ s t, R s t → (x s).Alike R (y t)
  rel_pure _ _ _ h := ⟨rfl, h⟩
  rel_throw _ _ _ h := ⟨rfl, h⟩
  rel_bind hxy hfg s t h := (hxy s t h).bind hfg

/-! ## States that are not looked at -/

namespace Result

/-- The outcome beside a state that has nothing to do with it. -/
def beside {ρ : Type} (r : Result ε σ α) (p : ρ) : Result ε (σ × ρ) α :=
  match r with
  | .ok a s => .ok a (s, p)
  | .error e s => .error e (s, p)

@[simp] theorem state_beside {ρ : Type} (r : Result ε σ α) (p : ρ) :
    (r.beside p).state = (r.state, p) := by
  cases r with
  | ok a s => rfl
  | error e s => rfl

@[simp] theorem value?_beside {ρ : Type} (r : Result ε σ α) (p : ρ) :
    (r.beside p).value? = r.value? := by
  cases r with
  | ok a s => rfl
  | error e s => rfl

end Result

/-! ## Values -/

/-- A result that is only rewritten is there when the result is. -/
theorem value?_bind_pure (x : EStateM ε σ α) (f : α → β) (s : σ) :
    ((x >>= fun a => pure (f a)) s).value? = (x s).value?.map f := by
  cases h : x s with
  | ok a s' =>
    rw [bind_of_ok h]
    rfl
  | error e s' =>
    rw [bind_of_error h]
    rfl

end EStateM
