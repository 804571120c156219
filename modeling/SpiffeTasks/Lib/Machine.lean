import Mathlib.Data.List.Infix
import Mathlib.Order.Basic

/-!
# Machines and their runs

A machine reads inputs one by one; each input gives an output and the next
state. This module has runs over lists of inputs and rules about them.

1. `run_history`, `run_invariant`: an invariant that may speak of the inputs read so
   far.
2. `admitted_append`, `Admitted.step`: runs whose inputs are each enabled in
   the state they meet.
3. `survives_iff`: a property that inputs can end and none can bring about.
4. `run_rel`, `trace_alike_iff`: two machines on the same inputs, and when they cannot
   be told apart by their outputs.
5. `purged_prefixes_iff`: dropping inputs from a run changes nothing, in any
   state the run reaches, exactly when every dropped input leaves the state it
   meets as it is.
6. `run_filter_rel`, `run_kept_rel`: dropping inputs from a run is not seen through a
   relation that the kept inputs preserve and the dropped inputs do not leave.
-/

/-- A machine with states `σ`, inputs `ι` and outputs `ω`. -/
structure Machine (σ ι ω : Type*) where
  step : σ → ι → ω × σ

namespace Machine

variable {σ ι ω : Type*} (m : Machine σ ι ω)

/-! ## Runs -/

/-- The state after the inputs `w`. -/
def run (s : σ) : List ι → σ
  | [] => s
  | i :: w => run (m.step s i).2 w

/-- Each input of `w` with the output it gets. -/
def trace (s : σ) : List ι → List (ι × ω)
  | [] => []
  | i :: w => (i, (m.step s i).1) :: trace (m.step s i).2 w

@[simp] theorem run_nil (s : σ) : m.run s [] = s := rfl

@[simp] theorem run_cons (s : σ) (i : ι) (w : List ι) :
    m.run s (i :: w) = m.run (m.step s i).2 w := rfl

@[simp] theorem trace_cons (s : σ) (i : ι) (w : List ι) :
    m.trace s (i :: w) = (i, (m.step s i).1) :: m.trace (m.step s i).2 w := rfl

theorem run_append (s : σ) (w v : List ι) : m.run s (w ++ v) = m.run (m.run s w) v := by
  induction w generalizing s with
  | nil => rfl
  | cons i w ih => exact ih _

theorem run_concat (s : σ) (w : List ι) (i : ι) :
    m.run s (w ++ [i]) = (m.step (m.run s w) i).2 := by
  rw [run_append]
  rfl

theorem trace_append (s : σ) (w v : List ι) :
    m.trace s (w ++ v) = m.trace s w ++ m.trace (m.run s w) v := by
  induction w generalizing s with
  | nil => rfl
  | cons i w ih => exact congrArg (_ :: ·) (ih _)

theorem trace_concat (s : σ) (w : List ι) (i : ι) :
    m.trace s (w ++ [i]) = m.trace s w ++ [(i, (m.step (m.run s w) i).1)] := by
  rw [trace_append]
  rfl

/-! ## Enabled inputs and invariants -/

/-- Every input of `w` is enabled in the state it meets. -/
def Admitted (enabled : σ → ι → Prop) (s : σ) : List ι → Prop
  | [] => True
  | i :: w => enabled s i ∧ Admitted enabled (m.step s i).2 w

variable {m}

/-- An entry of the trace is an input with the output that it gets after the inputs
before it. -/
theorem mem_trace_iff {s : σ} {w : List ι} {i : ι} {o : ω} :
    (i, o) ∈ m.trace s w ↔
      ∃ pre post, w = pre ++ i :: post ∧ o = (m.step (m.run s pre) i).1 := by
  induction w generalizing s with
  | nil => exact iff_of_false List.not_mem_nil fun ⟨pre, _, h, _⟩ => by cases pre <;> cases h
  | cons j w ih =>
    rw [trace_cons, List.mem_cons, ih]
    constructor
    · intro h
      obtain h | ⟨pre, post, rfl, ho⟩ := h
      · cases h
        exact ⟨[], w, rfl, rfl⟩
      · exact ⟨j :: pre, post, rfl, ho⟩
    · rintro ⟨pre, post, hw, ho⟩
      cases pre with
      | nil =>
        cases hw
        exact .inl (Prod.ext rfl ho)
      | cons k pre =>
        cases hw
        exact .inr ⟨pre, post, rfl, ho⟩

/-- Reading inputs through a function. -/
theorem run_map {κ : Type*} {n : Machine σ κ ω} (f : κ → ι) (h : ∀ s k, n.step s k = m.step s (f k))
    (s : σ) (w : List κ) : n.run s w = m.run s (w.map f) := by
  induction w generalizing s with
  | nil => rfl
  | cons k w ih => rw [run_cons, List.map_cons, run_cons, h, ih]

/-- A relation between the states of two machines that every input preserves relates
their runs. -/
theorem run_rel {τ ω' : Type*} {n : Machine τ ι ω'} (R : σ → τ → Prop)
    (step : ∀ s t i, R s t → R (m.step s i).2 (n.step t i).2) {s : σ} {t : τ} (h : R s t)
    (w : List ι) : R (m.run s w) (n.run t w) := by
  induction w generalizing s t with
  | nil => exact h
  | cons i w ih => exact ih (step s t i h)

/-- Machines that make the same moves, whatever their outputs, make the same runs. -/
theorem run_congr {ω' : Type*} {n : Machine σ ι ω'} (h : ∀ s i, (m.step s i).2 = (n.step s i).2)
    (s : σ) (w : List ι) : m.run s w = n.run s w := by
  refine run_rel Eq (fun s t i hst => ?_) rfl w
  rw [hst, h]

theorem admitted_append {enabled : σ → ι → Prop} {s : σ} {w v : List ι} :
    m.Admitted enabled s (w ++ v) ↔
      m.Admitted enabled s w ∧ m.Admitted enabled (m.run s w) v := by
  induction w generalizing s with
  | nil => simp [Admitted]
  | cons i w ih => simp [Admitted, ih, and_assoc]

theorem Admitted.step {enabled : σ → ι → Prop} {s : σ} {w v : List ι} {i : ι}
    (h : m.Admitted enabled s (w ++ i :: v)) : enabled (m.run s w) i :=
  (admitted_append.mp h).2.1

/-- An invariant that speaks of the state and of the inputs read so far holds
after an admitted run, if it holds at the start and every enabled input keeps
it. -/
theorem run_history {enabled : σ → ι → Prop} {Inv : List ι → σ → Prop} {s : σ} {w : List ι}
    (start : Inv [] s) (hw : m.Admitted enabled s w)
    (step : ∀ v t i, Inv v t → enabled t i → Inv (v ++ [i]) (m.step t i).2) :
    Inv w (m.run s w) := by
  -- The induction is on the inputs still to come; `v` are the ones that were read.
  have main : ∀ (w v : List ι) (t : σ), Inv v t → m.Admitted enabled t w →
      Inv (v ++ w) (m.run t w) := by
    intro w
    induction w with
    | nil =>
      intro v t hv _
      simpa using hv
    | cons i w ih =>
      intro v t hv hw
      have hi := ih (v ++ [i]) _ (step v t i hv hw.1) hw.2
      simpa using hi
  exact main w [] s start hw

theorem admitted_true (s : σ) (w : List ι) : m.Admitted (fun _ _ => True) s w := by
  induction w generalizing s with
  | nil => trivial
  | cons i w ih => exact ⟨trivial, ih _⟩

/-- What is enabled in every state that an invariant allows is enabled all along. -/
theorem admitted_of_invariant {enabled : σ → ι → Prop} (Inv : σ → Prop) {s : σ}
    (start : Inv s) (step : ∀ t i, Inv t → Inv (m.step t i).2)
    (h : ∀ t i, Inv t → enabled t i) (w : List ι) : m.Admitted enabled s w := by
  induction w generalizing s with
  | nil => trivial
  | cons i w ih => exact ⟨h s i start, ih (step s i start)⟩

/-- Where the state does not matter, each input has to be enabled. -/
theorem admitted_const_iff {enabled : ι → Prop} {s : σ} {w : List ι} :
    m.Admitted (fun _ => enabled) s w ↔ ∀ i, i ∈ w → enabled i := by
  induction w generalizing s with
  | nil => simp [Admitted]
  | cons i w ih => simp [Admitted, ih]

/-- A property that no input brings about holds after a run exactly when it held before
and each input of the run has let it be. -/
theorem survives_iff (P : σ → Prop) (spares : σ → ι → Prop) {allowed : σ → ι → Prop}
    (step : ∀ s i, allowed s i → (P (m.step s i).2 ↔ P s ∧ spares s i)) {s : σ} {w : List ι}
    (h : m.Admitted allowed s w) : P (m.run s w) ↔ P s ∧ m.Admitted spares s w := by
  induction w generalizing s with
  | nil => exact (and_iff_left trivial).symm
  | cons i w ih =>
    obtain ⟨hi, hw⟩ := h
    rw [run_cons, ih hw, step s i hi, and_assoc]
    rfl

/-- An invariant that every input keeps. -/
theorem run_invariant (Inv : List ι → σ → Prop) {s : σ} (start : Inv [] s)
    (step : ∀ v t i, Inv v t → Inv (v ++ [i]) (m.step t i).2) (w : List ι) :
    Inv w (m.run s w) :=
  run_history start (admitted_true s w) fun v t i h _ => step v t i h

/-- What no input lets decrease does not decrease over a run. -/
theorem le_run {α : Type*} [Preorder α] {μ : σ → α} (step : ∀ s i, μ s ≤ μ (m.step s i).2)
    (s : σ) (w : List ι) : μ s ≤ μ (m.run s w) := by
  induction w generalizing s with
  | nil => exact le_refl _
  | cons i w ih => exact (step s i).trans (ih _)

/-- Two machines in related states answer the same inputs alike exactly when each
input is one that both answer alike; such inputs keep the states related. -/
theorem trace_alike_iff {τ ω' : Type*} {n : Machine τ ι ω'} (R : σ → τ → Prop)
    (alike : ω → ω' → Prop) (enabled : σ → ι → Prop)
    (answer : ∀ s t i, R s t → (alike (m.step s i).1 (n.step t i).1 ↔ enabled s i))
    (next : ∀ s t i, R s t → enabled s i → R (m.step s i).2 (n.step t i).2)
    {s : σ} {t : τ} (h : R s t) {w : List ι} :
    List.Forall₂ (fun p q => alike p.2 q.2) (m.trace s w) (n.trace t w) ↔
      m.Admitted enabled s w := by
  induction w generalizing s t with
  | nil => exact iff_of_true .nil trivial
  | cons i w ih =>
    rw [trace_cons, trace_cons, List.forall₂_cons, answer s t i h]
    exact and_congr_right fun hi => ih (next s t i h hi)

/-! ## Dropping inputs -/

variable (m)

/-- The run over `w` and the run over the inputs of `w` that `keep` selects end
in the same state and give the kept inputs the same outputs. -/
def Purged (keep : ι → Bool) (s : σ) (w : List ι) : Prop :=
  m.run s w = m.run s (w.filter keep) ∧
    (m.trace s w).filter (fun p => keep p.1) = m.trace s (w.filter keep)

/-- Every input of `w` that `keep` drops leaves the state it meets as it is. -/
def DropsIdle (keep : ι → Bool) (s : σ) (w : List ι) : Prop :=
  ∀ pre i post, w = pre ++ i :: post → keep i = false →
    (m.step (m.run s pre) i).2 = m.run s pre

variable {m}

theorem DropsIdle.tail {keep : ι → Bool} {s : σ} {i : ι} {w : List ι}
    (h : m.DropsIdle keep s (i :: w)) : m.DropsIdle keep (m.step s i).2 w := by
  intro pre j post hw hj
  exact h (i :: pre) j post (by rw [hw, List.cons_append]) hj

theorem DropsIdle.initial {keep : ι → Bool} {s : σ} {v w : List ι}
    (h : m.DropsIdle keep s w) (hv : v <+: w) : m.DropsIdle keep s v := by
  obtain ⟨rest, rfl⟩ := hv
  intro pre i post hpre hi
  exact h pre i (post ++ rest) (by rw [hpre, List.append_assoc, List.cons_append]) hi

theorem DropsIdle.purged {keep : ι → Bool} {s : σ} {w : List ι}
    (h : m.DropsIdle keep s w) : m.Purged keep s w := by
  induction w generalizing s with
  | nil => exact ⟨rfl, rfl⟩
  | cons i w ih =>
    obtain ⟨hrun, htrace⟩ := ih h.tail
    cases hi : keep i with
    | true =>
      constructor
      · rw [List.filter_cons_of_pos hi, run_cons, run_cons, hrun]
      · simp only [List.filter_cons, trace_cons, hi, if_true, htrace]
    | false =>
      have hidle : (m.step s i).2 = s := h [] i w rfl hi
      have hneg : ¬ keep i = true := by simp [hi]
      rw [hidle] at hrun htrace
      constructor
      · rw [List.filter_cons_of_neg hneg, run_cons, hidle, hrun]
      · rw [List.filter_cons_of_neg hneg, trace_cons, hidle, ← htrace]
        exact List.filter_cons_of_neg hneg

/-- Dropping inputs goes unnoticed in every state a run reaches exactly when
every dropped input leaves the state it meets as it is. -/
theorem purged_prefixes_iff {keep : ι → Bool} {s : σ} {w : List ι} :
    (∀ v, v <+: w → m.Purged keep s v) ↔ m.DropsIdle keep s w := by
  constructor
  · intro h pre i post hw hi
    subst hw
    -- The prefix before the dropped input and the one that ends in it purge to the same.
    have hpre := (h pre (List.prefix_append _ _)).1
    have hneg : ¬ keep i = true := by simp [hi]
    have hi' := (h (pre ++ [i]) (by simp)).1
    rw [run_concat, List.filter_append, List.filter_cons_of_neg hneg, List.filter_nil,
      List.append_nil] at hi'
    rw [hi', ← hpre]
  · intro h v hv
    exact (h.initial hv).purged

/-- A relation that kept inputs preserve and dropped inputs do not leave relates
the run over `w` with the run over the kept inputs of `w`. -/
theorem run_filter_rel {R : σ → σ → Prop} {keep : ι → Bool} {w : List ι}
    (kept : ∀ s t i, R s t → keep i = true → R (m.step s i).2 (m.step t i).2)
    (dropped : ∀ s t i, R s t → keep i = false → R (m.step s i).2 t)
    {s t : σ} (h : R s t) : R (m.run s w) (m.run t (w.filter keep)) := by
  induction w generalizing s t with
  | nil => exact h
  | cons i w ih =>
    cases hi : keep i with
    | true =>
      rw [List.filter_cons_of_pos hi]
      exact ih (kept s t i h hi)
    | false =>
      rw [List.filter_cons_of_neg (by simp [hi])]
      exact ih (dropped s t i h hi)

/-- The same over an admitted run, with outputs: where kept inputs are answered alike
in related states, the kept inputs of `w` are answered as they are by themselves. -/
theorem purged_rel {R : σ → σ → Prop} {keep : ι → Bool} {enabled : σ → ι → Prop}
    (kept : ∀ s t i, R s t → enabled s i → keep i = true →
      (m.step s i).1 = (m.step t i).1 ∧ R (m.step s i).2 (m.step t i).2)
    (dropped : ∀ s t i, R s t → enabled s i → keep i = false → R (m.step s i).2 t)
    {s t : σ} (h : R s t) {w : List ι} (hw : m.Admitted enabled s w) :
    R (m.run s w) (m.run t (w.filter keep)) ∧
      (m.trace s w).filter (fun p => keep p.1) = m.trace t (w.filter keep) := by
  induction w generalizing s t with
  | nil => exact ⟨h, rfl⟩
  | cons i w ih =>
    obtain ⟨hi, hrest⟩ := hw
    cases hkeep : keep i with
    | true =>
      obtain ⟨hanswer, hnext⟩ := kept s t i h hi hkeep
      obtain ⟨hrun, htrace⟩ := ih hnext hrest
      rw [List.filter_cons_of_pos hkeep]
      refine ⟨hrun, ?_⟩
      rw [trace_cons, trace_cons, List.filter_cons_of_pos (by exact hkeep), htrace, hanswer]
    | false =>
      obtain ⟨hrun, htrace⟩ := ih (dropped s t i h hi hkeep) hrest
      have hneg : ¬ keep i = true := by simp [hkeep]
      rw [List.filter_cons_of_neg hneg]
      refine ⟨hrun, ?_⟩
      rw [trace_cons, List.filter_cons_of_neg (by exact hneg), htrace]

/-! ## Keeping inputs by the state that they meet -/

variable (m)

/-- The inputs of `w` that `keep` selects in the states that they meet. -/
def kept (keep : σ → ι → Bool) (s : σ) : List ι → List ι
  | [] => []
  | i :: w =>
    if keep s i then i :: kept keep (m.step s i).2 w else kept keep (m.step s i).2 w

variable {m}

theorem kept_sublist (keep : σ → ι → Bool) (s : σ) (w : List ι) :
    (m.kept keep s w).Sublist w := by
  induction w generalizing s with
  | nil => exact .slnil
  | cons i w ih =>
    unfold kept
    split
    · exact (ih _).cons_cons i
    · exact (ih _).cons i

/-- Where the state does not matter, inputs are selected as in a list. -/
theorem kept_const (keep : ι → Bool) (s : σ) (w : List ι) :
    m.kept (fun _ => keep) s w = w.filter keep := by
  induction w generalizing s with
  | nil => rfl
  | cons i w ih => rw [kept, List.filter_cons, ih]

/-- A relation that kept inputs preserve and the other inputs do not leave relates the
run over `w` with the run of another machine over the kept inputs. -/
theorem run_kept_rel {τ ω' : Type*} {n : Machine τ ι ω'} {R : σ → τ → Prop}
    {keep : σ → ι → Bool}
    (kept : ∀ s t i, R s t → keep s i = true → R (m.step s i).2 (n.step t i).2)
    (dropped : ∀ s t i, R s t → keep s i = false → R (m.step s i).2 t)
    {s : σ} {t : τ} (h : R s t) (w : List ι) :
    R (m.run s w) (n.run t (m.kept keep s w)) := by
  induction w generalizing s t with
  | nil => exact h
  | cons i w ih =>
    unfold Machine.kept
    split
    · next hi => exact ih (kept s t i h hi)
    · next hi => exact ih (dropped s t i h (by simpa using hi))

end Machine
