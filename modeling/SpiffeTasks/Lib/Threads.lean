import Mathlib.Data.List.Dedup
import Mathlib.Logic.Function.Basic
import SpiffeTasks.Lib.Machine

/-!
# Threads over one machine

A program calls a machine, and decides on each output how it goes on. Threads
run their programs over one machine in any interleaving of their calls; each
call by itself is atomic.

1. `Reads.exec`: a program whose calls only read, and whose result is settled.
2. `serializable`: where every program has settled its result with its first
   call, and only reads from then on, every interleaving is the serial execution
   of the programs in the order of their first calls.
-/

/-- A program over inputs `ι` and outputs `ω`, with a result in `ρ`. -/
inductive Prog (ι ω ρ : Type*)
  | done (result : ρ)
  | call (input : ι) (next : ω → Prog ι ω ρ)

namespace Prog

variable {σ ι ω ρ τ : Type*} {m : Machine σ ι ω}

/-- The program alone on the machine, to its end. -/
def exec (m : Machine σ ι ω) : Prog ι ω ρ → σ → ρ × σ
  | .done result, s => (result, s)
  | .call i next, s => exec m (next (m.step s i).1) (m.step s i).2

/-- Whatever states its calls meet, the program leaves them as they are, and its
result is `result`. -/
inductive Reads (m : Machine σ ι ω) (result : ρ) : Prog ι ω ρ → Prop
  | done : Reads m result (.done result)
  | call {i : ι} {next : ω → Prog ι ω ρ} : (∀ s, (m.step s i).2 = s) →
      (∀ s, Reads m result (next (m.step s i).1)) → Reads m result (.call i next)

/-- Once the first call is answered, the program only reads, and its result is
settled. -/
def CommitsFirst (m : Machine σ ι ω) : Prog ι ω ρ → Prop
  | .done _ => True
  | .call i next => ∀ s, ∃ result, Reads m result (next (m.step s i).1)

theorem Reads.exec {result : ρ} {p : Prog ι ω ρ} (h : Reads m result p) (s : σ) :
    p.exec m s = (result, s) := by
  induction h generalizing s with
  | done => rfl
  | call hstate hnext ih =>
    unfold Prog.exec
    rw [ih, hstate]

/-! ## Interleavings -/

variable [DecidableEq τ] (m) (progs : τ → Prog ι ω ρ)

/-- The next call of one of the threads, if its program is not done. -/
def interleaved : Machine (σ × (τ → Prog ι ω ρ)) τ Unit where
  step w t :=
    match w.2 t with
    | .done _ => ((), w)
    | .call i next =>
      ((), (m.step w.1 i).2, Function.update w.2 t (next (m.step w.1 i).1))

omit [DecidableEq τ] in
/-- One of the programs, from its start to its end. -/
def serial : Machine σ τ ρ where
  step s t := (progs t).exec m s

/-- What holds after a schedule. The state is that of the serial execution. A
thread that was not scheduled is at its start, and one that was only reads from
here on, towards its result in the serial execution. -/
structure Serialized (s : σ) (schedule : List τ) (w : σ × (τ → Prog ι ω ρ)) : Prop where
  state : w.1 = (serial m progs).run s schedule.eraseDups
  waiting : ∀ t, t ∉ schedule → w.2 t = progs t
  started : ∀ t, t ∈ schedule → ∃ result, Reads m result (w.2 t) ∧
    (t, result) ∈ (serial m progs).trace s schedule.eraseDups

namespace ThreadLemmas

variable {m progs}

theorem eraseDups_concat_of_mem {schedule : List τ} {t : τ} (h : t ∈ schedule) :
    (schedule ++ [t]).eraseDups = schedule.eraseDups := by
  rw [List.eraseDups_append]
  simp [List.removeAll, h]

theorem eraseDups_concat_of_not_mem {schedule : List τ} {t : τ} (h : t ∉ schedule) :
    (schedule ++ [t]).eraseDups = schedule.eraseDups ++ [t] := by
  rw [List.eraseDups_append]
  simp [List.removeAll, h, List.eraseDups_cons]

/-- The serial execution is only ever extended. -/
theorem serial_trace_mono {s : σ} {schedule : List τ} {t : τ} {entry : τ × ρ}
    (h : entry ∈ (serial m progs).trace s schedule.eraseDups) :
    entry ∈ (serial m progs).trace s (schedule ++ [t]).eraseDups := by
  by_cases ht : t ∈ schedule
  · rwa [eraseDups_concat_of_mem ht]
  · rw [eraseDups_concat_of_not_mem ht, Machine.trace_concat]
    exact List.mem_append_left _ h

/-- After a move of `t`, only `t` has to be looked at. -/
theorem Serialized.move {s : σ} {schedule : List τ} {w w' : σ × (τ → Prog ι ω ρ)} {t : τ}
    {result : ρ} (h : Serialized m progs s schedule w)
    (hstate : w'.1 = (serial m progs).run s (schedule ++ [t]).eraseDups)
    (hothers : ∀ u, u ≠ t → w'.2 u = w.2 u) (hreads : Reads m result (w'.2 t))
    (htrace : (t, result) ∈ (serial m progs).trace s (schedule ++ [t]).eraseDups) :
    Serialized m progs s (schedule ++ [t]) w' := by
  refine ⟨hstate, fun u hu => ?_, fun u hu => ?_⟩
  · obtain ⟨hold, hne⟩ := not_or.mp (mt List.mem_append.mpr hu)
    rw [hothers u fun he => hne (List.mem_singleton.mpr he)]
    exact h.waiting u hold
  · obtain rfl | hne := eq_or_ne u t
    · exact ⟨result, hreads, htrace⟩
    · have hold : u ∈ schedule := by simpa [hne] using hu
      obtain ⟨r, hr, hentry⟩ := h.started u hold
      rw [hothers u hne]
      exact ⟨r, hr, serial_trace_mono hentry⟩

theorem interleaved_of_done {w : σ × (τ → Prog ι ω ρ)} {t : τ} {result : ρ}
    (h : w.2 t = .done result) : ((interleaved m).step w t).2 = w := by
  simp [interleaved, h]

theorem interleaved_of_call {w : σ × (τ → Prog ι ω ρ)} {t : τ} {i : ι} {next : ω → Prog ι ω ρ}
    (h : w.2 t = .call i next) :
    ((interleaved m).step w t).2 =
      ((m.step w.1 i).2, Function.update w.2 t (next (m.step w.1 i).1)) := by
  simp [interleaved, h]

/-- A thread that has started reads on, towards the result that it has. -/
theorem serialized_step_of_mem {s : σ} {schedule : List τ} {w : σ × (τ → Prog ι ω ρ)} {t : τ}
    (h : Serialized m progs s schedule w) (ht : t ∈ schedule) :
    Serialized m progs s (schedule ++ [t]) ((interleaved m).step w t).2 := by
  obtain ⟨result, hreads, htrace⟩ := h.started t ht
  have hstate := h.state
  rw [← eraseDups_concat_of_mem ht] at hstate htrace
  cases hprog : w.2 t with
  | done settled =>
    rw [interleaved_of_done hprog]
    exact Serialized.move h hstate (fun _ _ => rfl) hreads htrace
  | call i next =>
    rw [hprog] at hreads
    cases hreads with
    | call hread hnext =>
      rw [interleaved_of_call hprog, hread]
      refine Serialized.move h hstate (fun u hne => Function.update_of_ne hne _ _) ?_ htrace
      simpa using hnext w.1

/-- A thread that starts is the last in the serial order, and its result is
settled with its first call. -/
theorem serialized_step_of_not_mem {s : σ} {schedule : List τ} {w : σ × (τ → Prog ι ω ρ)} {t : τ}
    (h : Serialized m progs s schedule w) (hcommits : (progs t).CommitsFirst m)
    (ht : t ∉ schedule) :
    Serialized m progs s (schedule ++ [t]) ((interleaved m).step w t).2 := by
  have hstart : w.2 t = progs t := h.waiting t ht
  have hserial : ∀ result s', (progs t).exec m w.1 = (result, s') →
      s' = (serial m progs).run s (schedule ++ [t]).eraseDups ∧
      (t, result) ∈ (serial m progs).trace s (schedule ++ [t]).eraseDups := by
    intro result s' hexec
    have hstep : (serial m progs).step ((serial m progs).run s schedule.eraseDups) t =
        (result, s') := by
      rw [← h.state]
      exact hexec
    rw [eraseDups_concat_of_not_mem ht, Machine.run_concat, Machine.trace_concat, hstep]
    exact ⟨rfl, List.mem_append_right _ (List.mem_singleton.mpr rfl)⟩
  cases hprog : progs t with
  | done result =>
    obtain ⟨hstate, htrace⟩ := hserial result w.1 (by rw [hprog]; rfl)
    rw [hprog] at hstart
    rw [interleaved_of_done hstart]
    refine Serialized.move h hstate (fun _ _ => rfl) ?_ htrace
    rw [hstart]
    exact .done
  | call i next =>
    rw [hprog] at hcommits hstart
    obtain ⟨result, hreads⟩ := hcommits w.1
    have hexec : (progs t).exec m w.1 = (result, (m.step w.1 i).2) := by
      rw [hprog]
      exact hreads.exec _
    obtain ⟨hstate, htrace⟩ := hserial result _ hexec
    rw [interleaved_of_call hstart]
    refine Serialized.move h hstate (fun u hne => Function.update_of_ne hne _ _) ?_ htrace
    simpa using hreads

end ThreadLemmas

open ThreadLemmas

variable {m progs}

theorem run_serialized (hcommits : ∀ t, (progs t).CommitsFirst m) (s : σ) (schedule : List τ) :
    Serialized m progs s schedule ((interleaved m).run (s, progs) schedule) := by
  have start : Serialized m progs s [] (s, progs) :=
    ⟨rfl, fun _ _ => rfl, fun _ ht => absurd ht List.not_mem_nil⟩
  refine Machine.run_invariant (Serialized m progs s) start (fun v w t h => ?_) schedule
  by_cases ht : t ∈ v
  · exact serialized_step_of_mem h ht
  · exact serialized_step_of_not_mem h (hcommits t) ht

/-- Every interleaving leaves the state that the serial execution leaves, in the
order of the first calls, and a thread that is done has its result there. -/
theorem serializable (hcommits : ∀ t, (progs t).CommitsFirst m) (s : σ) (schedule : List τ) :
    ((interleaved m).run (s, progs) schedule).1 =
      (serial m progs).run s schedule.eraseDups ∧
    ∀ t result, t ∈ schedule →
      ((interleaved m).run (s, progs) schedule).2 t = .done result →
      (t, result) ∈ (serial m progs).trace s schedule.eraseDups := by
  have h := run_serialized hcommits s schedule
  refine ⟨h.state, fun t result ht hdone => ?_⟩
  obtain ⟨settled, hreads, htrace⟩ := h.started t ht
  rw [hdone] at hreads
  cases hreads
  exact htrace

end Prog
