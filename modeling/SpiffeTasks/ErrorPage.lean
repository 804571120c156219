import SpiffeTasks.TasksController

/-!
# What an error page says about the store

A handler that writes makes two calls of `TasksService`, the write and then a
`findAll` whose result the redirect does not use. Nothing undoes the write when
the second call fails.

1. `AtomicService`: a service whose calls throw without an effect on the store,
   or take effect.
2. `faulty`: over every channel, the service under a pattern of failures is one.
3. `error_page_changes_store_iff`: an error page comes with a changed store
   exactly when the write changed it and the `findAll` after it failed. Where the
   `findAll` after a write fails, the error page comes with what the write left.
4. `error_page_after_delete`: a DELETE that goes through, and a failing listing.
-/

namespace SpiffeTasks

/-- A service over the states `σ` whose calls act on the store that is part of
the state. A call that throws leaves the store as it is, and so does a call that
reads. -/
structure AtomicService (σ τ : Type) extends TasksService σ where
  store : σ → τ
  findAll_store : ∀ s, store (findAll s).state = store s
  getOne_store : ∀ id s, store (getOne id s).state = store s
  save_store : ∀ task s, (save task s).value? = none → store (save task s).state = store s
  deleteById_store : ∀ id s,
    (deleteById id s).value? = none → store (deleteById id s).state = store s

/-! ## 1. Handlers over such a service -/

section Handlers

open EStateM

variable {σ τ : Type} (service : AtomicService σ τ) {conversion : Conversion}
  {request : PageRequest}

namespace ErrorPageLemmas

theorem call_store (write : Write) (s : σ)
    (h : (write.call service.toTasksService s).value? = none) :
    service.store (write.call service.toTasksService s).state = service.store s := by
  cases write with
  | deleteById id => exact service.deleteById_store id s h
  | save task =>
    have hvalue : ((Write.save task).call service.toTasksService s).value? =
        (service.save task s).value?.map _ := value?_bind_pure (service.save task) _ s
    rw [hvalue, Option.map_eq_none_iff] at h
    rw [Write.call_save_state]
    exact service.save_store task s h

/-- A request that does not write leaves the store as it is. -/
theorem servePage_store_of_read (h : request.write conversion = none) (s : σ) :
    service.store (servePage service.toTasksService conversion request s).2 =
      service.store s := by
  rw [servePage_state]
  rcases dispatch_read_state h s with he | ⟨id, he⟩ | he
  · rw [he]
    exact service.findAll_store s
  · rw [he]
    exact service.getOne_store id s
  · rw [he]

/-- How a request that writes can end: the write throws, the `findAll` throws, or
neither does. -/
theorem servePage_of_write {write : Write} (h : request.write conversion = some write) (s : σ) :
    (∃ ex s', write.call service.toTasksService s = .error ex s' ∧
      servePage service.toTasksService conversion request s = (.error ex, s')) ∨
    (∃ s' ex s'', write.call service.toTasksService s = .ok () s' ∧
      service.findAll s' = .error ex s'' ∧
      servePage service.toTasksService conversion request s = (.error ex, s'')) ∨
    (∃ s' tasks s'', write.call service.toTasksService s = .ok () s' ∧
      service.findAll s' = .ok tasks s'' ∧
      servePage service.toTasksService conversion request s = (.redirectTasks, s'')) := by
  have hdispatch : TasksController.dispatch service.toTasksService conversion request = _ :=
    dispatch_of_write h
  cases hcall : write.call service.toTasksService s with
  | error ex s' =>
    refine .inl ⟨ex, s', rfl, servePage_of_error ?_⟩
    rw [hdispatch]
    exact bind_of_error hcall
  | ok u s' =>
    cases hfind : service.findAll s' with
    | error ex s'' =>
      refine .inr (.inl ⟨s', ex, s'', rfl, hfind, servePage_of_error ?_⟩)
      rw [hdispatch, bind_of_ok hcall]
      exact bind_of_error hfind
    | ok tasks s'' =>
      refine .inr (.inr ⟨s', tasks, s'', rfl, hfind, servePage_of_ok ?_⟩)
      rw [hdispatch, bind_of_ok hcall]
      exact bind_of_ok hfind

end ErrorPageLemmas

open ErrorPageLemmas

/-- Where the write took effect and the `findAll` after it failed, the request ends in
the error page, and the store is as the write left it. -/
theorem AtomicService.error_page_store {write : Write} {s s' : σ}
    (hwrite : request.write conversion = some write)
    (hcall : write.call service.toTasksService s = .ok () s')
    (hfind : (service.findAll s').value? = none) :
    (∃ ex, (servePage service.toTasksService conversion request s).1 = .error ex) ∧
      service.store (servePage service.toTasksService conversion request s).2 =
        service.store s' := by
  rcases servePage_of_write service hwrite s with
    ⟨ex, t, hcall', -⟩ | ⟨t, ex, s'', hcall', hfind', he⟩ | ⟨t, tasks, s'', hcall', hfind', -⟩
  · cases hcall.symm.trans hcall'
  · cases hcall.symm.trans hcall'
    have hkeep := service.findAll_store s'
    rw [hfind'] at hkeep
    rw [he]
    exact ⟨⟨ex, rfl⟩, hkeep⟩
  · cases hcall.symm.trans hcall'
    rw [hfind'] at hfind
    cases hfind

/-- A request that ends in the error page has changed the store exactly when its
write changed it and the `findAll` after it failed. -/
theorem AtomicService.error_page_iff (s : σ) :
    ((∃ ex, (servePage service.toTasksService conversion request s).1 = .error ex) ∧
      service.store (servePage service.toTasksService conversion request s).2 ≠
        service.store s) ↔
    ∃ write s', request.write conversion = some write ∧
      write.call service.toTasksService s = .ok () s' ∧
      (service.findAll s').value? = none ∧ service.store s' ≠ service.store s := by
  constructor
  · rintro ⟨⟨ex, hview⟩, hstore⟩
    cases hwrite : request.write conversion with
    | none => exact absurd (servePage_store_of_read service hwrite s) hstore
    | some write =>
      rcases servePage_of_write service hwrite s with
        ⟨ex', s', hcall, he⟩ | ⟨s', ex', s'', hcall, hfind, he⟩ | ⟨s', tasks, s'', -, -, he⟩
      · have hkeep := call_store service write s (by rw [hcall]; rfl)
        rw [hcall] at hkeep
        rw [he] at hstore
        exact absurd hkeep hstore
      · have hvalue : (service.findAll s').value? = none := by
          rw [hfind]
          rfl
        obtain ⟨-, hleft⟩ := service.error_page_store hwrite hcall hvalue
        rw [hleft] at hstore
        exact ⟨write, s', rfl, hcall, hvalue, hstore⟩
      · rw [he] at hview
        cases hview
  · rintro ⟨write, s', hwrite, hcall, hfind, hne⟩
    obtain ⟨hview, hleft⟩ := service.error_page_store hwrite hcall hfind
    exact ⟨hview, by rw [hleft]; exact hne⟩

end Handlers

/-! ## 2. Patterns of failures -/

section Faulty

open EStateM

variable {σ α : Type}

/-- A call under a pattern of failures: the call throws where the pattern says
`false`, and takes effect, or throws without, where it says `true`. After the
end of the pattern every call gets through. -/
def attempt (x : EStateM Failure σ α) : EStateM Failure (σ × List Bool) α
  | (s, false :: pattern) => .error .unavailable (s, pattern)
  | (s, pattern) =>
    match x s with
    | .ok a s' => .ok a (s', pattern.tail)
    | .error ex _ => .error ex (s, pattern.tail)

namespace ErrorPageLemmas

theorem attempt_of_error (x : EStateM Failure σ α) (s : σ × List Bool)
    (h : (attempt x s).value? = none) : (attempt x s).state.1 = s.1 := by
  unfold attempt at h ⊢
  split
  · rfl
  · next s pattern _ =>
    cases hx : x s with
    | ok a s' => simp only [hx] at h; cases h
    | error ex s' => rfl

theorem attempt_of_keeps {x : EStateM Failure σ α} (hx : Keeps x) (s : σ × List Bool) :
    (attempt x s).state.1 = s.1 := by
  unfold attempt
  split
  · rfl
  · next s pattern _ =>
    have hstate := hx s
    cases h : x s with
    | ok a s' =>
      rw [h] at hstate
      exact hstate
    | error ex s' => rfl

end ErrorPageLemmas

/-- The service over a channel, under a pattern of failures. -/
def faulty {backend : Backend σ} (channel : Channel backend) :
    AtomicService (σ × List Bool) σ where
  findAll := attempt channel.service.findAll
  getOne id := attempt (channel.service.getOne id)
  save task := attempt (channel.service.save task)
  deleteById id := attempt (channel.service.deleteById id)
  store := Prod.fst
  findAll_store := ErrorPageLemmas.attempt_of_keeps channel.findAll_keeps
  getOne_store id := ErrorPageLemmas.attempt_of_keeps (channel.getOne_keeps id)
  save_store task := ErrorPageLemmas.attempt_of_error (channel.service.save task)
  deleteById_store id := ErrorPageLemmas.attempt_of_error (channel.service.deleteById id)

end Faulty

/-- Over every channel, for every request, every store `s` and every pattern of
failures: the error page comes with a changed store exactly when the request's
write changed it and the `findAll` after it failed. Wherever a write took effect and
the `findAll` after it failed, the error page comes with the store that the write
left. -/
theorem error_page_changes_store_iff {σ : Type} {backend : Backend σ} (channel : Channel backend)
    (conversion : Conversion) (request : PageRequest) (s : σ) (pattern : List Bool) :
    let service := (faulty channel).toTasksService
    let answer := servePage service conversion request (s, pattern)
    (((∃ ex, answer.1 = .error ex) ∧ answer.2.1 ≠ s) ↔
      ∃ write s' rest, request.write conversion = some write ∧
        write.call service (s, pattern) = .ok () (s', rest) ∧
        (service.findAll (s', rest)).value? = none ∧ s' ≠ s) ∧
    ∀ write s' rest, request.write conversion = some write →
      write.call service (s, pattern) = .ok () (s', rest) →
      (service.findAll (s', rest)).value? = none →
      (∃ ex, answer.1 = .error ex) ∧ answer.2.1 = s' := by
  intro service answer
  constructor
  · refine (AtomicService.error_page_iff (faulty channel) (s, pattern)).trans ?_
    constructor
    · rintro ⟨write, ⟨s', rest⟩, h⟩
      exact ⟨write, s', rest, h⟩
    · rintro ⟨write, s', rest, h⟩
      exact ⟨write, (s', rest), h⟩
  · intro write s' rest hwrite hcall hfind
    exact (faulty channel).error_page_store hwrite hcall hfind

/-- A deletion in the JPA backend that goes through, and a listing that does not: the
error page comes with the database that the deletion left. -/
theorem error_page_left_by_delete :
    (servePage (faulty (directChannel jpaBackend)).toTasksService .decimal (.delete (some 1))
      (H2.seeded, [true, false])).2.1 = H2.seeded.delete 1 :=
  ((error_page_changes_store_iff (directChannel jpaBackend) .decimal (.delete (some 1)) H2.seeded
    [true, false]).2 (.deleteById 1) (H2.seeded.delete 1) [false] rfl rfl rfl).2

/-! ## 3. A listing that fails after a deletion -/

/-- The deletion of task 1 goes through and the `findAll` after it fails: the
user sees the error page, and the task is gone. -/
theorem error_page_after_delete :
    (servePage (faulty (directChannel jpaBackend)).toTasksService .decimal (.delete (some 1))
      (H2.seeded, [true, false])).1 = .error .unavailable ∧
    (servePage (faulty (directChannel jpaBackend)).toTasksService .decimal (.delete (some 1))
      (H2.seeded, [true, false])).2.1 ≠ H2.seeded := by
  refine ⟨by decide, fun h => ?_⟩
  exact absurd (congrArg (fun db : H2 => db.board 1) h) (by decide)

end SpiffeTasks
