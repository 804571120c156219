import SpiffeTasks.TasksController

/-!
# The same pages over two services

The handlers of the frontend act on the service and on nothing else. So what holds
between the operations of two services holds between the handlers over them.

1. `related_of_exchange`: services whose requests are related are related.
2. `dispatch_related`: so are the handlers over them.
3. `pages_related`: over services that are alike, the same page requests show the same
   pages or error pages each.
-/

namespace SpiffeTasks

open EStateM

variable {σ τ : Type} (C : Congruence Failure σ τ)

/-- Each operation of the one service is related to that of the other. -/
structure TasksService.Related (service : TasksService σ) (service' : TasksService τ) :
    Prop where
  findAll : C.Rel service.findAll service'.findAll
  getOne : ∀ id, C.Rel (service.getOne id) (service'.getOne id)
  save : ∀ task, C.Rel (service.save task) (service'.save task)
  deleteById : ∀ id, C.Rel (service.deleteById id) (service'.deleteById id)

namespace RelatedLemmas

variable {C}

theorem readTask_related (body : Body) : C.Rel (readTask body) (readTask body) := by
  cases body with
  | task json => exact C.rel_pure _
  | empty | tasks json | errorPage => exact C.rel_throw _

theorem readTasks_related (body : Body) : C.Rel (readTasks body) (readTasks body) := by
  cases body with
  | tasks json => exact C.rel_pure _
  | empty | task json | errorPage => exact C.rel_throw _

end RelatedLemmas

open RelatedLemmas

variable {C}

/-- The operations read the bodies of the responses, and ask for no more. -/
theorem related_of_exchange {send : Request → EStateM Failure σ Response}
    {send' : Request → EStateM Failure τ Response}
    (h : ∀ request, C.Rel (exchange send request) (exchange send' request)) :
    (tasksService send).Related C (tasksService send') where
  findAll := C.rel_bind (h .getTasks) readTasks_related
  getOne id := C.rel_bind (h (.getTask (some id))) readTask_related
  save task := C.rel_bind (h (.createBook (some (Jackson.write task)))) readTask_related
  deleteById id := C.rel_bind (h (.deleteTask (some id))) fun _ => C.rel_pure ()

/-- Over related services the handlers are related. -/
theorem dispatch_related {service : TasksService σ} {service' : TasksService τ}
    (h : service.Related C service') (conversion : Conversion) (request : PageRequest) :
    C.Rel (TasksController.dispatch service conversion request)
      (TasksController.dispatch service' conversion request) := by
  have hlist : C.Rel (TasksController.cancelAdd service) (TasksController.cancelAdd service') :=
    C.rel_bind h.findAll fun _ => C.rel_pure _
  have hsave : ∀ task result, C.Rel (TasksController.createTask service task result)
      (TasksController.createTask service' task result) := by
    intro task result
    exact C.rel_bind (h.save task) fun _ => hlist
  cases request with
  | index => exact C.rel_bind h.findAll fun _ => C.rel_pure _
  | newTask params =>
    show C.Rel (if _ then _ else _) (if _ then _ else _)
    split
    · exact C.rel_pure _
    · exact C.rel_throw _
  | postNew params =>
    show C.Rel (if _ then _ else _) (if _ then _ else _)
    split
    · exact hlist
    · exact hsave _ _
  | edit id =>
    cases id with
    | none => exact C.rel_throw _
    | some id => exact C.rel_bind (h.getOne id) fun _ => C.rel_pure _
  | postEdit id params =>
    show C.Rel (if _ then _ else if _ then _ else _) (if _ then _ else if _ then _ else _)
    split
    · cases id with
      | none => exact C.rel_throw _
      | some id => exact hsave _ []
    · split
      · exact hlist
      · exact C.rel_pure _
  | delete id =>
    cases id with
    | none => exact C.rel_throw _
    | some id => exact C.rel_bind (h.deleteById id) fun _ => hlist

/-! ## Runs -/

/-- The same page, or an error page each. -/
def SameView (view view' : View) : Prop :=
  view = view' ∨ (∃ ex, view = .error ex) ∧ ∃ ex, view' = .error ex

/-- The frontend over a service, one page request after another. -/
def TasksService.pages (service : TasksService σ) (conversion : Conversion) :
    Machine σ PageRequest View where
  step s request := servePage service conversion request s

variable {R : σ → τ → Prop} {service : TasksService σ} {service' : TasksService τ}

namespace RelatedLemmas

theorem page_alike (h : service.Related (alike Failure R) service') (conversion : Conversion)
    (request : PageRequest) {s : σ} {t : τ} (hR : R s t) :
    SameView (servePage service conversion request s).1
        (servePage service' conversion request t).1 ∧
      R (servePage service conversion request s).2
        (servePage service' conversion request t).2 := by
  obtain ⟨hvalue, hstate⟩ := dispatch_related h conversion request s t hR
  cases hs : TasksController.dispatch service conversion request s with
  | ok view s' =>
    cases ht : TasksController.dispatch service' conversion request t with
    | ok view' t' =>
      rw [hs, ht] at hvalue hstate
      rw [servePage_of_ok hs, servePage_of_ok ht]
      exact ⟨.inl (Option.some.inj hvalue), hstate⟩
    | error ex t' =>
      rw [hs, ht] at hvalue
      cases hvalue
  | error ex s' =>
    cases ht : TasksController.dispatch service' conversion request t with
    | ok view' t' =>
      rw [hs, ht] at hvalue
      cases hvalue
    | error ex' t' =>
      rw [hs, ht] at hstate
      rw [servePage_of_error hs, servePage_of_error ht]
      exact ⟨.inr ⟨⟨_, rfl⟩, _, rfl⟩, hstate⟩

end RelatedLemmas

/-- Over services that are alike, the same page requests show the same pages or error
pages each, and what they leave is in the relation again. -/
theorem pages_related (h : service.Related (alike Failure R) service')
    (conversion : Conversion) {s : σ} {t : τ} (hR : R s t) (requests : List PageRequest) :
    R ((service.pages conversion).run s requests) ((service'.pages conversion).run t requests) ∧
      List.Forall₂ (fun p q => SameView p.2 q.2) ((service.pages conversion).trace s requests)
        ((service'.pages conversion).trace t requests) := by
  constructor
  · exact Machine.run_rel R (fun s t request hR => (page_alike h conversion request hR).2) hR
      requests
  · refine (Machine.trace_alike_iff R SameView (fun _ _ => True) ?_ ?_ hR).mpr
      (Machine.admitted_true s requests)
    · intro s t request hR
      exact iff_of_true (page_alike h conversion request hR).1 trivial
    · intro s t request hR _
      exact (page_alike h conversion request hR).2

end SpiffeTasks
