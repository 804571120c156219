import SpiffeTasks.TaskServer
import SpiffeTasks.TasksController
import SpiffeTasks.Lib.Threads

/-!
# Page requests at the same time

The servlet container of a frontend runs every request in a thread of its own, and
a handler that writes calls the backend twice. Between two calls of one handler the
calls of the others can come. Each call of the backend is taken to be one atomic step.

1. `page`, `exec_page`: the handlers, taken apart into their calls of the backend.
   Alone on a backend they do what the controller does.
2. `page_commitsFirst`: what a handler does and shows is settled with its first
   call.
3. `pages_serializable`: every interleaving of the handlers is the serial execution
   of the requests, in the order of their first calls.
-/

namespace SpiffeTasks

/-! ## 1. The calls of a handler -/

/-- What a handler of the frontend does: its calls of the backend one by one, and
then a view. -/
abbrev Calls := Prog Request Response View

namespace Calls

/-- An exception ends the handler. -/
def fail (ex : Failure) : Calls := .done (TasksController.handleAllExceptions ex)

/-- The `RestTemplate` throws on an error, and hands on the body otherwise. -/
def receive (next : Body → Calls) (response : Response) : Calls :=
  if 400 ≤ response.status then fail (.status response.status) else next response.body

/-- A call through the `RestTemplate`, and what is done with the body. -/
def exchange (request : Request) (next : Body → Calls) : Calls :=
  .call request (receive next)

def readTask (next : Frontend.Task → Calls) : Body → Calls
  | .task json => next (Jackson.read json)
  | _ => fail .unreadable

def readTasks (next : List Frontend.Task → Calls) : Body → Calls
  | .tasks json => next (json.map Jackson.read)
  | _ => fail .unreadable

/-- `TasksService.findAll` -/
def findAll (next : List Frontend.Task → Calls) : Calls :=
  exchange .getTasks (readTasks next)

/-- `TasksService.getOne` -/
def getOne (id : Long) (next : Frontend.Task → Calls) : Calls :=
  exchange (.getTask (some id)) (readTask next)

/-- `TasksService.save` -/
def save (task : Frontend.Task) (next : Calls) : Calls :=
  exchange (.createBook (some (Jackson.write task))) (readTask fun _ => next)

/-- `TasksService.deleteById` -/
def deleteById (id : Long) (next : Calls) : Calls :=
  exchange (.deleteTask (some id)) fun _ => next

/-- The end of every handler that writes or cancels. -/
def listAndRedirect : Calls := findAll fun _ => .done .redirectTasks

end Calls

/-- The handler of a request, with its arguments bound. -/
def page (conversion : Conversion) : PageRequest → Calls
  | .index => .findAll fun tasks => .done (.tasks tasks)
  | .newTask params =>
    let (task, result) := bindTask conversion none params
    if result = [] then .done (.addTask task) else .fail .argument
  | .postNew params =>
    if params.getParameter "action" = some "cancel" then .listAndRedirect
    else .save (bindTask conversion none params).1 .listAndRedirect
  | .edit (some id) => .getOne id fun task => .done (.editTask task)
  | .postEdit id params =>
    if params.getParameter "action" = some "save" then
      match id with
      | some id => .save (bindTask conversion (some id) params).1 .listAndRedirect
      | none => .fail .argument
    else if params.getParameter "action" = some "cancel" then .listAndRedirect
    else .done .badRequest
  | .delete (some id) => .deleteById id .listAndRedirect
  | .edit none | .delete none => .fail .argument

/-- The calls of a write. -/
def Write.calls (write : Write) (next : Calls) : Calls :=
  match write with
  | .save task => .save task next
  | .deleteById id => .deleteById id next

/-- The requests that the handler sends to the backend, as long as none of them fails. -/
def PageRequest.asks (conversion : Conversion) : PageRequest → List Request
  | .index => [.getTasks]
  | .newTask _ => []
  | .postNew params =>
    if params.getParameter "action" = some "cancel" then [.getTasks]
    else [(Write.save (bindTask conversion none params).1).request, .getTasks]
  | .edit (some id) => [.getTask (some id)]
  | .postEdit id params =>
    if params.getParameter "action" = some "save" then
      match id with
      | some id => [(Write.save (bindTask conversion (some id) params).1).request, .getTasks]
      | none => []
    else if params.getParameter "action" = some "cancel" then [.getTasks]
    else []
  | .delete (some id) => [(Write.deleteById id).request, .getTasks]
  | .edit none | .delete none => []

/-- A way of serving requests, as a machine. -/
def backendMachine {σ : Type} (serve : Request → σ → Response × σ) :
    Machine σ Request Response where
  step s request := serve request s

/-- The frontend before it, with one page request after another. -/
def pagesOver {σ : Type} (serve : Request → σ → Response × σ) (conversion : Conversion) :
    Machine σ PageRequest View where
  step s request := servePage (tasksService (execute serve)) conversion request s

namespace ConcurrencyLemmas

open EStateM

variable {σ α : Type} {serve : Request → σ → Response × σ}

/-- A handler that is at `x`, with `next` to come. -/
def resume (x : EStateM.Result Failure σ α) (next : α → σ → View × σ) : View × σ :=
  match x with
  | .ok a s => next a s
  | .error ex s => (TasksController.handleAllExceptions ex, s)

theorem resume_bind {β : Type} (x : EStateM Failure σ α) (f : α → EStateM Failure σ β)
    (next : β → σ → View × σ) (s : σ) :
    resume ((x >>= f) s) next = resume (x s) fun a s' => resume (f a s') next := by
  cases h : x s with
  | ok a s' =>
    rw [bind_of_ok h]
    rfl
  | error ex s' =>
    rw [bind_of_error h]
    rfl

theorem exec_exchange (request : Request) (next : Body → Calls) (s : σ) :
    (Calls.exchange request next).exec (backendMachine serve) s =
      resume (exchange (execute serve) request s) fun body s' =>
        (next body).exec (backendMachine serve) s' := by
  have hexecute : execute serve request s = .ok (serve request s).1 (serve request s).2 := rfl
  unfold SpiffeTasks.exchange
  rw [bind_of_ok hexecute]
  show Prog.exec _ (if 400 ≤ (serve request s).1.status then _ else _) _ = _
  split
  · rfl
  · rfl

theorem exec_readTask (body : Body) (next : Frontend.Task → Calls) (s : σ) :
    (Calls.readTask next body).exec (backendMachine serve) s =
      resume (readTask body s) fun task s' => (next task).exec (backendMachine serve) s' := by
  cases body with
  | task json => rfl
  | empty | tasks _ | errorPage => rfl

theorem exec_readTasks (body : Body) (next : List Frontend.Task → Calls) (s : σ) :
    (Calls.readTasks next body).exec (backendMachine serve) s =
      resume (readTasks body s) fun tasks s' => (next tasks).exec (backendMachine serve) s' := by
  cases body with
  | tasks json => rfl
  | empty | task _ | errorPage => rfl

theorem exec_findAll (next : List Frontend.Task → Calls) (s : σ) :
    (Calls.findAll next).exec (backendMachine serve) s =
      resume ((tasksService (execute serve)).findAll s) fun tasks s' =>
        (next tasks).exec (backendMachine serve) s' := by
  show _ = resume ((exchange (execute serve) .getTasks >>= readTasks) s) _
  rw [resume_bind]
  refine (exec_exchange .getTasks _ s).trans ?_
  simp only [exec_readTasks]

theorem exec_getOne (id : Long) (next : Frontend.Task → Calls) (s : σ) :
    (Calls.getOne id next).exec (backendMachine serve) s =
      resume ((tasksService (execute serve)).getOne id s) fun task s' =>
        (next task).exec (backendMachine serve) s' := by
  show _ = resume ((exchange (execute serve) (.getTask (some id)) >>= readTask) s) _
  rw [resume_bind]
  refine (exec_exchange (.getTask (some id)) _ s).trans ?_
  simp only [exec_readTask]

theorem exec_write (write : Write) (next : Calls) (s : σ) :
    (write.calls next).exec (backendMachine serve) s =
      resume (write.call (tasksService (execute serve)) s) fun _ s' =>
        next.exec (backendMachine serve) s' := by
  cases write with
  | save task =>
    show _ = resume (((exchange (execute serve) (.createBook (some (Jackson.write task))) >>=
      readTask) >>= fun _ => pure ()) s) _
    rw [resume_bind, resume_bind]
    refine (exec_exchange (.createBook (some (Jackson.write task))) _ s).trans ?_
    simp only [exec_readTask]
    rfl
  | deleteById id =>
    show _ = resume ((exchange (execute serve) (.deleteTask (some id)) >>= fun _ => pure ()) s) _
    rw [resume_bind]
    exact exec_exchange (.deleteTask (some id)) (fun _ => next) s

theorem exec_listAndRedirect (s : σ) :
    Calls.listAndRedirect.exec (backendMachine serve) s =
      resume (((tasksService (execute serve)).findAll >>= fun _ => pure View.redirectTasks :
        EStateM Failure σ View) s) Prod.mk := by
  rw [resume_bind]
  exact exec_findAll _ s

theorem servePage_eq_resume (tasksService : TasksService σ) (conversion : Conversion)
    (request : PageRequest) (s : σ) :
    servePage tasksService conversion request s =
      resume (TasksController.dispatch tasksService conversion request s) Prod.mk := by
  unfold servePage
  cases TasksController.dispatch tasksService conversion request s with
  | ok view s' => rfl
  | error ex s' => rfl

/-- A handler and its calls: a write and a listing, or one call that reads, or none. -/
theorem page_cases (conversion : Conversion) (request : PageRequest) :
    (∃ write, request.write conversion = some write ∧
      page conversion request = write.calls .listAndRedirect ∧
      request.asks conversion = [write.request, .getTasks]) ∨
    (∃ view : List Frontend.Task → View,
      page conversion request = .findAll (fun tasks => .done (view tasks)) ∧
      request.asks conversion = [.getTasks] ∧
      ∀ {ρ : Type} (tasksService : TasksService ρ),
        TasksController.dispatch tasksService conversion request =
          do return view (← tasksService.findAll)) ∨
    (∃ id, page conversion request = .getOne id (fun task => .done (.editTask task)) ∧
      request.asks conversion = [.getTask (some id)] ∧
      ∀ {ρ : Type} (tasksService : TasksService ρ),
        TasksController.dispatch tasksService conversion request =
          do return .editTask (← tasksService.getOne id)) ∨
    (∃ view, page conversion request = .done view ∧ request.asks conversion = [] ∧
      ∀ {ρ : Type} (tasksService : TasksService ρ),
        TasksController.dispatch tasksService conversion request = pure view) ∨
    ∃ ex, page conversion request = .done (.error ex) ∧ request.asks conversion = [] ∧
      ∀ {ρ : Type} (tasksService : TasksService ρ),
        TasksController.dispatch tasksService conversion request = throw ex := by
  cases request with
  | index => exact .inr (.inl ⟨.tasks, rfl, rfl, fun _ => rfl⟩)
  | newTask params =>
    by_cases hbinds : (bindTask conversion none params).2 = []
    · exact .inr (.inr (.inr (.inl ⟨_, if_pos hbinds, rfl, fun _ => if_pos hbinds⟩)))
    · exact .inr (.inr (.inr (.inr ⟨_, if_neg hbinds, rfl, fun _ => if_neg hbinds⟩)))
  | postNew params =>
    by_cases hcancel : params.getParameter "action" = some "cancel"
    · exact .inr (.inl ⟨fun _ => .redirectTasks, if_pos hcancel, if_pos hcancel,
        fun _ => if_pos hcancel⟩)
    · exact .inl ⟨_, if_neg hcancel, if_neg hcancel, if_neg hcancel⟩
  | edit id =>
    cases id with
    | none => exact .inr (.inr (.inr (.inr ⟨_, rfl, rfl, fun _ => rfl⟩)))
    | some id => exact .inr (.inr (.inl ⟨id, rfl, rfl, fun _ => rfl⟩))
  | postEdit id params =>
    by_cases hsave : params.getParameter "action" = some "save"
    · cases id with
      | none =>
        exact .inr (.inr (.inr (.inr ⟨_, if_pos hsave, if_pos hsave, fun _ => if_pos hsave⟩)))
      | some id => exact .inl ⟨_, if_pos hsave, if_pos hsave, if_pos hsave⟩
    · by_cases hcancel : params.getParameter "action" = some "cancel"
      · exact .inr (.inl ⟨fun _ => .redirectTasks, (if_neg hsave).trans (if_pos hcancel),
          (if_neg hsave).trans (if_pos hcancel),
          fun _ => (if_neg hsave).trans (if_pos hcancel)⟩)
      · exact .inr (.inr (.inr (.inl ⟨_, (if_neg hsave).trans (if_neg hcancel),
          (if_neg hsave).trans (if_neg hcancel),
          fun _ => (if_neg hsave).trans (if_neg hcancel)⟩)))
  | delete id =>
    cases id with
    | none => exact .inr (.inr (.inr (.inr ⟨_, rfl, rfl, fun _ => rfl⟩)))
    | some id => exact .inl ⟨_, rfl, rfl, rfl⟩

end ConcurrencyLemmas

open ConcurrencyLemmas

/-- Alone on a backend, the calls of a handler come to what the controller does. -/
theorem exec_page {σ : Type} (serve : Request → σ → Response × σ) (conversion : Conversion)
    (request : PageRequest) (s : σ) :
    (page conversion request).exec (backendMachine serve) s =
      servePage (tasksService (execute serve)) conversion request s := by
  rw [servePage_eq_resume]
  obtain ⟨write, hwrite, hpage, -⟩ | ⟨view, hpage, -, hdispatch⟩ | ⟨id, hpage, -, hdispatch⟩ |
    ⟨view, hpage, -, hdispatch⟩ | ⟨ex, hpage, -, hdispatch⟩ := page_cases conversion request
  · rw [hpage, dispatch_of_write hwrite, resume_bind, exec_write]
    simp only [exec_listAndRedirect]
  · rw [hpage, hdispatch, resume_bind, exec_findAll]
    rfl
  · rw [hpage, hdispatch, resume_bind, exec_getOne]
    rfl
  · rw [hpage, hdispatch]
    rfl
  · rw [hpage, hdispatch]
    rfl

/-! ## 2. The first call settles it -/

/-- A listing changes nothing, and is always answered alike as far as a handler that
redirects can see: with a list, or with the same error. -/
structure Listable {σ : Type} (serve : Request → σ → Response × σ) : Prop where
  state : ∀ s, (serve .getTasks s).2 = s
  answer : (∀ s, ∃ json, (serve .getTasks s).1 = .ok (.tasks json)) ∨
    ∃ status, 400 ≤ status ∧ ∀ s, (serve .getTasks s).1 = .errorPage status

namespace ConcurrencyLemmas

variable {σ : Type} {serve : Request → σ → Response × σ}

/-- What a redirecting handler shows at its end does not depend on the store. -/
theorem reads_listAndRedirect (h : Listable serve) :
    ∃ view, Calls.listAndRedirect.Reads (backendMachine serve) view := by
  obtain hlist | ⟨status, hstatus, herror⟩ := h.answer
  · refine ⟨.redirectTasks, .call h.state fun s => ?_⟩
    obtain ⟨json, hjson⟩ := hlist s
    show Prog.Reads _ _ (Calls.receive _ (serve .getTasks s).1)
    rw [hjson]
    exact .done
  · refine ⟨.error (.status status), .call h.state fun s => ?_⟩
    show Prog.Reads _ _ (Calls.receive _ (serve .getTasks s).1)
    rw [herror, Calls.receive, if_pos]
    · exact .done
    · exact hstatus

theorem commitsFirst_exchange {request : Request} {next : Body → Calls}
    (h : ∀ body, ∃ view, (next body).Reads (backendMachine serve) view) :
    (Calls.exchange request next).CommitsFirst (backendMachine serve) := by
  intro s
  show ∃ view, Prog.Reads _ view (Calls.receive next (serve request s).1)
  unfold Calls.receive
  split
  · exact ⟨_, .done⟩
  · exact h _

end ConcurrencyLemmas

/-- Every handler has settled its view with its first call, and does no more than
list from then on. -/
theorem page_commitsFirst {σ : Type} {serve : Request → σ → Response × σ} (h : Listable serve)
    (conversion : Conversion) (request : PageRequest) :
    (page conversion request).CommitsFirst (backendMachine serve) := by
  obtain ⟨write, -, hpage, -⟩ | ⟨view, hpage, -⟩ | ⟨id, hpage, -⟩ | ⟨view, hpage, -⟩ |
    ⟨ex, hpage, -⟩ := page_cases conversion request
  · obtain ⟨view, hreads⟩ := reads_listAndRedirect h
    rw [hpage]
    cases write with
    | save task =>
      refine commitsFirst_exchange fun body => ?_
      cases body with
      | task json => exact ⟨view, hreads⟩
      | empty | tasks json | errorPage => exact ⟨_, .done⟩
    | deleteById id => exact commitsFirst_exchange fun _ => ⟨view, hreads⟩
  · rw [hpage]
    refine commitsFirst_exchange fun body => ?_
    cases body with
    | tasks json => exact ⟨_, .done⟩
    | empty | task json | errorPage => exact ⟨_, .done⟩
  · rw [hpage]
    refine commitsFirst_exchange fun body => ?_
    cases body with
    | task json => exact ⟨_, .done⟩
    | empty | tasks json | errorPage => exact ⟨_, .done⟩
  · rw [hpage]
    trivial
  · rw [hpage]
    trivial

/-! ## 3. Every interleaving -/

theorem TaskServer.listable {σ : Type} (server : TaskServer σ) : Listable server.serve where
  state := server.getTasks_state
  answer := .inl fun s => ⟨_, congrArg Prod.fst (server.getTasks_eq s)⟩

namespace ConcurrencyLemmas

/-- With one token and one bundle, the filter decides on every request alike. -/
theorem listable_jwt (token : String) (parseAndValidate : String → Except TokenError Unit) :
    Listable fun request db => serveJwt ⟨request, some token, parseAndValidate⟩ db where
  state db := by
    rw [serveJwt_state]
    exact Jpa.serve_getTasks_state db
  answer := by
    cases herror : (Arrival.mk .getTasks (some token) parseAndValidate).error with
    | none =>
      refine .inl fun db => ?_
      rw [serveJwt_accepted herror]
      exact ⟨_, congrArg Prod.fst (jpaServer.getTasks_eq db)⟩
    | some status =>
      have hanswer : ∀ db, (serveJwt ⟨.getTasks, some token, parseAndValidate⟩ db).1 =
          .errorPage status := by
        intro db
        rw [serveJwt_eq, herror]
        rfl
      refine .inr ⟨status, ?_, hanswer⟩
      obtain ⟨status', hge, hserve⟩ := serveJwt_refused herror H2.seeded
      have hsame := (hanswer H2.seeded).symm.trans (congrArg Prod.fst hserve)
      rw [show status = status' from congrArg Response.status hsame]
      exact hge

end ConcurrencyLemmas

section Interleavings

variable {σ τ : Type} [DecidableEq τ]

namespace ConcurrencyLemmas

omit [DecidableEq τ] in
/-- Handlers that run one after the other are page requests one after another. -/
theorem serial_step (serve : Request → σ → Response × σ) (conversion : Conversion)
    (requests : τ → PageRequest) (s : σ) (t : τ) :
    (Prog.serial (backendMachine serve) fun t => page conversion (requests t)).step s t =
      (pagesOver serve conversion).step s (requests t) :=
  exec_page serve conversion (requests t) s

end ConcurrencyLemmas

/-- The threads `t` of a frontend serve the page requests `requests t`, and their
calls of the backend come in the order `schedule`. The store is then the one that the
requests leave one after the other on `pages`, in the order in which they made their
first calls, and a thread that is done shows what its request is answered there. -/
def Serializes (serve : Request → σ → Response × σ) (pages : Machine σ PageRequest View)
    (conversion : Conversion) (requests : τ → PageRequest) (s : σ) (schedule : List τ) : Prop :=
  let world := (Prog.interleaved (backendMachine serve)).run
    (s, fun t => page conversion (requests t)) schedule
  world.1 = pages.run s (schedule.eraseDups.map requests) ∧
    ∀ t view, t ∈ schedule → world.2 t = .done view →
      ∃ before after, schedule.eraseDups = before ++ t :: after ∧
        view = (pages.step (pages.run s (before.map requests)) (requests t)).1

namespace ConcurrencyLemmas

theorem serializes_of_listable {serve : Request → σ → Response × σ} (h : Listable serve)
    (conversion : Conversion) (requests : τ → PageRequest) (s : σ) (schedule : List τ) :
    Serializes serve (pagesOver serve conversion) conversion requests s schedule := by
  have hstep := serial_step serve conversion requests
  obtain ⟨hstate, hdone⟩ := Prog.serializable
    (fun t => page_commitsFirst h conversion (requests t)) s schedule
  constructor
  · rw [← Machine.run_map requests hstep]
    exact hstate
  · intro t view ht hview
    obtain ⟨before, after, hsplit, heq⟩ := Machine.mem_trace_iff.mp (hdone t view ht hview)
    refine ⟨before, after, hsplit, ?_⟩
    rw [heq, hstep, Machine.run_map requests hstep]

end ConcurrencyLemmas

/-- Where each call of the backend is one atomic step, every interleaving of page
requests is a serial execution of them: before every task server, and in the JWT demo,
where the calls reach the filter, with any token, accepted or not. -/
theorem pages_serializable (conversion : Conversion) (requests : τ → PageRequest)
    (schedule : List τ) :
    (∀ {σ : Type} (server : TaskServer σ) (s : σ),
      Serializes server.serve ((directChannel server.toBackend).pages conversion) conversion
        requests s schedule) ∧
    ∀ (token : String) (parseAndValidate : String → Except TokenError Unit) (db : H2),
      Serializes (fun request => serveJwt ⟨request, some token, parseAndValidate⟩)
        ((jwtChannel token parseAndValidate).pages conversion) conversion requests db schedule := by
  constructor
  · intro σ server s
    exact serializes_of_listable server.listable conversion requests s schedule
  · intro token parseAndValidate db
    exact serializes_of_listable (listable_jwt token parseAndValidate) conversion requests db
      schedule

end Interleavings

end SpiffeTasks
