import SpiffeTasks.TasksService

/-!
# The `Authorization` header between frontend and backend

The frontend's interceptor and the backend's filter are the two ends of one
header. The filter reads what follows `Bearer `; the interceptor writes the
token alone.

1. `remote_eq_direct`: over a transport that lets requests and responses
   through, every operation of `TasksService` is the handler of `TaskController`
   that it calls.
2. `bearer_header_agrees`: with the scheme in the header, an accepted token makes
   the operation that handler.
3. `interceptor_never_agrees`: with the header that the interceptor sends it never
   does.
4. `bare_token_refused`: with a token that has no `Bearer ` in it, as every JWT,
   each operation fails, and has its effect on the store all the same.
-/

namespace SpiffeTasks

/-! ## 1. Operations and handlers -/

/-- A call of `TasksService`. -/
inductive Operation
  | findAll
  | getOne (id : Long)
  | save (task : Frontend.Task)
  | deleteById (id : Long)

/-- What a call returns. -/
inductive Reply
  | tasks (tasks : List Frontend.Task)
  | task (task : Frontend.Task)
  | done
  deriving DecidableEq

/-- The call through `TasksService`. -/
def TasksService.call {σ : Type} (tasksService : TasksService σ) :
    Operation → EStateM Failure σ Reply
  | .findAll => do return .tasks (← tasksService.findAll)
  | .getOne id => do return .task (← tasksService.getOne id)
  | .save task => do return .task (← tasksService.save task)
  | .deleteById id => do
    tasksService.deleteById id
    return .done

section Direct

variable {σ T : Type} [Jackson T] (taskRepository : TaskRepository σ T)

/-- An entity as the frontend's class, through its JSON. -/
def carry (task : T) : Frontend.Task := Jackson.read (Jackson.write task)

/-- The corresponding method of `TaskController`, called directly. Tasks are
carried from one class to the other through JSON. -/
def TaskController.call : Operation → EStateM Thrown σ Reply
  | .findAll => do return .tasks ((← TaskController.getTasks taskRepository).map carry)
  | .getOne id => do return .task (carry (← TaskController.getTask taskRepository id))
  | .save task => do
    let saved ← TaskController.createBook taskRepository (Jackson.read (Jackson.write task))
    return .task (carry saved)
  | .deleteById id => do
    TaskController.deleteTask taskRepository id
    return .done

end Direct

/-- The request that the operation sends. -/
def Operation.request : Operation → Request
  | .findAll => .getTasks
  | .getOne id => .getTask (some id)
  | .save task => .createBook (some (Jackson.write task))
  | .deleteById id => .deleteTask (some id)

/-- An exception in the backend reaches the frontend as a 500. -/
def remoteOutcome {σ α : Type} : EStateM.Result Thrown σ α → EStateM.Result Failure σ α
  | .ok a s => .ok a s
  | .error _ s => .error (.status 500) s

namespace BearerLemmas

open EStateM

variable {σ T : Type} [Jackson T] {taskRepository : TaskRepository σ T}

theorem exchange_of_error {send : Request → EStateM Failure σ Response} {request : Request}
    {s s' : σ} {status : Nat} (h : send request s = .ok (.errorPage status) s')
    (hstatus : 400 ≤ status) : exchange send request s = .error (.status status) s' := by
  unfold exchange
  rw [bind_of_ok h]
  show (if 400 ≤ status then _ else _ : EStateM Failure σ Body) s' = _
  rw [if_pos hstatus]
  rfl

/-- An operation whose request fails has the failure of the request. -/
theorem call_of_error {send : Request → EStateM Failure σ Response} {operation : Operation}
    {s s' : σ} {e : Failure} (h : exchange send operation.request s = .error e s') :
    (tasksService send).call operation s = .error e s' := by
  cases operation with
  | findAll => exact bind_of_error (bind_of_error h)
  | getOne id => exact bind_of_error (bind_of_error h)
  | save task => exact bind_of_error (bind_of_error h)
  | deleteById id => exact bind_of_error (bind_of_error h)

theorem remote_of_error {operation : Operation} {s s' : σ}
    (h : serve taskRepository operation.request s = (.errorPage 500, s')) :
    (tasksService (execute (serve taskRepository))).call operation s = .error (.status 500) s' := by
  have hexecute : execute (serve taskRepository) operation.request s =
      .ok (.errorPage 500) s' := by rw [execute, h]
  exact call_of_error (exchange_of_error hexecute (by decide))

/-- What holds of every operation once its handler, the body of its response and
what the frontend reads from that are known. -/
theorem remote_of_handler {α : Type} {operation : Operation} (handler : EStateM Thrown σ α)
    {body : α → Body} {reply : α → Reply} {s : σ}
    (hdispatch : TaskController.dispatch taskRepository operation.request =
      do return .ok (body (← handler)))
    (hdirect : TaskController.call taskRepository operation = do return reply (← handler))
    (hread : ∀ a s',
      exchange (execute (serve taskRepository)) operation.request s = .ok (body a) s' →
      (tasksService (execute (serve taskRepository))).call operation s = .ok (reply a) s') :
    (tasksService (execute (serve taskRepository))).call operation s =
      remoteOutcome (TaskController.call taskRepository operation s) := by
  have hserve := BackendLemmas.answer_handler handler body s
  rw [← hdispatch] at hserve
  rw [hdirect]
  cases h : handler s with
  | ok a s' =>
    rw [h] at hserve
    rw [bind_of_ok h]
    exact hread a s' (ServiceLemmas.exchange_of_ok hserve)
  | error e s' =>
    rw [h] at hserve
    rw [bind_of_error h]
    exact remote_of_error hserve

end BearerLemmas

open BearerLemmas

/-- Over a transport that lets everything through, calling an operation of
`TasksService` is calling the handler: the same result, the same effect. -/
theorem remote_eq_direct {σ T : Type} [Jackson T] (taskRepository : TaskRepository σ T)
    (operation : Operation) (s : σ) :
    (tasksService (execute (serve taskRepository))).call operation s =
      remoteOutcome (TaskController.call taskRepository operation s) := by
  cases operation with
  | findAll =>
    refine remote_of_handler (TaskController.getTasks taskRepository) rfl rfl
      fun tasks s' hread => ?_
    have hfindAll : (tasksService (execute (serve taskRepository))).findAll s =
      .ok ((tasks.map Jackson.write).map Jackson.read) s' := EStateM.bind_of_ok hread
    refine (EStateM.bind_of_ok hfindAll).trans ?_
    rw [List.map_map]
    rfl
  | getOne id =>
    exact remote_of_handler (TaskController.getTask taskRepository id) rfl rfl
      fun task s' hread => EStateM.bind_of_ok (EStateM.bind_of_ok hread)
  | save task =>
    exact remote_of_handler
      (TaskController.createBook taskRepository (Jackson.read (Jackson.write task))) rfl rfl
      fun saved s' hread => EStateM.bind_of_ok (EStateM.bind_of_ok hread)
  | deleteById id =>
    exact remote_of_handler (TaskController.deleteTask taskRepository id) rfl rfl
      fun _ s' hread => EStateM.bind_of_ok (EStateM.bind_of_ok hread)

/-! ## 2. Headers with the scheme -/

/-- Had the frontend sent the scheme, each operation with an accepted token
would be the handler it calls. -/
theorem bearer_header_agrees {token : String} {parseAndValidate : String → Except TokenError Unit}
    (hblank : StringUtils.isBlank (some token) = false) (hok : parseAndValidate token = .ok ())
    (operation : Operation) (db : H2) :
    (tasksService (execute fun request =>
      serveJwt ⟨request, some ("Bearer " ++ token), parseAndValidate⟩)).call operation db =
    remoteOutcome (TaskController.call jpaRepository operation db) := by
  have herror : recordedError parseAndValidate (some ("Bearer " ++ token)) = none := by
    unfold recordedError
    rw [tokenOf_bearer, if_neg (by simp [hblank]), Option.getD_some, hok]
  have hserve : (fun request => serveJwt ⟨request, some ("Bearer " ++ token), parseAndValidate⟩) =
      serve jpaRepository := by
    funext request db
    exact serveJwt_accepted (a := ⟨request, some ("Bearer " ++ token), parseAndValidate⟩) herror db
  rw [hserve, remote_eq_direct]

/-! ## 3. The header that the interceptor sends -/

/-- The execution of a request as far as the filter: what the filter leaves behind. -/
def executeFilter (parseAndValidate : String → Except TokenError Unit)
    (httpRequest : HttpRequest) : EStateM Failure H2 (Exchange H2) :=
  fun db =>
    let arrival := httpRequest.arrival parseAndValidate
    let filtered := (doFilterInternal arrival.parseAndValidate arrival.authorization
      (TaskController.dispatch jpaRepository arrival.request) { store := db }).state
    .ok filtered filtered.store

/-- What the filter leaves behind of the request that the interceptor sends. -/
def filtered (token : String) (parseAndValidate : String → Except TokenError Unit)
    (request : Request) (db : H2) : Option (Exchange H2) :=
  (intercept (some token) (executeFilter parseAndValidate) { request } db).value?

/-- What the two ends of the header agree on, for one operation: of the request that the
interceptor sends, the filter recovers the token that was fetched and sends no error,
and the operation has the result and the effect of the handler. -/
structure Agrees (token : String) (parseAndValidate : String → Except TokenError Unit)
    (operation : Operation) : Prop where
  recovers : ∀ db,
    (filtered token parseAndValidate operation.request db).bind Exchange.parsed = some token
  no_error : ∀ db,
    (filtered token parseAndValidate operation.request db).map Exchange.error = some none
  same_outcome : ∀ db,
    (tasksService (jwtSend (some token) parseAndValidate)).call operation db =
      remoteOutcome (TaskController.call jpaRepository operation db)

namespace BearerLemmas

/-- The interceptor sends the token and nothing else, and the filter parses what it
finds in that. -/
theorem filtered_parsed (token : String) (parseAndValidate : String → Except TokenError Unit)
    (request : Request) (db : H2) :
    (filtered token parseAndValidate request db).bind Exchange.parsed =
      parsedToken (some token) :=
  doFilterInternal_parsed db

/-- What follows `Bearer ` in a string is shorter than the string. -/
theorem tokenOf_eq_self {token : String} (h : tokenOf (some token) = some token) : token = "" := by
  rw [tokenOf_some, Option.some.injEq] at h
  have hlist := congrArg String.toList h
  rw [String.toList_ofList] at hlist
  cases hfound : Search.afterFirst "Bearer ".toList token.toList with
  | none =>
    rw [hfound] at hlist
    rw [← String.ofList_toList (s := token), ← hlist]
    rfl
  | some rest =>
    obtain ⟨pre, hpre⟩ := Search.afterFirst_eq_some hfound
    rw [hfound, Option.getD_some] at hlist
    have hlength := congrArg List.length hpre
    have hseven : "Bearer ".toList.length = 7 := by decide
    rw [List.length_append, List.length_append, hlist, hseven] at hlength
    omega

end BearerLemmas

/-- Whatever token the frontend fetches and whatever the backend would accept,
the two ends of the header agree on no operation: the interceptor leaves out the
scheme that the filter looks for. -/
theorem interceptor_never_agrees (token : String)
    (parseAndValidate : String → Except TokenError Unit) (operation : Operation) :
    ¬ Agrees token parseAndValidate operation := by
  rintro ⟨hrecovers, -, -⟩
  have hparsed := (filtered_parsed token parseAndValidate operation.request H2.seeded).symm.trans
    (hrecovers H2.seeded)
  unfold parsedToken at hparsed
  split at hparsed
  · cases hparsed
  · next hblank =>
    -- Only the empty token comes back as it was sent, and that one is blank.
    rw [tokenOf_eq_self hparsed] at hblank
    exact hblank (by decide)

/-! ## 4. What becomes of the operations -/

namespace BearerLemmas

open EStateM

theorem call_state {σ : Type} {send : Request → EStateM Failure σ Response}
    (operation : Operation) (s : σ) :
    ((tasksService send).call operation s).state = (send operation.request s).state := by
  rw [← ServiceLemmas.exchange_state]
  cases operation with
  | findAll =>
    exact (state_bind_of_keeps (fun _ => keeps_pure _) s).trans
      (state_bind_of_keeps ServiceLemmas.readTasks_keeps s)
  | getOne id =>
    exact (state_bind_of_keeps (fun _ => keeps_pure _) s).trans
      (state_bind_of_keeps ServiceLemmas.readTask_keeps s)
  | save task =>
    exact (state_bind_of_keeps (fun _ => keeps_pure _) s).trans
      (state_bind_of_keeps ServiceLemmas.readTask_keeps s)
  | deleteById id =>
    exact (state_bind_of_keeps (fun _ => keeps_pure _) s).trans
      (state_bind_of_keeps (fun _ => keeps_pure _) s)

theorem remoteOutcome_state {σ α : Type} (r : Result Thrown σ α) :
    (remoteOutcome r).state = r.state := by
  cases r with
  | ok a s => rfl
  | error e s => rfl

theorem direct_state {σ T : Type} [Jackson T] (taskRepository : TaskRepository σ T)
    (operation : Operation) (s : σ) :
    (TaskController.call taskRepository operation s).state =
      (serve taskRepository operation.request s).2 := by
  rw [← remoteOutcome_state, ← remote_eq_direct, call_state]
  rfl

end BearerLemmas

/-- With a token that has no `Bearer ` in it, every operation fails on the
frontend's side, and does to the store what the handler does. -/
theorem bare_token_refused {token : String} (hno : ¬ "Bearer ".toList <:+: token.toList)
    (parseAndValidate : String → Except TokenError Unit) (operation : Operation) (db : H2) :
    ∃ status, 400 ≤ status ∧
      (tasksService (jwtSend (some token) parseAndValidate)).call operation db =
        .error (.status status) (TaskController.call jpaRepository operation db).state := by
  have herror : (Arrival.mk operation.request (some token) parseAndValidate).error = some 400 := by
    unfold Arrival.error recordedError
    rw [tokenOf_some, Search.afterFirst_eq_none_iff.mpr hno]
    rfl
  obtain ⟨status, hge, hserve⟩ := serveJwt_refused herror db
  have hsend : jwtSend (some token) parseAndValidate operation.request db =
      .ok (.errorPage status) (serve jpaRepository operation.request db).2 := by
    show EStateM.Result.ok (serveJwt ⟨operation.request, some token, parseAndValidate⟩ db).1
      (serveJwt ⟨operation.request, some token, parseAndValidate⟩ db).2 = _
    rw [hserve]
  refine ⟨status, hge, ?_⟩
  rw [direct_state]
  exact call_of_error (exchange_of_error hsend hge)

/-- With the accepted token `a.b.c` the frontend does not even get the list. -/
theorem findAll_refused :
    StringUtils.isBlank (some "a.b.c") = false ∧
    ((tasksService (jwtSend (some "a.b.c") fun _ => .ok ())).call .findAll H2.seeded).value? =
      none ∧
    ¬ Agrees "a.b.c" (fun _ => .ok ()) .findAll := by
  have hno : ¬ "Bearer ".toList <:+: "a.b.c".toList := by decide
  obtain ⟨status, -, hcall⟩ := bare_token_refused hno (fun _ => .ok ()) .findAll H2.seeded
  refine ⟨by decide, by rw [hcall]; rfl, fun h => ?_⟩
  have hparsed := (filtered_parsed _ _ _ _).symm.trans (h.recovers H2.seeded)
  exact absurd hparsed (by decide)

end SpiffeTasks
