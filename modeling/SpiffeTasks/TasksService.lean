import SpiffeTasks.JwtRequestFilter

/-!
# The frontends' calls to the backend

`TasksService` turns four operations into requests, through a `RestTemplate`
that throws on every 4xx and 5xx response. In the JWT demo an interceptor puts
the token into the `Authorization` header; in the x509 demos the requests go
over mutual TLS and need no header.

1. `Channel`: a way from the frontend to a backend on which every request has its
   effect on the backend, and a response that is not an error is the backend's.
2. `directChannel`, `jwtChannel`: mutual TLS, and the way through the JWT filter with
   any token, are channels.
3. `Channel.findAll_keeps`, `getOne_keeps`, `save_board`, `deleteById_board`: what the
   operations do to the board, over every channel.
-/

namespace SpiffeTasks

/-- What a handler of the frontend can fail with. -/
inductive Failure
  /-- `HttpClientErrorException` and `HttpServerErrorException`. -/
  | status (code : Nat)
  /-- The response body is not what was asked for. -/
  | unreadable
  /-- No JWT-SVID could be fetched. -/
  | unableToFetch
  /-- The backend cannot be reached. -/
  | unavailable
  /-- An argument of the handler does not bind. -/
  | argument
  deriving DecidableEq

/-! ## The service -/

/-- The operations of `TasksService`, on whatever they act on. -/
structure TasksService (σ : Type) where
  findAll : EStateM Failure σ (List Frontend.Task)
  getOne : Long → EStateM Failure σ Frontend.Task
  save : Frontend.Task → EStateM Failure σ Frontend.Task
  deleteById : Long → EStateM Failure σ Unit

section RestTemplate

variable {σ : Type} (send : Request → EStateM Failure σ Response)

/-- `RestTemplate.exchange`: the body of the response, if its status is not an
error. -/
def exchange (request : Request) : EStateM Failure σ Body := do
  let response ← send request
  if 400 ≤ response.status then throw (.status response.status)
  return response.body

/-- The body as a task. -/
def readTask : Body → EStateM Failure σ Frontend.Task
  | .task json => return Jackson.read json
  | _ => throw .unreadable

/-- The body as a list of tasks. -/
def readTasks : Body → EStateM Failure σ (List Frontend.Task)
  | .tasks json => return json.map Jackson.read
  | _ => throw .unreadable

/-- `com.example.service.TasksService`. -/
def tasksService : TasksService σ where
  findAll := do readTasks (← exchange send .getTasks)
  getOne id := do readTask (← exchange send (.getTask (some id)))
  save task := do readTask (← exchange send (.createBook (some (Jackson.write task))))
  deleteById id := do let _ ← exchange send (.deleteTask (some id))

end RestTemplate

/-! ## The interceptor of the JWT demo -/

/-- `getJwtToken`: a `JwtSvidException` becomes a `RuntimeException`. -/
def getJwtToken {σ : Type} (fetchJwtSvid : Option String) : EStateM Failure σ String :=
  match fetchJwtSvid with
  | some token => return token
  | none => throw .unableToFetch

/-- `ClientHttpRequestExecution.execute`: the backend serves the request. -/
def execute {σ : Type} (serve : Request → σ → Response × σ) (request : Request) :
    EStateM Failure σ Response :=
  fun s => .ok (serve request s).1 (serve request s).2

/-- `HttpRequest`: what is asked for, and the values of the `Authorization` header. -/
structure HttpRequest where
  request : Request
  authorization : List String := []

/-- `ClientHttpRequestInterceptor.intercept`. The token is the header, as it is. -/
def intercept {σ α : Type} (fetchJwtSvid : Option String)
    (execution : HttpRequest → EStateM Failure σ α) (request : HttpRequest) :
    EStateM Failure σ α := do
  let jwtToken ← getJwtToken fetchJwtSvid
  execution { request with authorization := request.authorization ++ [jwtToken] }

/-- The request as it reaches the filter, where `getHeader` gives the first value. -/
def HttpRequest.arrival (httpRequest : HttpRequest)
    (parseAndValidate : String → Except TokenError Unit) : Arrival :=
  ⟨httpRequest.request, httpRequest.authorization.head?, parseAndValidate⟩

/-- `ClientHttpRequestExecution.execute` in the JWT demo, of a request that reaches the
filter. -/
def executeJwt (parseAndValidate : String → Except TokenError Unit) (httpRequest : HttpRequest) :
    EStateM Failure H2 Response :=
  fun db =>
    let served := serveJwt (httpRequest.arrival parseAndValidate) db
    .ok served.1 served.2

/-- A request of the `RestTemplate`, with no header but that of the interceptor. -/
def jwtSend (fetchJwtSvid : Option String) (parseAndValidate : String → Except TokenError Unit)
    (request : Request) : EStateM Failure H2 Response :=
  intercept fetchJwtSvid (executeJwt parseAndValidate) { request }

/-! ## Channels -/

/-- A way to a backend on which every request has its effect on the backend, and what is
not an error comes from the backend. -/
structure Channel {σ : Type} (backend : Backend σ) where
  send : Request → EStateM Failure σ Response
  send_state : ∀ request s, (send request s).state = (backend.serve request s).2
  send_value : ∀ request s response, (send request s).value? = some response →
    response.status < 400 → response = (backend.serve request s).1

/-- Over mutual TLS the frontend talks to the backend itself. -/
def directChannel {σ : Type} (backend : Backend σ) : Channel backend where
  send := execute backend.serve
  send_state _ _ := rfl
  send_value _ _ _ h _ := (Option.some.inj h).symm

/-- The way of the JWT demo, where requests reach the filter: the filter stands between,
with any token in the header. -/
def jwtChannel (token : String) (parseAndValidate : String → Except TokenError Unit) :
    Channel jpaBackend where
  send := jwtSend (some token) parseAndValidate
  send_state request db := serveJwt_state ⟨request, some token, parseAndValidate⟩ db
  send_value request db response h hstatus := by
    have hresponse : (serveJwt ⟨request, some token, parseAndValidate⟩ db).1 = response :=
      Option.some.inj h
    rw [← hresponse] at hstatus ⊢
    cases herror : (Arrival.mk request (some token) parseAndValidate).error with
    | none => exact congrArg Prod.fst (serveJwt_accepted herror db)
    | some recorded =>
      obtain ⟨status, hge, hserve⟩ := serveJwt_refused herror db
      rw [hserve] at hstatus
      exact absurd hge (Nat.not_le.mpr hstatus)

namespace Channel

variable {σ : Type} {backend : Backend σ} (channel : Channel backend)

/-- The service whose requests go through the channel. -/
def service : TasksService σ := tasksService channel.send

end Channel

/-! ## What the operations do to the board -/

namespace ServiceLemmas

open EStateM

variable {σ : Type} {send : Request → EStateM Failure σ Response}

theorem readTask_keeps (body : Body) : Keeps (readTask body : EStateM Failure σ Frontend.Task) := by
  cases body with
  | task json => exact keeps_pure _
  | empty | tasks _ | errorPage => exact keeps_throw _

theorem readTasks_keeps (body : Body) :
    Keeps (readTasks body : EStateM Failure σ (List Frontend.Task)) := by
  cases body with
  | tasks json => exact keeps_pure _
  | empty | task _ | errorPage => exact keeps_throw _

theorem exchange_state (request : Request) (s : σ) :
    (exchange send request s).state = (send request s).state := by
  unfold exchange
  refine state_bind_of_keeps (fun response => ?_) s
  split
  · exact keeps_throw _
  · exact keeps_pure _

theorem exchange_value {request : Request} {s : σ} {body : Body}
    (h : (exchange send request s).value? = some body) :
    ∃ response, (send request s).value? = some response ∧ response.status < 400 ∧
      response.body = body := by
  unfold exchange at h
  cases hsend : send request s with
  | error e s' =>
    rw [bind_of_error hsend] at h
    cases h
  | ok response s' =>
    rw [bind_of_ok hsend] at h
    split at h
    · cases h
    · next hstatus => exact ⟨response, rfl, Nat.not_le.mp hstatus, Option.some.inj h⟩

theorem exchange_of_ok {serve : Request → σ → Response × σ} {request : Request} {s s' : σ}
    {body : Body} (h : serve request s = (.ok body, s')) :
    exchange (execute serve) request s = .ok body s' := by
  have hexecute : execute serve request s = .ok (.ok body) s' := by rw [execute, h]
  unfold exchange
  rw [bind_of_ok hexecute]
  rfl

theorem readTask_value {body : Body} {s : σ} {task : Frontend.Task}
    (h : (readTask body s).value? = some task) :
    ∃ json, body = .task json ∧ task = Jackson.read json := by
  cases body with
  | task json => exact ⟨json, rfl, (Option.some.inj h).symm⟩
  | empty | tasks _ | errorPage => cases h

end ServiceLemmas

open ServiceLemmas

namespace Channel

open EStateM

variable {σ : Type} {backend : Backend σ} (channel : Channel backend)

theorem exchange_state (request : Request) (s : σ) :
    (exchange channel.send request s).state = (backend.serve request s).2 :=
  (ServiceLemmas.exchange_state request s).trans (channel.send_state request s)

theorem findAll_keeps : Keeps channel.service.findAll := by
  intro s
  show ((exchange channel.send .getTasks >>= readTasks) s).state = s
  rw [state_bind_of_keeps readTasks_keeps, channel.exchange_state]
  exact backend.getTasks_state s

theorem getOne_keeps (id : Long) : Keeps (channel.service.getOne id) := by
  intro s
  show ((exchange channel.send (.getTask (some id)) >>= readTask) s).state = s
  rw [state_bind_of_keeps readTask_keeps, channel.exchange_state]
  exact congrArg Prod.snd (backend.getTask_eq id s)

/-- What `getOne` returns is stored under the id asked for. -/
theorem getOne_value {id : Long} {s : σ} {task : Frontend.Task}
    (h : (channel.service.getOne id s).value? = some task) :
    task.id = id ∧ backend.board s id = some task.row := by
  change ((exchange channel.send (.getTask (some id)) >>= readTask) s).value? = some task at h
  cases hex : exchange channel.send (.getTask (some id)) s with
  | error e s' =>
    rw [bind_of_error hex] at h
    cases h
  | ok body s' =>
    rw [bind_of_ok hex] at h
    obtain ⟨json, rfl, rfl⟩ := readTask_value h
    obtain ⟨response, hsend, hstatus, hbody⟩ :=
      exchange_value (congrArg Result.value? hex)
    rw [channel.send_value _ s response hsend hstatus, backend.getTask_eq] at hbody
    cases hrow : backend.board s id with
    | none =>
      rw [hrow] at hbody
      cases hbody
    | some row =>
      rw [hrow] at hbody
      cases hbody
      exact ⟨rfl, rfl⟩

theorem save_state (task : Frontend.Task) (s : σ) :
    (channel.service.save task s).state =
      (backend.serve (.createBook (some (Jackson.write task))) s).2 := by
  show ((exchange channel.send (.createBook (some (Jackson.write task))) >>= readTask) s).state = _
  rw [state_bind_of_keeps readTask_keeps, channel.exchange_state]

theorem save_board (task : Frontend.Task) (s : σ) :
    backend.board (channel.service.save task s).state =
      (backend.target s (some task.id)).elim (backend.board s)
        fun id => (backend.board s).put id task.row := by
  rw [channel.save_state, backend.createBook_board]
  rfl

theorem deleteById_board (id : Long) (s : σ) :
    backend.board (channel.service.deleteById id s).state = (backend.board s).remove id := by
  show backend.board
    ((exchange channel.send (.deleteTask (some id)) >>= fun _ => pure ()) s).state = _
  rw [state_bind_of_keeps fun _ => keeps_pure _, channel.exchange_state,
    backend.deleteTask_board]

end Channel

end SpiffeTasks
