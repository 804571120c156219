import SpiffeTasks.BearerHeader
import SpiffeTasks.Concurrency
import SpiffeTasks.Network

/-!
# The JWT demo

On its way to the backend a request of the JWT demo gets a token from the interceptor,
comes to the filters that Spring Security runs before `JwtRequestFilter`, and then to
that filter. A token may not be there to fetch, or not be accepted, and a filter may
answer the request itself: the one against CSRF, which `SecurityConfig` leaves in place,
answers `POST` and `DELETE` with 403 where there is no CSRF token.

1. `Passage`: what requests meet on that way.
2. `jwt_pages_run`: the pages, where all requests meet the same.
3. `jwt_demo_network`: where each meets something else, a request that does not reach
   the filter is one that got lost, and a token that is refused is an answer that got
   lost.
4. `jwt_demo_store`: the store is that of the page requests whose writes reached the
   filter, whether their tokens were let through or not.
-/

namespace SpiffeTasks

open EStateM

/-! ## 1. The way to the backend -/

/-- What a request meets on its way. -/
structure Passage where
  /-- The token that the interceptor fetches, if there is one. -/
  fetchJwtSvid : Option String
  /-- The status with which a filter before `JwtRequestFilter` answers, if one does. -/
  filtersBefore : Request → Option { status : Nat // 400 ≤ status }
  parseAndValidate : String → Except TokenError Unit

namespace Passage

variable (passage : Passage)

/-- `ClientHttpRequestExecution.execute` in the JWT demo. -/
def execution (httpRequest : HttpRequest) : EStateM Failure H2 Response :=
  match passage.filtersBefore httpRequest.request with
  | some status => return .errorPage status
  | none => executeJwt passage.parseAndValidate httpRequest

/-- A request of the `RestTemplate`, with no header but that of the interceptor. -/
def send (request : Request) : EStateM Failure H2 Response :=
  intercept passage.fetchJwtSvid passage.execution { request }

/-- The request has a token, and reaches the filter. -/
def reaches (request : Request) : Bool :=
  passage.fetchJwtSvid.isSome && (passage.filtersBefore request).isNone

/-- What becomes of the request, as the sender sees it. -/
def delivery (request : Request) : Delivery :=
  if passage.reaches request then
    if recordedError passage.parseAndValidate passage.fetchJwtSvid = none then .answered
    else .unanswered
  else .lost

end Passage

namespace PassageLemmas

section Channel

variable {token : String} {parseAndValidate : String → Except TokenError Unit}

theorem send_accepted (h : recordedError parseAndValidate (some token) = none) :
    (jwtChannel token parseAndValidate).send = (directChannel jpaBackend).send := by
  funext request db
  have hserve : serveJwt ⟨request, some token, parseAndValidate⟩ db =
      serve jpaRepository request db :=
    serveJwt_accepted (a := ⟨request, some token, parseAndValidate⟩) h db
  show Result.ok (serveJwt ⟨request, some token, parseAndValidate⟩ db).1
    (serveJwt ⟨request, some token, parseAndValidate⟩ db).2 = _
  rw [hserve]
  rfl

theorem send_refused {recorded : Nat}
    (h : recordedError parseAndValidate (some token) = some recorded) (request : Request)
    (db : H2) :
    ∃ status, 400 ≤ status ∧ (jwtChannel token parseAndValidate).send request db =
      .ok (.errorPage status) (jpaBackend.serve request db).2 := by
  obtain ⟨status, hge, hserve⟩ :=
    serveJwt_refused (a := ⟨request, some token, parseAndValidate⟩) h db
  refine ⟨status, hge, ?_⟩
  show Result.ok (serveJwt ⟨request, some token, parseAndValidate⟩ db).1
    (serveJwt ⟨request, some token, parseAndValidate⟩ db).2 = _
  rw [hserve]
  rfl

end Channel

variable {passage : Passage} {request : Request}

theorem reaches_iff :
    passage.reaches request = true ↔
      (∃ token, passage.fetchJwtSvid = some token) ∧ passage.filtersBefore request = none := by
  unfold Passage.reaches
  rw [Bool.and_eq_true, Option.isSome_iff_exists, Option.isNone_iff_eq_none]

theorem send_of_token {token : String} (htoken : passage.fetchJwtSvid = some token) :
    passage.send request = passage.execution ⟨request, [token]⟩ := by
  unfold Passage.send
  rw [htoken]
  rfl

theorem execution_stopped {httpRequest : HttpRequest} {status : { status : Nat // 400 ≤ status }}
    (h : passage.filtersBefore httpRequest.request = some status) :
    passage.execution httpRequest = pure (.errorPage status) := by
  unfold Passage.execution
  rw [h]

theorem execution_reaches {httpRequest : HttpRequest}
    (h : passage.filtersBefore httpRequest.request = none) :
    passage.execution httpRequest = executeJwt passage.parseAndValidate httpRequest := by
  unfold Passage.execution
  rw [h]

/-- What reaches the filter goes through it. -/
theorem send_reaches {token : String} (htoken : passage.fetchJwtSvid = some token)
    (hfilters : passage.filtersBefore request = none) :
    passage.send request = (jwtChannel token passage.parseAndValidate).send request := by
  rw [send_of_token htoken, execution_reaches hfilters]
  rfl

/-- What does not reach it fails, and does nothing. -/
theorem exchange_lost (h : passage.reaches request = false) (db : H2) :
    ∃ ex, exchange passage.send request db = .error ex db := by
  cases htoken : passage.fetchJwtSvid with
  | none =>
    have hsend : passage.send request db = .error .unableToFetch db := by
      unfold Passage.send
      rw [htoken]
      rfl
    exact ⟨_, bind_of_error hsend⟩
  | some token =>
    cases hfilters : passage.filtersBefore request with
    | none =>
      rw [reaches_iff.mpr ⟨⟨token, htoken⟩, hfilters⟩] at h
      cases h
    | some status =>
      have hsend : passage.send request db = .ok (.errorPage status) db := by
        rw [send_of_token htoken, execution_stopped hfilters]
        rfl
      exact ⟨_, BearerLemmas.exchange_of_error hsend status.2⟩

theorem exchange_reached (h : passage.reaches request = true) (db : H2) :
    (exchange passage.send request db).state = (jpaBackend.serve request db).2 := by
  obtain ⟨⟨token, htoken⟩, hfilters⟩ := reaches_iff.mp h
  have hsend := send_reaches htoken hfilters
  unfold exchange
  rw [hsend]
  exact (jwtChannel token passage.parseAndValidate).exchange_state request db

theorem delivery_lost_iff :
    passage.delivery request = .lost ↔ passage.reaches request = false := by
  unfold Passage.delivery
  cases passage.reaches request with
  | true =>
    rw [if_pos rfl]
    split <;> simp
  | false => simp

/-- Where a request is not lost, the filter has a token to decide on. -/
theorem delivery_reached {delivery : Delivery} (h : passage.delivery request = delivery)
    (hreached : delivery ≠ .lost) :
    ∃ token, passage.send request = (jwtChannel token passage.parseAndValidate).send request ∧
      (recordedError passage.parseAndValidate (some token) = none ↔ delivery = .answered) := by
  subst h
  cases hreaches : passage.reaches request with
  | false => exact absurd (delivery_lost_iff.mpr hreaches) hreached
  | true =>
    obtain ⟨⟨token, htoken⟩, hfilters⟩ := reaches_iff.mp hreaches
    refine ⟨token, send_reaches htoken hfilters, ?_⟩
    unfold Passage.delivery
    rw [hreaches, htoken, if_pos rfl]
    split
    · next haccepted => exact iff_of_true haccepted rfl
    · next hrefused => exact iff_of_false hrefused (by simp)

/-- With a token that the filter lets through, the backend answers. -/
theorem exchange_answered (h : passage.delivery request = .answered) :
    exchange passage.send request = exchange (directChannel jpaBackend).send request := by
  obtain ⟨token, hsend, haccepted⟩ := delivery_reached h (by simp)
  unfold exchange
  rw [hsend, send_accepted (haccepted.mpr rfl)]

/-- With a token that it does not let through, the backend serves the request before the
error comes back. -/
theorem exchange_unanswered (h : passage.delivery request = .unanswered) (db : H2) :
    ∃ ex, exchange passage.send request db = .error ex (jpaBackend.serve request db).2 := by
  obtain ⟨token, hsend, haccepted⟩ := delivery_reached h (by simp)
  have hrefused : recordedError passage.parseAndValidate (some token) ≠ none := by
    rw [ne_eq, haccepted]
    simp
  obtain ⟨recorded, hrecorded⟩ := Option.ne_none_iff_exists'.mp hrefused
  obtain ⟨status, hge, hstatus⟩ := send_refused hrecorded request db
  rw [← hsend] at hstatus
  exact ⟨_, BearerLemmas.exchange_of_error hstatus hge⟩

/-- To its sender, a request that is not answered fails. -/
theorem exchange_fails (h : passage.delivery request ≠ .answered) (db : H2) :
    ∃ ex db', exchange passage.send request db = .error ex db' := by
  cases hdelivery : passage.delivery request with
  | answered => exact absurd hdelivery h
  | lost =>
    obtain ⟨ex, hfail⟩ := exchange_lost (delivery_lost_iff.mp hdelivery) db
    exact ⟨ex, db, hfail⟩
  | unanswered =>
    obtain ⟨ex, hfail⟩ := exchange_unanswered hdelivery db
    exact ⟨ex, _, hfail⟩

/-- What does not reach the filter gets lost. -/
theorem passage_lossy (passage : Passage) :
    Lossy jpaBackend passage.send id fun _ request => passage.reaches request where
  reached db _ hreaches := exchange_reached hreaches db
  lost db request hlost := by
    obtain ⟨ex, hfail⟩ := exchange_lost hlost db
    exact ⟨ex, db, hfail, rfl⟩

end PassageLemmas

open PassageLemmas

/-! ## 2. The same way for all requests -/

namespace PassageLemmas

variable {ρ : Type} {send send' : Request → EStateM Failure ρ Response}
  {conversion : Conversion} {request : PageRequest}

theorem findAll_congr (h : exchange send .getTasks = exchange send' .getTasks) :
    (tasksService send).findAll = (tasksService send').findAll := by
  show exchange send .getTasks >>= readTasks = exchange send' .getTasks >>= readTasks
  rw [h]

theorem getOne_congr {id : Long}
    (h : exchange send (.getTask (some id)) = exchange send' (.getTask (some id))) :
    (tasksService send).getOne id = (tasksService send').getOne id := by
  show exchange send (.getTask (some id)) >>= readTask =
    exchange send' (.getTask (some id)) >>= readTask
  rw [h]

theorem call_congr {write : Write}
    (h : exchange send write.request = exchange send' write.request) :
    write.call (tasksService send) = write.call (tasksService send') := by
  cases write with
  | save task =>
    show (exchange send (Write.save task).request >>= readTask) >>= (fun _ => pure ()) =
      (exchange send' (Write.save task).request >>= readTask) >>= fun _ => pure ()
    rw [h]
  | deleteById id =>
    show exchange send (Write.deleteById id).request >>= (fun _ => pure ()) =
      exchange send' (Write.deleteById id).request >>= fun _ => pure ()
    rw [h]

/-- Handlers whose requests are answered alike do alike. -/
theorem dispatch_congr
    (h : ∀ asked ∈ request.asks conversion, exchange send asked = exchange send' asked) :
    TasksController.dispatch (tasksService send) conversion request =
      TasksController.dispatch (tasksService send') conversion request := by
  obtain ⟨write, hwrite, -, hasks⟩ | ⟨view, -, hasks, hdispatch⟩ | ⟨id, -, hasks, hdispatch⟩ |
    ⟨view, -, -, hdispatch⟩ | ⟨ex, -, -, hdispatch⟩ :=
      ConcurrencyLemmas.page_cases conversion request
  · rw [hasks] at h
    rw [dispatch_of_write hwrite, dispatch_of_write hwrite, call_congr (h _ (by simp)),
      findAll_congr (h _ (by simp))]
  · rw [hasks] at h
    rw [hdispatch, hdispatch, findAll_congr (h _ (by simp))]
  · rw [hasks] at h
    rw [hdispatch, hdispatch, getOne_congr (h _ (by simp))]
  · rw [hdispatch, hdispatch]
  · rw [hdispatch, hdispatch]

/-- A handler one of whose requests fails, whatever it meets, shows the error page. -/
theorem page_fails {asked : Request} (hasked : asked ∈ request.asks conversion)
    (hfails : ∀ world, ∃ ex world', exchange send asked world = .error ex world') (world : ρ) :
    ∃ ex, (servePage (tasksService send) conversion request world).1 = .error ex := by
  have herror : ∀ {ex world'},
      TasksController.dispatch (tasksService send) conversion request world = .error ex world' →
      ∃ ex, (servePage (tasksService send) conversion request world).1 = .error ex := by
    intro ex world' hdispatch
    exact ⟨ex, by rw [servePage_of_error hdispatch]⟩
  obtain ⟨write, hwrite, -, hasks⟩ | ⟨view, -, hasks, hdispatch⟩ | ⟨id, -, hasks, hdispatch⟩ |
    ⟨view, -, hasks, -⟩ | ⟨ex, -, hasks, -⟩ := ConcurrencyLemmas.page_cases conversion request
  · rw [hasks, List.mem_cons, List.mem_singleton] at hasked
    obtain rfl | rfl := hasked
    · obtain ⟨ex, world', hfail⟩ := hfails world
      exact ⟨ex, by rw [ChannelLemmas.page_of_write_error conversion hwrite hfail]⟩
    · rw [dispatch_of_write hwrite] at herror
      cases hcall : write.call (tasksService send) world with
      | error ex world' => exact herror (bind_of_error hcall)
      | ok u world' =>
        obtain ⟨ex, world'', hfail⟩ := hfails world'
        exact herror ((bind_of_ok hcall).trans (bind_of_error (bind_of_error hfail)))
  · obtain rfl := List.mem_singleton.mp (hasks ▸ hasked)
    rw [hdispatch] at herror
    obtain ⟨ex, world', hfail⟩ := hfails world
    exact herror (bind_of_error (bind_of_error hfail))
  · obtain rfl := List.mem_singleton.mp (hasks ▸ hasked)
    rw [hdispatch] at herror
    obtain ⟨ex, world', hfail⟩ := hfails world
    exact herror (bind_of_error (bind_of_error hfail))
  · rw [hasks] at hasked
    cases hasked
  · rw [hasks] at hasked
    cases hasked

end PassageLemmas

/-- Where all requests of the JWT demo meet the same on their way, the store is the one
that the page requests whose writes reach the filter leave without the filters. After
any page requests, one all of whose requests are answered does and shows what it does
and shows without the filters, and every other one shows the error page. -/
theorem jwt_pages_run (passage : Passage) (conversion : Conversion) (db : H2)
    (requests : List PageRequest) :
    let demo := (tasksService passage.send).pages conversion
    let direct := (directChannel jpaBackend).pages conversion
    let reaching := requests.filter fun request =>
      (request.write conversion).any fun write => passage.reaches write.request
    demo.run db requests = direct.run db reaching ∧
    ∀ request,
      let db' := demo.run db requests
      ((∀ asked ∈ request.asks conversion, passage.delivery asked = .answered) →
        demo.step db' request = direct.step db' request) ∧
      ((∃ asked ∈ request.asks conversion, passage.delivery asked ≠ .answered) →
        ∃ ex, (demo.step db' request).1 = .error ex) := by
  intro demo direct reaching
  refine ⟨?_, fun request => ⟨fun hanswered => ?_, fun hnot => ?_⟩⟩
  · have hrun := lossy_run conversion (passage_lossy passage) db requests
    exact hrun.trans (congrArg (direct.run db) (Machine.kept_const _ db requests))
  · have hdispatch := dispatch_congr fun asked hasked => exchange_answered (hanswered asked hasked)
    show servePage _ conversion request _ = servePage _ conversion request _
    unfold servePage
    rw [hdispatch]
    rfl
  · obtain ⟨asked, hasked, hdelivery⟩ := hnot
    exact page_fails hasked (exchange_fails hdelivery) _

/-- What the filter against CSRF answers to the frontend, which sends no CSRF token. -/
def csrfFilter : Request → Option { status : Nat // 400 ≤ status }
  | .getTasks | .getTask _ => none
  | .createBook _ | .deleteTask _ => some ⟨403, by decide⟩

/-- A token as the interceptor of the demo sends it, without the scheme, is not let
through, though the bundle accepts every token. A deletion ends in the error page, and
the task is gone, unless the filter against CSRF stops the deletion. The form for a new
task asks for nothing and is shown. -/
theorem jwt_delete_refused :
    let demo filters :=
      (tasksService (Passage.mk (some "a.b.c") filters fun _ => .ok ()).send).pages .decimal
    let direct := (directChannel jpaBackend).pages .decimal
    (demo csrfFilter).run H2.seeded [.delete (some 1)] = H2.seeded ∧
    (demo fun _ => none).run H2.seeded [.delete (some 1)] =
      direct.run H2.seeded [.delete (some 1)] ∧
    ((demo csrfFilter).step H2.seeded (.newTask [])).1 = .addTask {} ∧
    (∃ ex, ((demo csrfFilter).step H2.seeded (.delete (some 1))).1 = .error ex) ∧
    ∃ ex, ((demo fun _ => none).step H2.seeded (.delete (some 1))).1 = .error ex := by
  intro demo direct
  have hcsrf := jwt_pages_run ⟨some "a.b.c", csrfFilter, fun _ => .ok ()⟩ .decimal H2.seeded
  have hopen := jwt_pages_run ⟨some "a.b.c", fun _ => none, fun _ => .ok ()⟩ .decimal H2.seeded
  refine ⟨(hcsrf [.delete (some 1)]).1, (hopen [.delete (some 1)]).1, ?_, ?_, ?_⟩
  · exact congrArg Prod.fst (((hcsrf []).2 (.newTask [])).1 fun _ h => by cases h)
  · exact ((hcsrf []).2 (.delete (some 1))).2 ⟨_, List.mem_cons_self, by decide⟩
  · exact ((hopen []).2 (.delete (some 1))).2 ⟨_, List.mem_cons_self, by decide⟩

/-! ## 3. Another way for each request -/

/-- The next request meets the next passage. -/
def sendNext (request : Request) : EStateM Failure (H2 × Stream' Passage) Response :=
  fun world => (world.2.head.send request world.1).beside world.2.tail

/-- The JWT demo, one page request after another. -/
def jwtDemo (conversion : Conversion) : Machine (H2 × Stream' Passage) PageRequest View :=
  (tasksService sendNext).pages conversion

/-- The same store, and the plan that the passages make. -/
def Planned (world : H2 × Stream' Passage) (world' : H2 × Plan) : Prop :=
  world.1 = world'.1 ∧ world.2.map Passage.delivery = world'.2

namespace PassageLemmas

/-- What is beside the state of a request stays there. -/
theorem exchange_beside {σ ρ : Type} {send : Request → EStateM Failure (σ × ρ) Response}
    {send' : Request → EStateM Failure σ Response} {request : Request} {s : σ} {p p' : ρ}
    (h : send request (s, p) = (send' request s).beside p') :
    exchange send request (s, p) = (exchange send' request s).beside p' := by
  cases hsend : send' request s with
  | error ex s' =>
    rw [hsend] at h
    have hexchange : exchange send request (s, p) = .error ex (s', p') := bind_of_error h
    have hexchange' : exchange send' request s = .error ex s' := bind_of_error hsend
    rw [hexchange, hexchange']
    rfl
  | ok response s' =>
    rw [hsend] at h
    have h : send request (s, p) = .ok response (s', p') := h
    unfold exchange
    rw [bind_of_ok h, bind_of_ok hsend]
    split <;> rfl

/-- What a passage makes of a request is what a network makes of it. -/
theorem exchange_alike (passage : Passage) (request : Request) {delivery : Delivery}
    (h : passage.delivery request = delivery) (db : H2) :
    (exchange passage.send request db).Alike Eq
      (exchange (fun request => delivery.result ((directChannel jpaBackend).send request))
        request db) := by
  cases delivery with
  | answered =>
    rw [exchange_answered h]
    exact ⟨rfl, rfl⟩
  | lost =>
    obtain ⟨ex, hfail⟩ := exchange_lost (delivery_lost_iff.mp h) db
    rw [hfail]
    exact ⟨rfl, rfl⟩
  | unanswered =>
    obtain ⟨ex, hfail⟩ := exchange_unanswered h db
    rw [hfail]
    exact ⟨rfl, rfl⟩

theorem exchange_next (request : Request) (world : H2 × Stream' Passage) :
    exchange sendNext request world =
      (exchange world.2.head.send request world.1).beside world.2.tail := exchange_beside rfl

/-- A request of the demo is a request over the network. -/
theorem exchange_planned (request : Request) :
    (alike Failure Planned).Rel (exchange sendNext request)
      (exchange (directChannel jpaBackend).networkSend request) := by
  rintro ⟨db, passages⟩ ⟨-, -⟩ ⟨rfl, rfl⟩
  have hnetwork : exchange (directChannel jpaBackend).networkSend request
        (db, passages.map Passage.delivery) =
      (exchange (fun request' => (passages.head.delivery request).result
        ((directChannel jpaBackend).send request')) request db).beside
          (passages.map Passage.delivery).tail := exchange_beside rfl
  obtain ⟨hvalue, hstate⟩ := exchange_alike passages.head request rfl db
  rw [exchange_next, hnetwork]
  refine ⟨by simpa using hvalue, ?_⟩
  rw [Result.state_beside, Result.state_beside]
  exact ⟨hstate, rfl⟩

end PassageLemmas

/-- Whatever the requests meet on their way, the JWT demo leaves the store that the
backend without the filters leaves over a network that loses each request that does not
reach `JwtRequestFilter`, and the answer to each whose token is refused. The same pages
are shown, and error pages for the same requests. -/
theorem jwt_demo_network (conversion : Conversion) (db : H2) (passages : Stream' Passage)
    (requests : List PageRequest) :
    let demo := jwtDemo conversion
    let lossy := network (directChannel jpaBackend) conversion
    let plan := passages.map Passage.delivery
    (demo.run (db, passages) requests).1 = (lossy.run (db, plan) requests).1 ∧
    List.Forall₂ (fun p q => SameView p.2 q.2) (demo.trace (db, passages) requests)
      (lossy.trace (db, plan) requests) := by
  intro demo lossy plan
  have hstart : Planned (db, passages) (db, plan) := ⟨rfl, rfl⟩
  obtain ⟨hrun, hviews⟩ := pages_related (related_of_exchange exchange_planned) conversion
    hstart requests
  exact ⟨hrun.1, hviews⟩

/-! ## 4. Writes that reached the filter -/

/-- The request reaches the filter if it is sent next. -/
def reachesFilter (world : H2 × Stream' Passage) (request : Request) : Bool :=
  world.2.head.reaches request

namespace PassageLemmas

theorem demo_lossy : Lossy jpaBackend sendNext Prod.fst reachesFilter where
  reached world request hreaches := by
    rw [exchange_next, Result.state_beside]
    exact exchange_reached hreaches world.1
  lost world request hlost := by
    obtain ⟨ex, hfail⟩ := exchange_lost hlost world.1
    refine ⟨ex, (world.1, world.2.tail), ?_, rfl⟩
    rw [exchange_next, hfail]
    rfl

end PassageLemmas

/-- Whatever the requests meet on their way, the JWT demo leaves the store that those
page requests leave without the filters whose writes had a token and reached
`JwtRequestFilter`. -/
theorem jwt_demo_store (conversion : Conversion) (db : H2) (passages : Stream' Passage)
    (requests : List PageRequest) :
    let reaching := (jwtDemo conversion).kept (carriedOut conversion reachesFilter)
      (db, passages) requests
    ((jwtDemo conversion).run (db, passages) requests).1 =
      ((directChannel jpaBackend).pages conversion).run db reaching :=
  lossy_run conversion demo_lossy (db, passages) requests

end SpiffeTasks
