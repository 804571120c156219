import Mathlib.Data.Stream.Init
import SpiffeTasks.Channels

/-!
# Requests that get lost

Between the frontend and the backend a request can be lost, and so can the answer to a
request that was served. The frontend sees the same exception in both cases.

1. `network`: the frontend over a network with a plan of what becomes of each call,
   whatever it asks for.
2. `network_run`: over every plan, the store is that of the page requests whose writes
   arrived, and a write that did not is never shown as done.
3. `resent_board`: page requests that are sent again until there is no error page come
   to the same as if each were sent once, where they edit or delete stored tasks.
-/

namespace SpiffeTasks

open EStateM

/-! ## 1. The network -/

/-- What becomes of a call. -/
inductive Delivery
  | answered
  /-- The request does not arrive. -/
  | lost
  /-- The request is served, and the response does not arrive. -/
  | unanswered
  deriving DecidableEq

section Network

variable {σ α : Type}

/-- What the caller sees of a call, and the state that is left. -/
def Delivery.result (delivery : Delivery) (x : EStateM Failure σ α) (s : σ) :
    Result Failure σ α :=
  match delivery with
  | .answered => x s
  | .lost => .error .unavailable s
  | .unanswered => .error .unavailable (x s).state

/-- What will become of the next calls, each by what it asks for. -/
abbrev Plan := Stream' (Request → Delivery)

/-- A request over a network, as the plan says. -/
def overNetwork (request : Request) (x : EStateM Failure σ α) : EStateM Failure (σ × Plan) α :=
  fun world => ((world.2.head request).result x world.1).beside world.2.tail

/-- The request is lost if it is sent next. -/
def Lost (plan : Plan) (request : Request) : Prop := plan.head request = .lost

instance (plan : Plan) (request : Request) : Decidable (Lost plan request) :=
  inferInstanceAs (Decidable (plan.head request = .lost))

namespace NetworkLemmas

theorem overNetwork_eq (x : EStateM Failure σ α) {request : Request} {world : σ × Plan}
    {delivery : Delivery} (h : world.2.head request = delivery) :
    overNetwork request x world = (delivery.result x world.1).beside world.2.tail := by
  rw [overNetwork, h]

/-- A request that is not lost has its effect. -/
theorem overNetwork_state (x : EStateM Failure σ α) {request : Request} {world : σ × Plan}
    (h : ¬ Lost world.2 request) :
    (overNetwork request x world).state.1 = (x world.1).state := by
  cases hhead : world.2.head request with
  | answered => simp [overNetwork_eq x hhead, Delivery.result]
  | lost => exact absurd hhead h
  | unanswered => simp [overNetwork_eq x hhead, Delivery.result]

end NetworkLemmas

variable {backend : Backend σ} (channel : Channel backend) (conversion : Conversion)

/-- A request that goes through a channel over a network. -/
def Channel.networkSend (request : Request) : EStateM Failure (σ × Plan) Response :=
  overNetwork request (channel.send request)

/-- The service of a channel over a network. -/
def Channel.networkService : TasksService (σ × Plan) := tasksService channel.networkSend

/-- The frontend over a network, one page request after another. -/
def network : Machine (σ × Plan) PageRequest View where
  step world request := servePage channel.networkService conversion request world

/-! ## 2. What was carried out -/

/-- The request writes, and its write arrives: it is the first call of the handler. -/
def arrives (world : σ × Plan) (request : PageRequest) : Bool :=
  carriedOut conversion (fun world request => !decide (Lost world.2 request)) world request

namespace NetworkLemmas

open ServiceLemmas

theorem exchange_lost {request : Request} {world : σ × Plan} (h : Lost world.2 request) :
    exchange channel.networkSend request world =
      .error .unavailable (world.1, world.2.tail) :=
  bind_of_error (overNetwork_eq (channel.send request) h)

/-- A network is a way on which requests get lost. -/
theorem network_lossy : Lossy backend channel.networkSend Prod.fst
    fun world request => !decide (Lost world.2 request) where
  reached world request harrives := by
    have harrives : ¬ Lost world.2 request := by simpa using harrives
    rw [exchange_state]
    exact (overNetwork_state _ harrives).trans (channel.send_state request world.1)
  lost world request hlost := by
    have hlost : Lost world.2 request := by simpa using hlost
    exact ⟨_, _, exchange_lost channel hlost, rfl⟩

/-- A page request whose write arrives does to the store what it does without a
network. -/
theorem network_arrives {request : PageRequest} {world : σ × Plan}
    (h : arrives conversion world request = true) :
    ((network channel conversion).step world request).2.1 =
      ((channel.pages conversion).step world.1 request).2 := by
  have hdirect := LossyLemmas.page_carriedOut (network_lossy channel) h
  exact hdirect.trans (ChannelLemmas.page_state channel conversion request world.1).symm

/-- Every other one leaves the store as it is. -/
theorem network_not_arrives {request : PageRequest} {world : σ × Plan}
    (h : arrives conversion world request = false) :
    ((network channel conversion).step world request).2.1 = world.1 :=
  LossyLemmas.page_not_carriedOut (network_lossy channel) h

/-- A write that does not arrive ends in the error page. -/
theorem view_of_lost {request : PageRequest} {world : σ × Plan} {write : Write}
    (hwrite : request.write conversion = some write)
    (h : arrives conversion world request = false) :
    ((network channel conversion).step world request).1 = .error .unavailable := by
  have hlost : Lost world.2 write.request := by
    unfold arrives carriedOut at h
    simpa [hwrite] using h
  exact congrArg Prod.fst
    (ChannelLemmas.page_of_write_error conversion hwrite (exchange_lost channel hlost))

end NetworkLemmas

open NetworkLemmas

/-- Whatever becomes of the calls, the store is the one that the page requests whose
writes arrived leave by themselves, without a network. A request whose write does not
arrive ends in the error page, after any others. -/
theorem network_run (s : σ) (plan : Plan) (requests : List PageRequest) :
    let carriedOut := (network channel conversion).kept (arrives conversion) (s, plan) requests
    ((network channel conversion).run (s, plan) requests).1 =
      (channel.pages conversion).run s carriedOut ∧
    carriedOut.Sublist requests ∧
    ∀ request,
      let world := (network channel conversion).run (s, plan) requests
      arrives conversion world request = true ∨ request.write conversion = none ∨
        ((network channel conversion).step world request).1 = .error .unavailable := by
  intro carriedOut
  refine ⟨?_, Machine.kept_sublist _ _ _, fun request => ?_⟩
  · exact (lossy_run conversion (network_lossy channel) (s, plan) requests).trans
      (channel_run channel conversion s carriedOut).1.symm
  · intro world
    cases hwrite : request.write conversion with
    | none => exact .inr (.inl rfl)
    | some write =>
      cases harrives : arrives conversion world request with
      | true => exact .inl rfl
      | false => exact .inr (.inr (view_of_lost channel conversion hwrite harrives))

/-! ## 3. Sending again -/

/-- Each of the page requests is sent until the response is not the error page, and
then the next one. -/
inductive Resent : σ × Plan → List PageRequest → σ × Plan → Prop
  | done {world : σ × Plan} : Resent world [] world
  | again {world world' : σ × Plan} {request : PageRequest}
      {requests : List PageRequest} :
      (∃ ex, ((network channel conversion).step world request).1 = .error ex) →
      Resent ((network channel conversion).step world request).2 (request :: requests) world' →
      Resent world (request :: requests) world'
  | next {world world' : σ × Plan} {request : PageRequest}
      {requests : List PageRequest} :
      (∀ ex, ((network channel conversion).step world request).1 ≠ .error ex) →
      Resent ((network channel conversion).step world request).2 requests world' →
      Resent world (request :: requests) world'

/-- The request does not write, or it deletes a task, or saves one under the id of a
stored task, or under an id that the backend always takes. -/
def Pinned (backend : Backend σ) (s : σ) (request : PageRequest) : Prop :=
  ∀ task, request.write conversion = some (.save task) →
    backend.board s task.id ≠ none ∨ ∀ s', backend.target s' (some task.id) = some task.id

namespace NetworkLemmas

/-- What a page request does to the board, where the id of a saved task is taken. -/
def effect (request : PageRequest) (board : Board) : Board :=
  match request.write conversion with
  | none => board
  | some (.save task) => board.put task.id task.row
  | some (.deleteById id) => board.remove id

theorem effect_effect (request : PageRequest) (board : Board) :
    effect conversion request (effect conversion request board) =
      effect conversion request board := by
  unfold effect
  cases request.write conversion with
  | none => rfl
  | some write =>
    cases write with
    | save task => exact PartialMap.put_put
    | deleteById id => exact PartialMap.remove_eq_self_iff.mpr PartialMap.remove_same

/-- A pinned request does the same to every board that has the stored task. -/
theorem pages_effect {request : PageRequest} {s t : σ}
    (hpinned : Pinned conversion backend s request)
    (hboard : backend.board t = backend.board s ∨
      backend.board t = effect conversion request (backend.board s)) :
    backend.board ((channel.pages conversion).step t request).2 =
      effect conversion request (backend.board s) := by
  have hpage := servePage_board channel conversion request t
  have htwice : effect conversion request (backend.board t) =
      effect conversion request (backend.board s) := by
    obtain hsame | hdone := hboard
    · rw [hsame]
    · rw [hdone, effect_effect]
  rw [← htwice]
  refine hpage.trans ?_
  cases hwrite : request.write conversion with
  | none => simp [effect, hwrite]
  | some write =>
    cases write with
    | deleteById id => simp [effect, hwrite, Write.board]
    | save task =>
      have htarget : backend.target t (some task.id) = some task.id := by
        obtain hstored | halways := hpinned task hwrite
        · refine backend.target_stored t task.id ?_
          obtain hsame | hdone := hboard
          · rwa [hsame]
          · simp [hdone, effect, hwrite]
        · exact halways t
      simp [effect, hwrite, Write.board, htarget]

/-- Before a request is acknowledged, the board is as it was, or the request has been
carried out, however often. -/
def Underway (backend : Backend σ) (request : PageRequest) (s : σ)
    (world : σ × Plan) : Prop :=
  backend.board world.1 = backend.board s ∨
    backend.board world.1 = effect conversion request (backend.board s)

variable {conversion}

theorem underway_step {request : PageRequest} {s : σ} {world : σ × Plan}
    (hpinned : Pinned conversion backend s request)
    (h : Underway conversion backend request s world) :
    Underway conversion backend request s
      ((network channel conversion).step world request).2 := by
  cases harrives : arrives conversion world request with
  | true =>
    refine .inr ?_
    rw [network_arrives channel conversion harrives]
    exact pages_effect channel conversion hpinned h
  | false =>
    unfold Underway
    rw [network_not_arrives channel conversion harrives]
    exact h

/-- A request that is acknowledged has been carried out. -/
theorem acknowledged_board {request : PageRequest} {s : σ} {world : σ × Plan}
    (hpinned : Pinned conversion backend s request)
    (h : Underway conversion backend request s world)
    (hview : ∀ ex, ((network channel conversion).step world request).1 ≠ .error ex) :
    backend.board ((network channel conversion).step world request).2.1 =
      backend.board ((channel.pages conversion).step s request).2 := by
  rw [pages_effect channel conversion hpinned (.inl rfl)]
  cases harrives : arrives conversion world request with
  | true =>
    rw [network_arrives channel conversion harrives]
    exact pages_effect channel conversion hpinned h
  | false =>
    rw [network_not_arrives channel conversion harrives]
    cases hwrite : request.write conversion with
    | none =>
      have heffect : effect conversion request (backend.board s) = backend.board s := by
        simp [effect, hwrite]
      obtain hsame | hdone := h
      · rw [hsame, heffect]
      · exact hdone
    | some write =>
      exact absurd (view_of_lost channel conversion hwrite harrives) (hview _)

/-- The induction is on the sending; the run without a network is at `s`. -/
theorem resent_underway {world world' : σ × Plan} {requests : List PageRequest}
    (h : Resent channel conversion world requests world') {s : σ}
    (hpinned : (channel.pages conversion).Admitted (Pinned conversion backend) s requests)
    (hboard : backend.board world.1 = backend.board s ∨ ∃ request rest,
      requests = request :: rest ∧ Underway conversion backend request s world) :
    backend.board world'.1 = backend.board ((channel.pages conversion).run s requests) := by
  have hunderway : ∀ {request rest}, requests = request :: rest →
      Underway conversion backend request s world := by
    intro request rest hrequests
    obtain hsame | ⟨request', rest', hrequests', hunderway⟩ := hboard
    · exact .inl hsame
    · cases hrequests.symm.trans hrequests'
      exact hunderway
  induction h generalizing s with
  | done =>
    obtain hsame | ⟨request, rest, hrequests, -⟩ := hboard
    · exact hsame
    · cases hrequests
  | again herror hrest ih =>
    have hstep := underway_step channel hpinned.1 (hunderway rfl)
    refine ih hpinned (.inr ⟨_, _, rfl, hstep⟩) fun hrequests => ?_
    cases hrequests
    exact hstep
  | next hview hrest ih =>
    have hstep := acknowledged_board channel hpinned.1 (hunderway rfl) hview
    exact ih hpinned.2 (.inl hstep) fun _ => .inl hstep

end NetworkLemmas

/-- Sending page requests until they are acknowledged leaves the tasks that sending
each of them once without a network leaves, where every save of that run is pinned. -/
theorem resent_board {s : σ} {plan : Plan} {requests : List PageRequest}
    {world : σ × Plan} (h : Resent channel conversion (s, plan) requests world)
    (hpinned : (channel.pages conversion).Admitted (Pinned conversion backend) s requests) :
    backend.board world.1 = backend.board ((channel.pages conversion).run s requests) :=
  resent_underway channel h hpinned (.inl rfl)

end Network

/-- The first answer does not arrive, and everything else does. -/
def firstUnanswered : Plan :=
  Stream'.cons (fun _ => .unanswered) (Stream'.const fun _ => .answered)

/-- The answer to a deletion is lost and the deletion is sent again: task 1 is deleted,
as if it had been sent once. -/
theorem resent_delete :
    ∃ world, Resent (directChannel mongoBackend) .decimal (MongoDb.seeded, firstUnanswered)
        [.delete (some 1)] world ∧
      mongoBackend.board world.1 = mongoBackend.board
        (((directChannel mongoBackend).pages .decimal).run MongoDb.seeded [.delete (some 1)]) := by
  have hfirst : ((network (directChannel mongoBackend) .decimal).step
      (MongoDb.seeded, firstUnanswered) (.delete (some 1))).1 = .error .unavailable := by decide
  have hsecond : ((network (directChannel mongoBackend) .decimal).step
      ((network (directChannel mongoBackend) .decimal).step (MongoDb.seeded, firstUnanswered)
        (.delete (some 1))).2 (.delete (some 1))).1 = .redirectTasks := by decide
  have hresent := Resent.again ⟨_, hfirst⟩
    (Resent.next (fun ex h => by cases hsecond.symm.trans h) Resent.done)
  refine ⟨_, hresent, resent_board _ _ hresent ⟨fun task htask => ?_, trivial⟩⟩
  cases htask

end SpiffeTasks
