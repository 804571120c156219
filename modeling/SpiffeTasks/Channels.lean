import SpiffeTasks.Services

/-!
# The pages over the channels

The demos have the same frontend. What it sends comes to the backend as it is, or with a
filter before the backend that looks at it, or does not come to the backend at all.

1. `channel_run`: over every channel, the same page requests leave the same store, and
   show the same pages or error pages.
2. `lossy_run`: where requests get lost on the way, the store is the one that the page
   requests leave whose writes reach the backend.
-/

namespace SpiffeTasks

open EStateM

/-! ## 1. Any channel -/

section Channels

variable {σ : Type} {backend : Backend σ} (channel : Channel backend) (conversion : Conversion)

namespace ChannelLemmas

section Write

variable {ρ : Type} {send : Request → EStateM Failure ρ Response}

/-- A write does what its request does. -/
theorem call_state (write : Write) (world : ρ) :
    (write.call (tasksService send) world).state =
      (exchange send write.request world).state := by
  cases write with
  | save task =>
    rw [Write.call_save_state]
    exact state_bind_of_keeps ServiceLemmas.readTask_keeps world
  | deleteById id => exact state_bind_of_keeps (fun _ => keeps_pure _) world

/-- A page request whose write fails shows the failure. -/
theorem page_of_write_error {request : PageRequest} {write : Write}
    (hwrite : request.write conversion = some write) {world world' : ρ} {ex : Failure}
    (h : exchange send write.request world = .error ex world') :
    servePage (tasksService send) conversion request world = (.error ex, world') := by
  have hcall : write.call (tasksService send) world = .error ex world' := by
    cases write with
    | save task => exact bind_of_error (bind_of_error h)
    | deleteById id => exact bind_of_error h
  refine servePage_of_error ?_
  rw [dispatch_of_write hwrite]
  exact bind_of_error hcall

end Write

/-- A request that goes through a channel has the answer of the backend. -/
theorem exchange_agrees (request : Request) :
    AgreesOnSuccess (exchange channel.send request)
      (exchange (directChannel backend).send request) := by
  intro s body s' h
  have hstate := channel.exchange_state request s
  rw [h] at hstate
  obtain ⟨response, hsend, hstatus, hbody⟩ :=
    ServiceLemmas.exchange_value (congrArg Result.value? h)
  have hresponse := channel.send_value request s response hsend hstatus
  have hsent : (directChannel backend).send request s = .ok response s' := by
    show Result.ok (backend.serve request s).1 (backend.serve request s).2 = _
    rw [← hresponse, ← hstate]
    rfl
  unfold exchange
  rw [bind_of_ok hsent, if_neg (Nat.not_le.mpr hstatus), ← hbody]
  rfl

/-- What a handler shows over a channel, it shows of the backend itself. -/
theorem dispatch_agrees (request : PageRequest) :
    AgreesOnSuccess (TasksController.dispatch channel.service conversion request)
      (TasksController.dispatch (directChannel backend).service conversion request) := by
  have hservice : channel.service.Related (agreesOnSuccess Failure σ)
      (directChannel backend).service := related_of_exchange (exchange_agrees channel)
  exact dispatch_related hservice conversion request

/-- Over a channel a write does to the store what its request does. -/
theorem write_state (write : Write) (s : σ) :
    (write.call channel.service s).state = (backend.serve write.request s).2 :=
  (call_state write s).trans (channel.exchange_state write.request s)

/-- The channel has no part in what a request does to the store. -/
theorem page_state (request : PageRequest) (s : σ) :
    (servePage channel.service conversion request s).2 =
      (servePage (directChannel backend).service conversion request s).2 := by
  cases hwrite : request.write conversion with
  | none =>
    rw [servePage_state_of_read channel conversion hwrite,
      servePage_state_of_read (directChannel backend) conversion hwrite]
  | some write =>
    rw [servePage_state_of_write channel conversion hwrite,
      servePage_state_of_write (directChannel backend) conversion hwrite, write_state, write_state]

theorem page_view (request : PageRequest) (s : σ) :
    (servePage channel.service conversion request s).1 =
        (servePage (directChannel backend).service conversion request s).1 ∨
      ∃ ex, (servePage channel.service conversion request s).1 = .error ex := by
  cases hdispatch : TasksController.dispatch channel.service conversion request s with
  | error ex s' => exact .inr ⟨ex, by rw [servePage_of_error hdispatch]⟩
  | ok view s' =>
    have hdirect := dispatch_agrees channel conversion request s view s' hdispatch
    rw [servePage_of_ok hdispatch, servePage_of_ok hdirect]
    exact .inl rfl

end ChannelLemmas

open ChannelLemmas

/-- Over every channel, page requests leave the store that they leave of the backend
itself, and each of them shows what it shows there, or an error page. -/
theorem channel_run (s : σ) (requests : List PageRequest) :
    (channel.pages conversion).run s requests =
      ((directChannel backend).pages conversion).run s requests ∧
    List.Forall₂ (fun p q => p.2 = q.2 ∨ ∃ ex, p.2 = .error ex)
      ((channel.pages conversion).trace s requests)
      (((directChannel backend).pages conversion).trace s requests) := by
  constructor
  · exact Machine.run_congr (fun s request => page_state channel conversion request s) s requests
  · refine (Machine.trace_alike_iff Eq (fun v v' => v = v' ∨ ∃ ex, v = View.error ex)
      (fun _ _ => True) ?_ ?_ rfl).mpr (Machine.admitted_true s requests)
    · rintro s t request rfl
      exact iff_of_true (page_view channel conversion request s) trivial
    · rintro s t request rfl -
      exact page_state channel conversion request s

/-! ## 2. Requests that get lost -/

variable {ρ : Type} (backend) (send : Request → EStateM Failure ρ Response)

/-- What `reaches` the backend has its effect there. Everything else fails, and has
none. The sender's world has the state of the backend as its `store`. -/
structure Lossy (store : ρ → σ) (reaches : ρ → Request → Bool) : Prop where
  reached : ∀ world request, reaches world request = true →
    store (exchange send request world).state = (backend.serve request (store world)).2
  lost : ∀ world request, reaches world request = false →
    ∃ ex world', exchange send request world = .error ex world' ∧ store world' = store world

/-- The page request writes, and its write, which its handler sends first, reaches the
backend. -/
def carriedOut (reaches : ρ → Request → Bool) (world : ρ) (request : PageRequest) : Bool :=
  (request.write conversion).any fun write => reaches world write.request

namespace LossyLemmas

variable {backend send} {store : ρ → σ} {reaches : ρ → Request → Bool}
  (h : Lossy backend send store reaches)
include h

theorem exchange_keeps {request : Request} (hkeeps : ∀ s, (backend.serve request s).2 = s)
    (world : ρ) : store (exchange send request world).state = store world := by
  cases hreaches : reaches world request with
  | true => exact (h.reached world request hreaches).trans (hkeeps _)
  | false =>
    obtain ⟨ex, world', hfail, hstore⟩ := h.lost world request hreaches
    rw [hfail]
    exact hstore

theorem findAll_keeps (world : ρ) :
    store ((tasksService send).findAll world).state = store world := by
  have hstate : ((tasksService send).findAll world).state =
      (exchange send .getTasks world).state :=
    state_bind_of_keeps ServiceLemmas.readTasks_keeps world
  rw [hstate]
  exact exchange_keeps h backend.getTasks_state world

theorem getOne_keeps (id : Long) (world : ρ) :
    store ((tasksService send).getOne id world).state = store world := by
  have hstate : ((tasksService send).getOne id world).state =
      (exchange send (.getTask (some id)) world).state :=
    state_bind_of_keeps ServiceLemmas.readTask_keeps world
  rw [hstate]
  exact exchange_keeps h (fun s => congrArg Prod.snd (backend.getTask_eq id s)) world

variable {conversion}

/-- A page request that reads leaves the store as it is. -/
theorem read_store {request : PageRequest} (hread : request.write conversion = none)
    (world : ρ) :
    store (servePage (tasksService send) conversion request world).2 = store world := by
  rw [servePage_state]
  obtain hstate | ⟨id, hstate⟩ | hstate := dispatch_read_state hread world
  · rw [hstate]
    exact findAll_keeps h world
  · rw [hstate]
    exact getOne_keeps h id world
  · rw [hstate]

/-- A page request that writes does to the store what the request of its write does. -/
theorem write_store {request : PageRequest} {write : Write}
    (hwrite : request.write conversion = some write) (world : ρ) :
    store (servePage (tasksService send) conversion request world).2 =
      store (exchange send write.request world).state := by
  rw [servePage_state, dispatch_of_write hwrite, ← ChannelLemmas.call_state]
  cases hcall : write.call (tasksService send) world with
  | error ex world' =>
    rw [bind_of_error hcall]
    rfl
  | ok u world' =>
    rw [bind_of_ok hcall]
    have hstate : (((tasksService send).findAll >>= fun _ => pure View.redirectTasks :
        EStateM Failure ρ View) world').state = ((tasksService send).findAll world').state :=
      state_bind_of_keeps (fun _ => keeps_pure _) world'
    rw [hstate]
    exact findAll_keeps h world'

/-- What is carried out does to the store what it does without anything on the way. -/
theorem page_carriedOut {request : PageRequest} {world : ρ}
    (hdone : carriedOut conversion reaches world request = true) :
    store (servePage (tasksService send) conversion request world).2 =
      (((directChannel backend).pages conversion).step (store world) request).2 := by
  obtain ⟨write, hwrite, hreaches⟩ := (Option.any_eq_true _ _).mp hdone
  rw [write_store h hwrite, h.reached world write.request hreaches]
  exact ((servePage_state_of_write (directChannel backend) conversion hwrite _).trans
    (ChannelLemmas.write_state (directChannel backend) write _)).symm

/-- What is not carried out leaves it as it is. -/
theorem page_not_carriedOut {request : PageRequest} {world : ρ}
    (hnot : carriedOut conversion reaches world request = false) :
    store (servePage (tasksService send) conversion request world).2 = store world := by
  cases hwrite : request.write conversion with
  | none => exact read_store h hwrite world
  | some write =>
    have hlost : reaches world write.request = false := by
      unfold carriedOut at hnot
      rwa [hwrite] at hnot
    obtain ⟨ex, world', hfail, hstore⟩ := h.lost world write.request hlost
    rw [write_store h hwrite, hfail]
    exact hstore

end LossyLemmas

variable {backend send}

/-- Where requests get lost, page requests leave the store that those of them leave
which are carried out, with nothing on the way. -/
theorem lossy_run {store : ρ → σ} {reaches : ρ → Request → Bool}
    (h : Lossy backend send store reaches) (world : ρ) (requests : List PageRequest) :
    let pages := (tasksService send).pages conversion
    store (pages.run world requests) = ((directChannel backend).pages conversion).run (store world)
      (pages.kept (carriedOut conversion reaches) world requests) := by
  intro pages
  refine Machine.run_kept_rel (R := fun world s => store world = s) ?_ ?_ rfl requests
  · rintro world s request rfl hdone
    exact LossyLemmas.page_carriedOut h hdone
  · rintro world s request rfl hnot
    exact LossyLemmas.page_not_carriedOut h hnot

end Channels

end SpiffeTasks
