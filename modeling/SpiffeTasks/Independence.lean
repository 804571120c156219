import SpiffeTasks.TaskServer

/-!
# Requests about different tasks

A client that reads, saves and deletes under one id shares the backend with clients
that work on other tasks. As long as no task changes its id on the way into the store,
these do not get in its way.

1. `InPlace`: the requests that leave a task under its id.
2. `other_tasks_unseen`: between two runs of such requests that have the same requests
   about a task in the same order, there is no difference for who works on that task.
-/

namespace SpiffeTasks

/-! ## 1. Requests about one task -/

/-- The request names the id. The list is about no task in particular. -/
def Request.concerns (id : Long) : Request → Bool
  | .getTask taskId | .deleteTask taskId => taskId == some id
  | .createBook (some json) => json.id == some id
  | .createBook none | .getTasks => false

section Independence

variable {σ : Type} (server : TaskServer σ)

/-- A task that is saved has an id, and it is that of a stored task, or one that the
backend takes whatever is stored. -/
def InPlace (s : σ) : Request → Prop
  | .createBook (some json) => ∃ id, json.id = some id ∧
      (server.board s id ≠ none ∨ ∀ s', server.target s' (some id) = some id)
  | _ => True

namespace IndependenceLemmas

variable {server}

/-- A task that is saved in place keeps its id, also over any other store that has the
same task under it. -/
theorem target_of_inPlace {s t : σ} {json : TaskJson} {id : Long}
    (h : InPlace server s (.createBook (some json))) (hid : json.id = some id)
    (hsame : server.board s id = server.board t id) : server.target t (some id) = some id := by
  obtain ⟨id', hid', hplace⟩ := h
  cases hid.symm.trans hid'
  obtain hstored | halways := hplace
  · refine server.target_stored t id ?_
    rwa [← hsame]
  · exact halways t

/-- A request about a task is answered from what is stored of it. -/
theorem step_kept {id : Long} {s t : σ} (request : Request)
    (hsame : server.board s id = server.board t id) (h : InPlace server s request)
    (hkeep : request.concerns id = true) :
    (server.machine.step s request).1 = (server.machine.step t request).1 ∧
      server.board (server.machine.step s request).2 id =
        server.board (server.machine.step t request).2 id := by
  rw [server.board_effect, server.board_effect]
  cases request with
  | getTasks => cases hkeep
  | getTask taskId =>
    obtain rfl : taskId = some id := by simpa [Request.concerns] using hkeep
    refine ⟨?_, hsame⟩
    show (server.serve _ s).1 = (server.serve _ t).1
    rw [server.getTask_eq, server.getTask_eq, hsame]
  | createBook body =>
    cases body with
    | none => cases hkeep
    | some json =>
      have hid : json.id = some id := by simpa [Request.concerns] using hkeep
      have hs := target_of_inPlace h hid rfl
      have ht := target_of_inPlace h hid hsame
      constructor
      · show (server.serve _ s).1 = (server.serve _ t).1
        rw [server.createBook_fst, server.createBook_fst, hid, hs, ht]
      · show (server.target s json.id).elim (server.board s) _ id =
          (server.target t json.id).elim (server.board t) _ id
        rw [hid, hs, ht, Option.elim_some, Option.elim_some, PartialMap.put_same,
          PartialMap.put_same]
  | deleteTask taskId =>
    obtain rfl : taskId = some id := by simpa [Request.concerns] using hkeep
    constructor
    · show (server.serve _ s).1 = (server.serve _ t).1
      rw [server.deleteTask_fst, server.deleteTask_fst]
    · show (server.board s).remove id id = (server.board t).remove id id
      rw [PartialMap.remove_same, PartialMap.remove_same]

/-- A request about another task leaves it as it is. -/
theorem step_dropped {id : Long} {s : σ} (request : Request) (h : InPlace server s request)
    (hdrop : request.concerns id = false) :
    server.board (server.machine.step s request).2 id = server.board s id := by
  rw [server.board_effect]
  cases request with
  | getTasks | getTask taskId => rfl
  | createBook body =>
    cases body with
    | none => rfl
    | some json =>
      have hplace := h
      obtain ⟨key, hkey, -⟩ := hplace
      have htarget := target_of_inPlace h hkey rfl
      have hne : id ≠ key := by
        rintro rfl
        simp [Request.concerns, hkey] at hdrop
      show (server.target s json.id).elim (server.board s) _ id = _
      rw [hkey, htarget, Option.elim_some, PartialMap.put_of_ne hne]
  | deleteTask taskId =>
    cases taskId with
    | none => rfl
    | some key =>
      have hne : id ≠ key := by
        rintro rfl
        simp [Request.concerns] at hdrop
      exact PartialMap.remove_of_ne hne

/-- In a run in which every task is saved in place, the requests about the task `id`
are answered as if the others had not been made, and leave the same task there. -/
theorem about_task (id : Long) {s : σ} {requests : List Request}
    (h : server.machine.Admitted (InPlace server) s requests) :
    server.board (server.machine.run s requests) id =
      server.board (server.machine.run s (requests.filter (Request.concerns id))) id ∧
    (server.machine.trace s requests).filter (fun entry => entry.1.concerns id) =
      server.machine.trace s (requests.filter (Request.concerns id)) := by
  refine Machine.purged_rel (R := fun s t => server.board s id = server.board t id) ?_ ?_ rfl h
  · intro s t request hsame hplace hkeep
    exact step_kept request hsame hplace hkeep
  · intro s t request hsame hplace hdrop
    exact (step_dropped request hplace hdrop).trans hsame

end IndependenceLemmas

open IndependenceLemmas

/-! ## 2. The requests about other tasks -/

/-- Two runs in which every task is saved in place, and which have the same requests
about the task `id` in the same order: these requests are answered alike, and the same
is stored under `id` at the end, whatever else the runs ask for. -/
theorem other_tasks_unseen (id : Long) {s : σ} {requests requests' : List Request}
    (h : server.machine.Admitted (InPlace server) s requests)
    (h' : server.machine.Admitted (InPlace server) s requests')
    (hsame : requests.filter (Request.concerns id) = requests'.filter (Request.concerns id)) :
    (server.machine.trace s requests).filter (fun entry => entry.1.concerns id) =
      (server.machine.trace s requests').filter (fun entry => entry.1.concerns id) ∧
    server.board (server.machine.run s requests) id =
      server.board (server.machine.run s requests') id := by
  obtain ⟨hboard, htrace⟩ := about_task id h
  obtain ⟨hboard', htrace'⟩ := about_task id h'
  rw [hboard, hboard', htrace, htrace', hsame]
  exact ⟨rfl, rfl⟩

end Independence

/-- In the seeded JPA demo, one client reads and deletes task 1 while others write the
tasks 2 and 3, in two different ways. -/
theorem other_tasks_unseen_one :
    let requests := [.getTask (some 1), .createBook (some ⟨some 2, some "Review", none⟩),
      .deleteTask (some 1)]
    let requests' := [.deleteTask (some 2), .createBook (some ⟨some 3, none, some true⟩),
      .getTask (some 1), .getTasks, .deleteTask (some 1)]
    (jpaServer.machine.trace H2.seeded requests).filter (fun entry => entry.1.concerns 1) =
      (jpaServer.machine.trace H2.seeded requests').filter (fun entry => entry.1.concerns 1) ∧
    jpaServer.board (jpaServer.machine.run H2.seeded requests) 1 =
      jpaServer.board (jpaServer.machine.run H2.seeded requests') 1 := by
  refine other_tasks_unseen jpaServer 1 ?_ ?_ (by decide)
  · refine ⟨trivial, ⟨2, rfl, .inl ?_⟩, trivial, trivial⟩
    show H2.seeded.board 2 ≠ none
    decide
  · refine ⟨trivial, ⟨3, rfl, .inl ?_⟩, trivial, trivial, trivial, trivial⟩
    show (H2.seeded.delete 2).board 3 ≠ none
    decide

end SpiffeTasks
