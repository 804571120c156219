import SpiffeTasks.Browser

/-!
# Completed tasks

A task has a field `completed` that is stored and sent to the frontend. The forms have
no input for it, and what they save is not completed.

1. `PageRequest.subject`: the task that a request writes.
2. `completed_run_iff`: over every channel, where no request has a parameter
   `completed`, a task is completed at the end exactly when it was at the start and no
   request has written it.
3. `browsing_completed_iff`: the same of a user at a browser. Its requests never have
   that parameter.
-/

namespace SpiffeTasks

/-- The task is stored and completed. -/
def Board.completed (board : Board) (id : Long) : Bool := (board id).any Row.completed

/-! ## 1. What a request writes -/

/-- The id of the task that is saved or deleted. -/
def Write.subject : Write → Long
  | .save task => task.id
  | .deleteById id => id

/-- The id of the task that the handler of the request writes, if it writes. -/
def PageRequest.subject (conversion : Conversion) (request : PageRequest) : Option Long :=
  (request.write conversion).map Write.subject

/-- The parameters that are bound to a task. -/
def PageRequest.params : PageRequest → Params
  | .newTask params | .postNew params | .postEdit _ params => params
  | .index | .edit _ | .delete _ => []

/-- The request leaves open whether the task is completed. -/
def PageRequest.LacksCompleted (request : PageRequest) : Prop :=
  request.params.getParameter "completed" = none

instance (request : PageRequest) : Decidable request.LacksCompleted :=
  inferInstanceAs (Decidable (_ = none))

namespace CompletedLemmas

theorem bindCompleted_of_lacks (conversion : Conversion) {params : Params}
    (h : params.getParameter "completed" = none) :
    bindCompleted conversion params = (false, []) := by
  rw [bindCompleted, h]
  rfl

/-- A task that such a request saves is not completed. -/
theorem write_lacks {conversion : Conversion} {request : PageRequest} {task : Frontend.Task}
    (h : request.LacksCompleted) (hwrite : request.write conversion = some (.save task)) :
    task.completed = false := by
  have hbound : ∀ uriId params, PageRequest.params request = params →
      (bindTask conversion uriId params).1.completed = false := by
    rintro uriId params rfl
    exact congrArg Prod.fst (bindCompleted_of_lacks conversion h)
  cases request with
  | index | newTask params | edit id => cases hwrite
  | delete id => cases id <;> cases hwrite
  | postNew params =>
    rw [write_postNew] at hwrite
    obtain ⟨-, hsome⟩ := Option.ite_none_left_eq_some.mp hwrite
    cases hsome
    exact hbound none params rfl
  | postEdit id params =>
    cases id with
    | none => cases hwrite
    | some id =>
      rw [write_postEdit] at hwrite
      obtain ⟨-, hsome⟩ := Option.ite_none_right_eq_some.mp hwrite
      cases hsome
      exact hbound (some id) params rfl

theorem stored_of_completed {board : Board} {id : Long} (h : board.completed id = true) :
    board id ≠ none := by
  intro hnone
  rw [Board.completed, hnone] at h
  cases h

/-- A save that leaves the task uncompleted ends the completion of the task that it
writes over. -/
theorem completed_put_iff {board : Board} {row : Row} (hrow : row.completed = false)
    (target : Option Long) (id : Long) :
    (target.elim board fun key => board.put key row).completed id = true ↔
      board.completed id = true ∧ target ≠ some id := by
  cases target with
  | none => simp
  | some key =>
    obtain rfl | hne := eq_or_ne id key
    · simp [Board.completed, PartialMap.put_same, hrow]
    · simp [Board.completed, PartialMap.put_of_ne hne, hne.symm]

theorem completed_remove_iff (board : Board) (key id : Long) :
    Board.completed (board.remove key) id = true ↔ board.completed id = true ∧ key ≠ id := by
  obtain rfl | hne := eq_or_ne id key
  · simp [Board.completed, PartialMap.remove_same]
  · simp [Board.completed, PartialMap.remove_of_ne hne, hne.symm]

/-- Of the stored tasks, a save writes over the one that it names. -/
theorem target_eq_iff {σ : Type} (backend : Backend σ) {s : σ} {id : Long}
    (hstored : backend.board s id ≠ none) (key : Long) :
    backend.target s (some key) = some id ↔ key = id := by
  constructor
  · intro htarget
    by_cases hkey : backend.board s key = none
    · exact absurd (backend.target_fresh s key id hkey htarget) hstored
    · exact Option.some.inj ((backend.target_stored s key hkey).symm.trans htarget)
  · rintro rfl
    exact backend.target_stored s key hstored

end CompletedLemmas

open CompletedLemmas

/-! ## 2. Runs of page requests -/

section Completed

variable {σ : Type} {backend : Backend σ} (channel : Channel backend) (conversion : Conversion)

namespace CompletedLemmas

/-- A request ends the completion of the task that it writes, and completes none. -/
theorem page_completed_iff {request : PageRequest} (h : request.LacksCompleted) (id : Long)
    (s : σ) :
    (backend.board (servePage channel.service conversion request s).2).completed id = true ↔
      (backend.board s).completed id = true ∧ request.subject conversion ≠ some id := by
  rw [servePage_board, PageRequest.subject]
  cases hwrite : request.write conversion with
  | none => simp
  | some write =>
    cases write with
    | save task =>
      have hrow : task.row.completed = false := write_lacks h hwrite
      refine (completed_put_iff hrow (backend.target s (some task.id)) id).trans ?_
      refine and_congr_right fun hcompleted => not_congr ?_
      rw [target_eq_iff backend (stored_of_completed hcompleted)]
      exact Option.some_inj.symm
    | deleteById key =>
      refine (completed_remove_iff (backend.board s) key id).trans ?_
      exact and_congr_right fun _ => not_congr Option.some_inj.symm

end CompletedLemmas

/-- Where no request has a parameter `completed`, a task is completed after the requests
exactly when it was before and none of them has saved or deleted it. As in `bindTask`,
a field is bound from the parameter of its own name and from no other. -/
theorem completed_run_iff (id : Long) (s : σ) {requests : List PageRequest}
    (h : ∀ request, request ∈ requests → request.LacksCompleted) :
    (backend.board ((channel.pages conversion).run s requests)).completed id = true ↔
      (backend.board s).completed id = true ∧
        ∀ request, request ∈ requests → request.subject conversion ≠ some id := by
  have hallowed : (channel.pages conversion).Admitted
      (fun _ request => request.LacksCompleted) s requests := Machine.admitted_const_iff.mpr h
  have hrun := Machine.survives_iff (fun s => (backend.board s).completed id = true)
    (fun _ request => request.subject conversion ≠ some id)
    (fun s request hlacks => page_completed_iff channel conversion hlacks id s) hallowed
  exact hrun.trans (and_congr_right fun _ => Machine.admitted_const_iff)

/-! ## 3. A browser -/

namespace CompletedLemmas

/-- The browser has not asked for a page with such a parameter, and no form that it
shows has an input for one. -/
theorem request_lacks {browser : Browser} (hlast : browser.last.LacksCompleted)
    {action : Action} {request : PageRequest} (h : browser.request action = some request) :
    request.LacksCompleted := by
  obtain ⟨last, shown⟩ := browser
  cases action with
  | list =>
    cases h
    rfl
  | reload =>
    cases h
    exact hlast
  | new =>
    cases shown with
    | tasks tasks =>
      cases h
      rfl
    | addTask task | editTask task | redirectTasks | error ex | badRequest => cases h
  | edit id | delete id =>
    cases shown with
    | tasks tasks =>
      obtain ⟨-, hsome⟩ := Option.ite_none_right_eq_some.mp h
      cases hsome
      rfl
    | addTask task | editTask task | redirectTasks | error ex | badRequest => cases h
  | submit title button =>
    cases shown with
    | addTask task | editTask task =>
      cases h
      cases button with
      | save | cancel => rfl
    | tasks tasks | redirectTasks | error ex | badRequest => cases h

open BrowserLemmas

/-- To follow a redirect changes nothing in the store. -/
theorem follow_store (request : PageRequest) (s : σ) :
    (follow channel conversion request s).2 =
      (servePage channel.service conversion request s).2 := by
  by_cases h : (servePage channel.service conversion request s).1 = .redirectTasks
  · rw [follow_of_redirect channel conversion h,
      follow_of_not_redirect channel conversion (index_not_redirect channel conversion _)]
    exact servePage_state_of_read channel conversion rfl _
  · rw [follow_of_not_redirect channel conversion h]

theorem follow_lacks {request : PageRequest} (h : request.LacksCompleted) (s : σ) :
    (follow channel conversion request s).1.last.LacksCompleted := by
  by_cases hredirect : (servePage channel.service conversion request s).1 = .redirectTasks
  · rw [follow_of_redirect channel conversion hredirect,
      follow_of_not_redirect channel conversion (index_not_redirect channel conversion _)]
    rfl
  · rw [follow_of_not_redirect channel conversion hredirect]
    exact h

end CompletedLemmas

/-- The action makes no request that writes the task. -/
def Spares (conversion : Conversion) (id : Long) (world : Browser × σ) (action : Action) : Prop :=
  ∀ request, world.1.request action = some request → request.subject conversion ≠ some id

/-- Over every channel, whatever is clicked: a task is completed at the end exactly when
it was at the start, and nothing was clicked that saves or deletes it. -/
theorem browsing_completed_iff (id : Long) (s : σ) (actions : List Action) :
    (backend.board ((browsing channel conversion).run (opened channel conversion s)
        actions).2).completed id = true ↔
      (backend.board s).completed id = true ∧
        (browsing channel conversion).Admitted (Spares conversion id)
          (opened channel conversion s) actions := by
  have hopened : (opened channel conversion s).2 = s :=
    (follow_store channel conversion .index s).trans
      (servePage_state_of_read channel conversion rfl s)
  have hindex : PageRequest.index.LacksCompleted := rfl
  have hallowed : (browsing channel conversion).Admitted
      (fun world _ => world.1.last.LacksCompleted) (opened channel conversion s) actions := by
    refine Machine.admitted_of_invariant (fun world : Browser × σ => world.1.last.LacksCompleted)
      (follow_lacks channel conversion hindex s) (fun world action h => ?_) (fun _ _ h => h) actions
    show ((world.1.request action).elim world _).1.last.LacksCompleted
    cases hrequest : world.1.request action with
    | none => exact h
    | some request => exact follow_lacks channel conversion (request_lacks h hrequest) world.2
  have hrun := Machine.survives_iff
    (fun world : Browser × σ => (backend.board world.2).completed id = true)
    (Spares conversion id) (fun world action hlast => ?_) hallowed
  · rw [hopened] at hrun
    exact hrun
  · show (backend.board ((world.1.request action).elim world _).2).completed id = true ↔ _
    unfold Spares
    cases hrequest : world.1.request action with
    | none => simp
    | some request =>
      rw [Option.elim_some, follow_store,
        page_completed_iff channel conversion (request_lacks hlast hrequest)]
      simp

end Completed

/-- In the seeded Mongo demo, task 1 is completed. It still is after an edit of task 2,
and no longer after its own. -/
theorem completed_run_seeded :
    let pages := (directChannel mongoBackend).pages .decimal
    let save : PageRequest := .postEdit (some 2) [("title", "Write"), ("action", "save")]
    let saveOne : PageRequest := .postEdit (some 1) [("title", "Call"), ("action", "save")]
    (mongoBackend.board (pages.run MongoDb.seeded [.edit (some 2), save])).completed 1 = true ∧
    ¬ (mongoBackend.board (pages.run MongoDb.seeded [save, saveOne])).completed 1 = true := by
  intro pages save saveOne
  constructor
  · exact (completed_run_iff _ _ 1 MongoDb.seeded (by decide)).mpr ⟨by decide, by decide⟩
  · intro h
    obtain ⟨-, hspared⟩ := (completed_run_iff _ _ 1 MongoDb.seeded (by decide)).mp h
    exact hspared saveOne (by simp) (by decide)

end SpiffeTasks
