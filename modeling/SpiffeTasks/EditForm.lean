import SpiffeTasks.TasksController

/-!
# Editing a title

The edit page loads a task with all its fields, and its form has one input, the
title. What the form leaves out goes back to the Java default before the whole
task is saved.

1. `editTitle_of_shown`: over every channel, submitting an edit page stores the
   title typed, and the task is not completed any more.
2. `editTitle_changes_title_only_iff`: the edit changes nothing but the title
   exactly when the task was not completed.
3. `editTitle_uncompletes`: task 1 of the seeded Mongo store.
-/

namespace SpiffeTasks

section EditTitle

variable {σ : Type} {backend : Backend σ}

/-- Opening the edit page of `id` and submitting its form with `title`, and no
other request in between. Where another page is shown, there is no form to
submit. -/
def editTitle (channel : Channel backend) (conversion : Conversion) (id : Long) (title : String)
    (s : σ) : View × σ :=
  match servePage channel.service conversion (.edit (some id)) s with
  | (.editTask task, s') =>
    servePage channel.service conversion (((editTaskForm task).type "title" title).submit .save) s'
  | (view, s') => (view, s')

namespace EditLemmas

open EStateM

theorem getOne_direct {id : Long} {row : Row} {s : σ} (hrow : backend.board s id = some row) :
    (directChannel backend).service.getOne id s = .ok ⟨id, row.title, row.completed⟩ s := by
  have hserve : backend.serve (.getTask (some id)) s =
      (.ok (.task ⟨some id, row.title, some row.completed⟩), s) := by
    rw [backend.getTask_eq, hrow]
    rfl
  exact bind_of_ok (ServiceLemmas.exchange_of_ok hserve)

/-- Over mutual TLS the edit page of a stored task is shown. -/
theorem edit_direct (conversion : Conversion) {id : Long} {row : Row} {s : σ}
    (hrow : backend.board s id = some row) :
    servePage (directChannel backend).service conversion (.edit (some id)) s =
      (.editTask ⟨id, row.title, row.completed⟩, s) := by
  have hedit : TasksController.dispatch (directChannel backend).service conversion
      (.edit (some id)) s = .ok (.editTask ⟨id, row.title, row.completed⟩) s :=
    bind_of_ok (getOne_direct hrow)
  exact servePage_of_ok hedit

end EditLemmas

open EditLemmas

/-- Once the edit page of `id` has been shown, its submission stores the title
typed under `id`, as a task that is not completed. -/
theorem editTitle_of_shown (channel : Channel backend) (conversion : Conversion) {id : Long}
    {s : σ} {task : Frontend.Task} (title : String)
    (hshown : (servePage channel.service conversion (.edit (some id)) s).1 = .editTask task) :
    backend.board (editTitle channel conversion id title s).2 =
      (backend.board s).put id ⟨some title, false⟩ := by
  obtain ⟨rfl, hrow⟩ := channel.edit_view conversion hshown
  have hread : (PageRequest.edit (some task.id)).write conversion = none := rfl
  have hstate := servePage_state_of_read channel conversion hread s
  have hedit : editTitle channel conversion task.id title s =
      servePage channel.service conversion
        (((editTaskForm task).type "title" title).submit .save) s := by
    unfold editTitle
    rw [← Prod.mk.eta (p := servePage channel.service conversion (.edit (some task.id)) s),
      hshown, hstate]
  have htarget : backend.target s (some task.id) = some task.id :=
    backend.target_stored s task.id (by rw [hrow]; exact Option.some_ne_none _)
  rw [hedit, servePage_board, write_editTaskForm]
  show (backend.target s (some task.id)).elim _ _ = _
  rw [htarget]
  rfl

/-- Editing the title of a stored task leaves everything else as it was exactly
when the task was not completed. -/
theorem editTitle_changes_title_only_iff (backend : Backend σ) (conversion : Conversion)
    {id : Long} {row : Row} {s : σ} (hrow : backend.board s id = some row) (title : String) :
    backend.board (editTitle (directChannel backend) conversion id title s).2 =
      (backend.board s).put id { row with title := some title } ↔ row.completed = false := by
  have hshown := congrArg Prod.fst (edit_direct conversion hrow)
  rw [editTitle_of_shown (directChannel backend) conversion title hshown]
  refine ⟨fun h => ?_, fun h => by rw [h]⟩
  have hat := congrFun h id
  rw [PartialMap.put_same, PartialMap.put_same, Option.some.injEq] at hat
  exact (congrArg Row.completed hat).symm

end EditTitle

/-- Task 2 of the seeded store is not completed. -/
theorem editTitle_changes_title_only_two :
    (editTitle (directChannel mongoBackend) .decimal 2 "Write it" MongoDb.seeded).2.board =
      MongoDb.seeded.board.put 2 ⟨some "Write it", false⟩ := by
  have hrow : mongoBackend.board MongoDb.seeded 2 = some ⟨some "Write SPIFFE tutorial", false⟩ := by
    decide
  exact (editTitle_changes_title_only_iff mongoBackend .decimal hrow "Write it").mpr rfl

/-- Task 1 of the seeded store is completed, until its title is edited. -/
theorem editTitle_uncompletes :
    MongoDb.seeded.board 1 = some ⟨some "Call my mom", true⟩ ∧
    (editTitle (directChannel mongoBackend) .decimal 1 "Call mom" MongoDb.seeded).2.board 1 =
      some ⟨some "Call mom", false⟩ ∧
    (editTitle (directChannel mongoBackend) .decimal 1 "Call mom" MongoDb.seeded).2.board ≠
      MongoDb.seeded.board.put 1 ⟨some "Call mom", true⟩ := by
  refine ⟨by decide, by decide, fun h => ?_⟩
  exact absurd (congrFun h 1) (by decide)

end SpiffeTasks
