import SpiffeTasks.TasksController

/-!
# Adding tasks in the Mongo demo

The add form has no input for the id, the frontend's `Task` has a primitive id
that is 0 by default, and the Mongo backend takes only a null id for a new task.
Every addition is therefore stored under id 0.

1. `run_board`: after any number of additions, the store is as it was except
   under id 0, which has the last task added.
2. `additions_keep_tasks_iff`: no task is lost, and each addition has a task of
   its own, exactly when there is at most one addition and id 0 was free.
3. `second_addition_replaces_first`: two additions to the seeded store.
-/

namespace SpiffeTasks

/-! ## Additions, listings and cancels -/

/-- What a user does who adds tasks. -/
inductive AddClick
  | list
  | openForm
  | add (title : String)
  | cancel (title : String)

/-- The request. The add form is rendered for a freshly constructed `Task`. -/
def AddClick.request : AddClick → PageRequest
  | .list => .index
  | .openForm => .newTask []
  | .add title => ((addTaskForm {}).type "title" title).submit .save
  | .cancel title => ((addTaskForm {}).type "title" title).submit .cancel

/-- The Mongo demo under such clicks. -/
def addMachine (conversion : Conversion) : Machine MongoDb AddClick View where
  step db click :=
    ((directChannel mongoBackend).pages conversion).step db click.request

/-- The titles of the additions. -/
def additions (clicks : List AddClick) : List String :=
  clicks.filterMap fun
    | .add title => some title
    | _ => none

/-- The task of an addition. -/
def addedRow (title : String) : Row := ⟨some title, false⟩

/-- The tasks of the additions that went through. -/
def added (trace : List (AddClick × View)) : List Row :=
  trace.filterMap fun
    | (.add title, .redirectTasks) => some (addedRow title)
    | _ => none

namespace AddFormLemmas

variable {conversion : Conversion}

theorem step_list (db : MongoDb) : ((addMachine conversion).step db .list).2 = db :=
  servePage_state_of_read (directChannel mongoBackend) conversion rfl db

theorem step_openForm (db : MongoDb) :
    (addMachine conversion).step db .openForm = (.addTask {}, db) := rfl

theorem step_cancel (db : MongoDb) (title : String) :
    ((addMachine conversion).step db (.cancel title)).2 = db :=
  servePage_state_of_read (directChannel mongoBackend) conversion
    (write_addTaskForm conversion {} title .cancel) db

/-- An addition goes through, and is stored under id 0. -/
theorem step_add (db : MongoDb) (title : String) :
    (addMachine conversion).step db (.add title) =
      (.redirectTasks, db.write 0 (addedRow title)) := rfl

end AddFormLemmas

open AddFormLemmas

/-! ## 1. The store after a sequence of clicks -/

/-- What is under id 0 after the additions, on top of what was stored. -/
theorem run_board (conversion : Conversion) (db : MongoDb) (clicks : List AddClick) :
    ((addMachine conversion).run db clicks).board =
      (additions clicks).getLast?.elim db.board fun title =>
        db.board.put 0 (addedRow title) := by
  induction clicks generalizing db with
  | nil => rfl
  | cons click clicks ih =>
    rw [Machine.run_cons, ih]
    cases click with
    | list =>
      rw [step_list]
      rfl
    | openForm =>
      rw [step_openForm]
      rfl
    | cancel title =>
      rw [step_cancel]
      rfl
    | add title =>
      have hcons : additions (.add title :: clicks) = title :: additions clicks := rfl
      rw [step_add, MongoDb.board_write, hcons, List.getLast?_cons, Option.elim_some]
      -- A later addition replaces this one.
      cases (additions clicks).getLast? with
      | none => rfl
      | some later => exact PartialMap.put_put

/-- Every addition goes through. -/
theorem added_trace (conversion : Conversion) (db : MongoDb) (clicks : List AddClick) :
    added ((addMachine conversion).trace db clicks) = (additions clicks).map addedRow := by
  induction clicks generalizing db with
  | nil => rfl
  | cons click clicks ih =>
    rw [Machine.trace_cons]
    cases click with
    | list => exact ih _
    | openForm => exact ih _
    | cancel title => exact ih _
    | add title => exact congrArg (addedRow title :: ·) (ih _)

/-! ## 2. When no task is lost -/

/-- After additions, listings and cancels, the store holds every task it held
before and one task more for each addition, exactly when there was no addition,
or a single one while no task had id 0. -/
theorem additions_keep_tasks_iff (conversion : Conversion) (db : MongoDb)
    (clicks : List AddClick) :
    db.board.AddsAll ((addMachine conversion).run db clicks).board
      (added ((addMachine conversion).trace db clicks)) ↔
    additions clicks = [] ∨ ∃ title, additions clicks = [title] ∧ db.board 0 = none := by
  rw [added_trace, run_board]
  cases hlast : (additions clicks).getLast? with
  | none =>
    rw [List.getLast?_eq_none_iff.mp hlast]
    exact iff_of_true (PartialMap.addsAll_nil_iff.mpr rfl) (.inl rfl)
  | some last =>
    rw [Option.elim_some, PartialMap.addsAll_put_iff]
    constructor
    · rintro (⟨hone, hfree⟩ | ⟨hnone, -⟩)
      · obtain ⟨title, htitle, -⟩ := List.map_eq_singleton_iff.mp hone
        exact .inr ⟨title, htitle, hfree⟩
      · exact .inl (List.map_eq_nil_iff.mp hnone)
    · rintro (hnone | ⟨title, hone, hfree⟩)
      · rw [hnone] at hlast
        cases hlast
      · rw [hone] at hlast ⊢
        cases hlast
        exact .inl ⟨rfl, hfree⟩

/-! ## 3. Two additions -/

/-- Both additions go through, and the seeded store has one task more. -/
theorem second_addition_replaces_first :
    added ((addMachine .decimal).trace MongoDb.seeded [.add "first", .add "second"]) =
      [addedRow "first", addedRow "second"] ∧
    ((addMachine .decimal).run MongoDb.seeded [.add "first", .add "second"]).board =
      MongoDb.seeded.board.put 0 (addedRow "second") ∧
    ¬ MongoDb.seeded.board.AddsAll
      ((addMachine .decimal).run MongoDb.seeded [.add "first", .add "second"]).board
      (added ((addMachine .decimal).trace MongoDb.seeded [.add "first", .add "second"])) := by
  have hboard := run_board .decimal MongoDb.seeded [.add "first", .add "second"]
  refine ⟨rfl, hboard, fun h => ?_⟩
  rw [hboard] at h
  have hlength := h.length_le_one fun k hk => PartialMap.put_of_ne hk
  exact absurd hlength (by decide)

end SpiffeTasks
