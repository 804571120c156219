import SpiffeTasks.Backend
import SpiffeTasks.Lib.Machine

/-!
# Restarts of the Mongo backend

Every start of the backend runs `createTasks`, which saves two tasks under the
ids 1 and 2, whatever is stored there. The database outlives the process.

1. `restart_board`: what a start does to the board.
2. `restarts_keep_other_tasks`: after any run of operations and restarts, one
   restart more changes no task but 1 and 2, and all the restarts of the run
   together made no difference to the other tasks.
3. `restart_idle_iff`: a restart changes nothing exactly when the tasks 1 and 2
   are as they are seeded.
4. `restart_brings_back`: a seeded task, deleted before a restart.
-/

namespace SpiffeTasks

/-- What happens to the database. -/
inductive Event
  /-- `createBook` with an id that is not null. -/
  | createBook (id : Long) (row : Row)
  | deleteTask (id : Long)
  /-- A start of the backend against the same database. -/
  | restart
  deriving DecidableEq

/-- The database after the event. -/
def Event.apply (db : MongoDb) : Event → MongoDb
  | .createBook id row =>
    (TaskController.createBook mongoRepository ⟨some id, row.title, row.completed⟩ db).state
  | .deleteTask id => (TaskController.deleteTask mongoRepository id db).state
  | .restart => (BackendApp.run db).state

/-- The database under one event after another. -/
def restartMachine : Machine MongoDb Event Unit where
  step db event := ((), event.apply db)

/-- The ids that `createTasks` writes. -/
def seedIds : Set Long := {1, 2}

/-- The tasks 1 and 2 as they are seeded. -/
def seedOne : Row := ⟨some "Call my mom", true⟩

@[inherit_doc seedOne]
def seedTwo : Row := ⟨some "Write SPIFFE tutorial", false⟩

/-! ## 1. One event -/

/-- A start replaces the tasks 1 and 2, or inserts them. -/
theorem restart_board (db : MongoDb) :
    (Event.restart.apply db).board = (db.board.put 1 seedOne).put 2 seedTwo := by
  show ((db.write 1 seedOne).write 2 seedTwo).board = _
  rw [MongoDb.board_write, MongoDb.board_write]

theorem createBook_board (db : MongoDb) (id : Long) (row : Row) :
    ((Event.createBook id row).apply db).board = db.board.put id row :=
  db.board_write id row

theorem deleteTask_board (db : MongoDb) (id : Long) :
    ((Event.deleteTask id).apply db).board = db.board.remove id :=
  db.board_delete id

namespace RestartLemmas

theorem restart_eqOn (db : MongoDb) :
    Set.EqOn (Event.restart.apply db).board db.board seedIdsᶜ := by
  intro id hid
  have hone : id ≠ 1 := fun h => hid (by simp [seedIds, h])
  have htwo : id ≠ 2 := fun h => hid (by simp [seedIds, h])
  rw [restart_board, PartialMap.put_of_ne htwo, PartialMap.put_of_ne hone]

/-- An operation does the same to two databases, as far as they agree. -/
theorem apply_eqOn {event : Event} {db db' : MongoDb} (h : Set.EqOn db.board db'.board seedIdsᶜ)
    (hevent : event ≠ .restart) :
    Set.EqOn (event.apply db).board (event.apply db').board seedIdsᶜ := by
  cases event with
  | createBook id row =>
    rw [createBook_board, createBook_board]
    exact PartialMap.put_eqOn h id row
  | deleteTask id =>
    rw [deleteTask_board, deleteTask_board]
    exact PartialMap.remove_eqOn h id
  | restart => exact absurd rfl hevent

end RestartLemmas

open RestartLemmas

/-! ## 2. Runs -/

/-- The events of a run without its restarts. -/
def operations (events : List Event) : List Event :=
  events.filter fun event => decide (event ≠ .restart)

/-- After any run, a restart leaves every task but 1 and 2 as it is, stored or
not, and stores these two as they are seeded. As far as the other tasks go, the
run is the one without its restarts. -/
theorem restarts_keep_other_tasks (db : MongoDb) (events : List Event) :
    Set.EqOn (restartMachine.run db (events ++ [.restart])).board
      (restartMachine.run db events).board seedIdsᶜ ∧
    (restartMachine.run db (events ++ [.restart])).board 1 = some seedOne ∧
    (restartMachine.run db (events ++ [.restart])).board 2 = some seedTwo ∧
    Set.EqOn (restartMachine.run db events).board
      (restartMachine.run db (operations events)).board seedIdsᶜ := by
  have hrestart : (restartMachine.run db (events ++ [.restart])) =
      Event.restart.apply (restartMachine.run db events) := Machine.run_concat _ db events _
  rw [hrestart]
  refine ⟨restart_eqOn _, ?_, ?_, ?_⟩
  · rw [restart_board, PartialMap.put_of_ne (by decide), PartialMap.put_same]
  · rw [restart_board, PartialMap.put_same]
  · refine Machine.run_filter_rel
      (R := fun s t : MongoDb => Set.EqOn s.board t.board seedIdsᶜ) ?_ ?_ (Set.eqOn_refl _ _)
    · intro s t event h hkeep
      exact apply_eqOn h (of_decide_eq_true hkeep)
    · intro s t event h hdrop
      have hevent : event = .restart := by
        simpa using hdrop
      subst hevent
      exact (restart_eqOn s).trans h

/-- A restart changes nothing exactly when the two tasks are as they are
seeded. -/
theorem restart_idle_iff (db : MongoDb) :
    Event.restart.apply db = db ↔ db.board 1 = some seedOne ∧ db.board 2 = some seedTwo := by
  constructor
  · intro h
    have hboard := restart_board db
    rw [h] at hboard
    constructor
    · rw [hboard, PartialMap.put_of_ne (by decide), PartialMap.put_same]
    · rw [hboard, PartialMap.put_same]
  · rintro ⟨hone, htwo⟩
    refine MongoDb.ext_board ?_
    rw [restart_board, PartialMap.put_eq_self_iff.mpr hone, PartialMap.put_eq_self_iff.mpr htwo]

/-! ## 3. A seeded task, deleted and edited before a restart -/

/-- A restart brings back task 1, which was deleted, and undoes a change of task
2. -/
theorem restart_brings_back :
    (restartMachine.run MongoDb.seeded
      [.deleteTask 1, .createBook 2 ⟨some "Done", true⟩]).board 1 = none ∧
    (restartMachine.run MongoDb.seeded
      [.deleteTask 1, .createBook 2 ⟨some "Done", true⟩, .restart]).board 1 ≠ none ∧
    (restartMachine.run MongoDb.seeded
      [.deleteTask 1, .createBook 2 ⟨some "Done", true⟩]).board 2 = some ⟨some "Done", true⟩ ∧
    (restartMachine.run MongoDb.seeded
      [.deleteTask 1, .createBook 2 ⟨some "Done", true⟩, .restart]).board 2 ≠
        some ⟨some "Done", true⟩ := by
  exact ⟨by decide, by decide, by decide, by decide⟩

end SpiffeTasks
