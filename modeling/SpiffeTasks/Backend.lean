import SpiffeTasks.Repositories

/-!
# The backends

`TaskController` is one class, word for word the same in every backend, over a
`TaskRepository`. This module has its handlers, the part of Spring MVC and of
the servlet container between a request and a handler, and what the two
backends have in common.

1. `Backend`: a server whose requests act on a board of tasks. Its fields are
   the refinement conditions: what each request does to the board.
2. `jpaBackend`, `mongoBackend`: the two backends meet them. They differ in
   `target`, the id under which a submitted task is stored.
3. `BackendApp.run`: what the Mongo backend stores at every start.
-/

namespace SpiffeTasks

/-! ## Requests and responses -/

/-- A request to a route of `TaskController`. A request body that Jackson cannot
read as a task, and a path id that is not a `long`, are `none`. -/
inductive Request
  /-- `GET /tasks` -/
  | getTasks
  /-- `POST /tasks` -/
  | createBook (body : Option TaskJson)
  /-- `GET /tasks/{taskId}` -/
  | getTask (taskId : Option Long)
  /-- `DELETE /tasks/{taskId}` -/
  | deleteTask (taskId : Option Long)
  deriving DecidableEq

/-- What a client reads in the body of a response. -/
inductive Body
  | empty
  | task (json : TaskJson)
  | tasks (json : List TaskJson)
  /-- The error page of the servlet container: it shows the status only. -/
  | errorPage
  deriving DecidableEq

structure Response where
  status : Nat
  body : Body
  deriving DecidableEq

namespace Response

def ok (body : Body) : Response := ⟨200, body⟩

def errorPage (status : Nat) : Response := ⟨status, .errorPage⟩
end Response

/-! ## The controller -/

namespace TaskController

variable {σ T : Type} (taskRepository : TaskRepository σ T)

def getTasks : EStateM Thrown σ (List T) :=
  taskRepository.findAll

def createBook (task : T) : EStateM Thrown σ T :=
  taskRepository.save task

def getTask (taskId : Long) : EStateM Thrown σ T := do
  match ← taskRepository.findById taskId with
  | some task => return task
  | none => throw .runtimeException

def deleteTask (taskId : Long) : EStateM Thrown σ Unit :=
  taskRepository.deleteById taskId

variable [Jackson T]

/-- `DispatcherServlet`: the handler of the route, with its arguments bound and
its result written as JSON. Where an argument does not bind, the handler is not
called and the exception is resolved into a 400. -/
def dispatch : Request → EStateM Thrown σ Response
  | .getTasks => do
    let tasks ← getTasks taskRepository
    return .ok (.tasks (tasks.map Jackson.write))
  | .createBook (some json) => do
    let task ← createBook taskRepository (Jackson.read json)
    return .ok (.task (Jackson.write task))
  | .getTask (some taskId) => do
    let task ← getTask taskRepository taskId
    return .ok (.task (Jackson.write task))
  | .deleteTask (some taskId) => do
    deleteTask taskRepository taskId
    return .ok .empty
  | .createBook none | .getTask none | .deleteTask none =>
    return .errorPage 400

end TaskController

/-- The servlet container's answer: what the chain wrote, or 500 when the chain
ended in an exception. -/
def answer {σ : Type} : EStateM.Result Thrown σ Response → Response × σ
  | .ok response s => (response, s)
  | .error _ s => (.errorPage 500, s)

/-- A backend without the JWT filter: the requests go to the dispatcher. -/
def serve {σ T : Type} [Jackson T] (taskRepository : TaskRepository σ T) (request : Request)
    (s : σ) : Response × σ :=
  answer (TaskController.dispatch taskRepository request s)

/-! ## What the two backends have in common -/

/-- A server over stores `σ`, read as a server over a board of tasks. -/
structure Backend (σ : Type) where
  serve : Request → σ → Response × σ
  board : σ → Board
  /-- The id under which a submitted task is stored, given the id it came with,
  or `none` if it is not stored. -/
  target : σ → Option Long → Option Long
  getTasks_state : ∀ s, (serve .getTasks s).2 = s
  getTask_eq : ∀ id s, serve (.getTask (some id)) s =
    ((board s id).elim (.errorPage 500) fun row =>
      .ok (.task ⟨some id, row.title, some row.completed⟩), s)
  createBook_board : ∀ json s, board (serve (.createBook (some json)) s).2 =
    (target s json.id).elim (board s) fun id => (board s).put id json.row
  deleteTask_board : ∀ id s, board (serve (.deleteTask (some id)) s).2 = (board s).remove id
  target_stored : ∀ s id, board s id ≠ none → target s (some id) = some id
  target_fresh : ∀ s id key, board s id = none → target s (some id) = some key →
    board s key = none

namespace BackendLemmas

variable {σ T : Type} [Jackson T] (taskRepository : TaskRepository σ T)

omit [Jackson T] in
/-- A handler is answered with what it returns, and with 500 when it throws. -/
theorem answer_handler {α : Type} (handler : EStateM Thrown σ α) (body : α → Body) (s : σ) :
    answer ((do return .ok (body (← handler)) : EStateM Thrown σ Response) s) =
      match handler s with
      | .ok a s' => (.ok (body a), s')
      | .error _ s' => (.errorPage 500, s') := by
  cases h : handler s with
  | ok a s' =>
    rw [EStateM.bind_of_ok h]
    rfl
  | error e s' =>
    rw [EStateM.bind_of_error h]
    rfl

theorem serve_getTasks (s : σ) :
    serve taskRepository .getTasks s =
      match taskRepository.findAll s with
      | .ok tasks s' => (.ok (.tasks (tasks.map Jackson.write)), s')
      | .error _ s' => (.errorPage 500, s') := by
  refine (answer_handler taskRepository.findAll
    (fun tasks => .tasks (tasks.map Jackson.write)) s).trans ?_
  cases taskRepository.findAll s with
  | ok tasks s' => rfl
  | error e s' => rfl

theorem serve_getTask (id : Long) (s : σ) :
    serve taskRepository (.getTask (some id)) s =
      match TaskController.getTask taskRepository id s with
      | .ok task s' => (.ok (.task (Jackson.write task)), s')
      | .error _ s' => (.errorPage 500, s') :=
  answer_handler (TaskController.getTask taskRepository id)
    (fun task => .task (Jackson.write task)) s

/-- A lookup that leaves the store as it is answers with what it found. -/
theorem serve_getTask_of_found {id : Long} {s : σ} {found : Option T}
    (h : taskRepository.findById id s = .ok found s) :
    serve taskRepository (.getTask (some id)) s =
      (found.elim (.errorPage 500) fun task => .ok (.task (Jackson.write task)), s) := by
  have hget : TaskController.getTask taskRepository id s = _ := EStateM.bind_of_ok h
  rw [serve_getTask, hget]
  cases found with
  | none => rfl
  | some task => rfl

theorem serve_createBook (json : TaskJson) (s : σ) :
    serve taskRepository (.createBook (some json)) s =
      match taskRepository.save (Jackson.read json) s with
      | .ok task s' => (.ok (.task (Jackson.write task)), s')
      | .error _ s' => (.errorPage 500, s') :=
  answer_handler (taskRepository.save (Jackson.read json))
    (fun task => .task (Jackson.write task)) s

theorem serve_createBook_state (json : TaskJson) (s : σ) :
    (serve taskRepository (.createBook (some json)) s).2 =
      (taskRepository.save (Jackson.read json) s).state := by
  rw [serve_createBook]
  cases taskRepository.save (Jackson.read json) s with
  | ok task s' => rfl
  | error e s' => rfl

theorem serve_deleteTask (id : Long) (s : σ) :
    serve taskRepository (.deleteTask (some id)) s =
      match taskRepository.deleteById id s with
      | .ok () s' => (.ok .empty, s')
      | .error _ s' => (.errorPage 500, s') := by
  refine (answer_handler (taskRepository.deleteById id) (fun _ => .empty) s).trans ?_
  cases taskRepository.deleteById id s with
  | ok u s' => rfl
  | error e s' => rfl

end BackendLemmas

open BackendLemmas

namespace Jpa

theorem serve_getTask (id : Long) (db : H2) :
    serve jpaRepository (.getTask (some id)) db =
      ((db.board id).elim (.errorPage 500) fun row =>
        .ok (.task ⟨some id, row.title, some row.completed⟩), db) := by
  have hfind : jpaRepository.findById id db =
      .ok ((db.board id).map (JpaRepository.entity id)) db := rfl
  rw [serve_getTask_of_found jpaRepository hfind, Option.elim_map]
  rfl

theorem serve_deleteTask (id : Long) (db : H2) :
    serve jpaRepository (.deleteTask (some id)) db = (.ok .empty, db.delete id) :=
  BackendLemmas.serve_deleteTask jpaRepository id db

theorem serve_getTasks_state (db : H2) : (serve jpaRepository .getTasks db).2 = db := by
  rw [BackendLemmas.serve_getTasks]
  rfl

end Jpa

/-- The JPA backend. A `Task` without an id in its JSON has id 0, and a task
under no stored id is stored under the generated id, if that is free. -/
def jpaBackend : Backend H2 where
  serve := serve jpaRepository
  board := H2.board
  target db id := db.target (id.getD 0)
  getTasks_state := Jpa.serve_getTasks_state
  getTask_eq := Jpa.serve_getTask
  createBook_board json db := by
    rw [serve_createBook_state]
    exact JpaRepository.save_board (Jackson.read json) db
  deleteTask_board id db := by
    rw [Jpa.serve_deleteTask]
    exact db.board_delete id
  target_stored db id h := if_pos (H2.mem_iff.mpr h)
  target_fresh db id key hnone htarget := by
    change db.target id = some key at htarget
    rw [H2.target_of_none hnone] at htarget
    exact (H2.freeId_eq_some_iff.mp htarget).2

namespace Mongo

theorem serve_getTask (id : Long) (db : MongoDb) :
    serve mongoRepository (.getTask (some id)) db =
      ((db.board id).elim (.errorPage 500) fun row =>
        .ok (.task ⟨some id, row.title, some row.completed⟩), db) := by
  have hfind : mongoRepository.findById id db =
      .ok ((db.board id).map (MongoRepository.entity id)) db := rfl
  rw [serve_getTask_of_found mongoRepository hfind, Option.elim_map]
  rfl

theorem serve_deleteTask (id : Long) (db : MongoDb) :
    serve mongoRepository (.deleteTask (some id)) db = (.ok .empty, db.delete id) :=
  BackendLemmas.serve_deleteTask mongoRepository id db

theorem serve_getTasks_state (db : MongoDb) : (serve mongoRepository .getTasks db).2 = db := by
  rw [BackendLemmas.serve_getTasks]
  rfl

theorem serve_createBook (json : TaskJson) (db : MongoDb) :
    serve mongoRepository (.createBook (some json)) db =
      json.id.elim (.errorPage 500, db) fun id =>
        (.ok (.task ⟨some id, json.title, some (json.completed.getD false)⟩),
          db.write id json.row) := by
  rw [BackendLemmas.serve_createBook]
  obtain ⟨id, title, completed⟩ := json
  cases id with
  | none => rfl
  | some id => rfl

end Mongo

/-- The Mongo backend. A task is stored under the id in its JSON, and not stored
without one. -/
def mongoBackend : Backend MongoDb where
  serve := serve mongoRepository
  board := MongoDb.board
  target _ id := id
  getTasks_state := Mongo.serve_getTasks_state
  getTask_eq := Mongo.serve_getTask
  createBook_board json db := by
    rw [Mongo.serve_createBook]
    cases json.id with
    | none => rfl
    | some id => exact db.board_write id json.row
  deleteTask_board id db := by
    rw [Mongo.serve_deleteTask]
    exact db.board_delete id
  target_stored _ _ _ := rfl
  target_fresh db id key hnone htarget := Option.some.inj htarget ▸ hnone

/-! ## Start-up -/

namespace BackendApp

/-- `BackendApp.createTasks` of the Mongo demo. -/
def createTasks : EStateM Thrown MongoDb Unit := do
  let _ ← mongoRepository.save ⟨some 1, some "Call my mom", true⟩
  let _ ← mongoRepository.save ⟨some 2, some "Write SPIFFE tutorial", false⟩

/-- `BackendApp.run`, at every start. -/
def run : EStateM Thrown MongoDb Unit := createTasks

end BackendApp

/-- The database after the first start. -/
def MongoDb.seeded : MongoDb := (BackendApp.run ⟨∅⟩).state

end SpiffeTasks
