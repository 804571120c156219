import SpiffeTasks.TasksService
import SpiffeTasks.Lib.Machine
import SpiffeTasks.Lib.Texts

/-!
# The frontends' controller

`TasksController` is one class in every frontend, and so are the templates of
its pages. This module has the handlers, the part of Spring MVC that routes a
request and binds a `Task` from it, and the forms that the pages show.

| route                                  | handler      | calls of `TasksService`  |
|----------------------------------------|--------------|--------------------------|
| `GET /tasks`                           | `index`      | `findAll`                |
| `GET /tasks/new`                       | `newTask`    |                          |
| `POST /tasks/new`                      | `createTask` | `save`, `findAll`        |
| `POST /tasks/new`, `action=cancel`     | `cancelAdd`  | `findAll`                |
| `GET /tasks/edit/{id}`                 | `edit`       | `getOne`                 |
| `POST /tasks/edit/{id}`, `action=save` | `updateTask` | `save`, `findAll`        |
| the same, `action=cancel`              | `cancelEdit` | `findAll`                |
| `GET /tasks/delete/{id}`               | `deleteTask` | `deleteById`, `findAll`  |

1. `dispatch_of_write`, `dispatch_of_read`: a handler writes once and lists then,
   or it reads at most once.
2. `servePage_board`: what a request does to the board of tasks, over every
   channel to a backend.
3. `write_addTaskForm`, `write_editTaskForm`: what the forms ask for when they
   are submitted as they are rendered.
-/

namespace SpiffeTasks

/-! ## Request parameters -/

/-- The parameters of a request. A name can occur more than once. -/
abbrev Params := List (String × String)

namespace Params

/-- `ServletRequest.getParameterValues`. -/
def getParameterValues (params : Params) (name : String) : List String :=
  params.filterMap fun param => if param.1 = name then some param.2 else none

/-- `ServletRequest.getParameter`: the first of the values. -/
def getParameter (params : Params) (name : String) : Option String :=
  (params.getParameterValues name).head?

end Params

/-! ## Binding a task -/

/-- Spring's conversions of a text to a `long` and to a `boolean`. -/
structure Conversion where
  toLong : String → Option Long
  toBoolean : String → Option Bool

/-- The conversion of decimal texts, with a sign or without, and of `true` and `false`. -/
def Conversion.decimal : Conversion where
  toLong text := (Decimal.parse text.toList).bind fun n =>
    if Int64.minValue.toInt ≤ n ∧ n ≤ Int64.maxValue.toInt then some (Int64.ofInt n) else none
  toBoolean text :=
    if text = "true" then some true else if text = "false" then some false else none

example : Conversion.decimal.toLong "-12" = some (-12) := by decide

/-- The fields whose parameter could not be converted. -/
abbrev BindingResult := List String

/-- A field that is bound from `text`. Where the text cannot be converted, the
field keeps its default and the error is recorded. -/
def bindField {α : Type} (field : String) (convert : String → Option α) (default : α)
    (text : String) : α × BindingResult :=
  (convert text).elim (default, [field]) fun value => (value, [])

section BindField

variable {α : Type} {field : String} {convert : String → Option α} {default : α} {text : String}

theorem bindField_of_some {value : α} (h : convert text = some value) :
    bindField field convert default text = (value, []) := by
  rw [bindField, h, Option.elim_some]

theorem bindField_of_none (h : convert text = none) :
    bindField field convert default text = (default, [field]) := by
  rw [bindField, h, Option.elim_none]

end BindField

/-- The field `id`: the URI variable is bound only where there is no parameter of
that name. -/
def bindId (conversion : Conversion) (uriId : Option Long) (params : Params) :
    Long × BindingResult :=
  (params.getParameter "id").elim (uriId.getD ({} : Frontend.Task).id, [])
    (bindField "id" conversion.toLong ({} : Frontend.Task).id)

/-- The field `title`: several values are joined by commas. -/
def bindTitle (params : Params) : Option String :=
  match params.getParameterValues "title" with
  | [] => ({} : Frontend.Task).title
  | texts => some (",".intercalate texts)

/-- The field `completed`. -/
def bindCompleted (conversion : Conversion) (params : Params) : Bool × BindingResult :=
  (params.getParameter "completed").elim (({} : Frontend.Task).completed, [])
    (bindField "completed" conversion.toBoolean ({} : Frontend.Task).completed)

/-- `WebDataBinder`: a freshly constructed `Task` with its fields bound from the
parameters of the same names. The defaults and markers that it reads from parameters
with a `!` or a `_` before the name are left out. -/
def bindTask (conversion : Conversion) (uriId : Option Long) (params : Params) :
    Frontend.Task × BindingResult :=
  let id := bindId conversion uriId params
  let completed := bindCompleted conversion params
  (⟨id.1, bindTitle params, completed.1⟩, id.2 ++ completed.2)

/-! ## The controller -/

/-- What the browser is shown. -/
inductive View
  | tasks (tasks : List Frontend.Task)
  | addTask (task : Frontend.Task)
  | editTask (task : Frontend.Task)
  /-- `redirect:/tasks`. What is in the model does not go with it. -/
  | redirectTasks
  | error (error : Failure)
  /-- No handler has a matching `params` condition. -/
  | badRequest
  deriving DecidableEq

/-- A request to a route of `TasksController`. A path id that is not a `long` is
`none`. -/
inductive PageRequest
  /-- `GET /tasks` -/
  | index
  /-- `GET /tasks/new` -/
  | newTask (params : Params)
  /-- `POST /tasks/new` -/
  | postNew (params : Params)
  /-- `GET /tasks/edit/{id}` -/
  | edit (id : Option Long)
  /-- `POST /tasks/edit/{id}` -/
  | postEdit (id : Option Long) (params : Params)
  /-- `GET /tasks/delete/{id}` -/
  | delete (id : Option Long)

namespace TasksController

variable {σ : Type} (tasksService : TasksService σ)

def index : EStateM Failure σ View := do
  let tasks ← tasksService.findAll
  return .tasks tasks

def newTask (task : Frontend.Task) : EStateM Failure σ View :=
  return .addTask task

def createTask (task : Frontend.Task) (_result : BindingResult) : EStateM Failure σ View := do
  let _ ← tasksService.save task
  let _ ← tasksService.findAll
  return .redirectTasks

def cancelAdd : EStateM Failure σ View := do
  let _ ← tasksService.findAll
  return .redirectTasks

def edit (id : Long) : EStateM Failure σ View := do
  let task ← tasksService.getOne id
  return .editTask task

/-- The handler declares the path id and does not use it. -/
def updateTask (_id : Long) (task : Frontend.Task) (_result : BindingResult) :
    EStateM Failure σ View := do
  let _ ← tasksService.save task
  let _ ← tasksService.findAll
  return .redirectTasks

def cancelEdit : EStateM Failure σ View := do
  let _ ← tasksService.findAll
  return .redirectTasks

def deleteTask (id : Long) : EStateM Failure σ View := do
  tasksService.deleteById id
  let _ ← tasksService.findAll
  return .redirectTasks

def handleAllExceptions (ex : Failure) : View := .error ex

/-- `DispatcherServlet`: the handler of the route, with its arguments bound. An
argument that does not bind is an exception, unless a `BindingResult` follows. -/
def dispatch (conversion : Conversion) : PageRequest → EStateM Failure σ View
  | .index => index tasksService
  | .newTask params =>
    let (task, result) := bindTask conversion none params
    if result = [] then newTask task else throw .argument
  | .postNew params =>
    if params.getParameter "action" = some "cancel" then cancelAdd tasksService
    -- `createTask` has no `params` condition, and takes every other action.
    else
      let (task, result) := bindTask conversion none params
      createTask tasksService task result
  | .edit (some id) => edit tasksService id
  | .postEdit id params =>
    if params.getParameter "action" = some "save" then
      match id with
      | some id =>
        let (task, result) := bindTask conversion (some id) params
        updateTask tasksService id task result
      | none => throw .argument
    else if params.getParameter "action" = some "cancel" then cancelEdit tasksService
    else return .badRequest
  | .delete (some id) => deleteTask tasksService id
  | .edit none | .delete none => throw .argument

end TasksController

/-- A frontend: an exception of a handler becomes the error page. -/
def servePage {σ : Type} (tasksService : TasksService σ) (conversion : Conversion)
    (request : PageRequest) (s : σ) : View × σ :=
  match TasksController.dispatch tasksService conversion request s with
  | .ok view s' => (view, s')
  | .error ex s' => (TasksController.handleAllExceptions ex, s')

/-! ## 1. What a request writes -/

/-- A call of `TasksService` that writes. -/
inductive Write
  | save (task : Frontend.Task)
  | deleteById (id : Long)

/-- The call. -/
def Write.call {σ : Type} (tasksService : TasksService σ) : Write → EStateM Failure σ Unit
  | .save task => do let _ ← tasksService.save task
  | .deleteById id => tasksService.deleteById id

theorem Write.call_save_state {σ : Type} (tasksService : TasksService σ) (task : Frontend.Task)
    (s : σ) :
    ((Write.save task).call tasksService s).state = (tasksService.save task s).state :=
  EStateM.state_bind_of_keeps (fun _ => EStateM.keeps_pure _) s

/-- The request that it sends to the backend. -/
def Write.request : Write → Request
  | .save task => .createBook (some (Jackson.write task))
  | .deleteById id => .deleteTask (some id)

/-- What the handler of the request writes, if it writes. -/
def PageRequest.write (conversion : Conversion) : PageRequest → Option Write
  | .postNew params =>
    if params.getParameter "action" = some "cancel" then none
    else some (.save (bindTask conversion none params).1)
  | .postEdit (some id) params =>
    if params.getParameter "action" = some "save" then
      some (.save (bindTask conversion (some id) params).1)
    else none
  | .delete (some id) => some (.deleteById id)
  | _ => none

theorem write_postNew (conversion : Conversion) (params : Params) :
    (PageRequest.postNew params).write conversion =
      if params.getParameter "action" = some "cancel" then none
      else some (.save (bindTask conversion none params).1) := rfl

theorem write_postEdit (conversion : Conversion) (id : Long) (params : Params) :
    (PageRequest.postEdit (some id) params).write conversion =
      if params.getParameter "action" = some "save" then
        some (.save (bindTask conversion (some id) params).1)
      else none := rfl

section Dispatch

open EStateM

variable {σ : Type} {tasksService : TasksService σ} {conversion : Conversion}
  {request : PageRequest}

/-- A handler that writes does so once, and lists the tasks then. -/
theorem dispatch_of_write {write : Write} (h : request.write conversion = some write) :
    TasksController.dispatch tasksService conversion request = do
      write.call tasksService
      let _ ← tasksService.findAll
      return .redirectTasks := by
  have hsave : ∀ task, (do
      let _ ← tasksService.save task
      let _ ← tasksService.findAll
      return .redirectTasks : EStateM Failure σ View) = do
        (Write.save task).call tasksService
        let _ ← tasksService.findAll
        return .redirectTasks := by
    intro task
    unfold Write.call
    simp only [bind_assoc, pure_bind]
  cases request with
  | index | newTask params | edit id => cases h
  | postNew params =>
    rw [write_postNew] at h
    split at h
    · cases h
    · next hcancel =>
      cases h
      exact (if_neg hcancel).trans (hsave _)
  | postEdit id params =>
    cases id with
    | none => cases h
    | some id =>
      rw [write_postEdit] at h
      split at h
      · next haction =>
        cases h
        exact (if_pos haction).trans (hsave _)
      · cases h
  | delete id =>
    cases id with
    | none => cases h
    | some id =>
      cases h
      rfl

/-- A handler that does not write calls one operation that reads, or none. -/
theorem dispatch_of_read (h : request.write conversion = none) :
    (∃ view : List Frontend.Task → View, TasksController.dispatch tasksService conversion request =
      (do return view (← tasksService.findAll))) ∨
    (∃ id, TasksController.dispatch tasksService conversion request =
      (do return .editTask (← tasksService.getOne id))) ∨
    (∃ view, TasksController.dispatch tasksService conversion request = pure view) ∨
    ∃ ex, TasksController.dispatch tasksService conversion request = throw ex := by
  have hlist : ∃ view : List Frontend.Task → View, (do
      let _ ← tasksService.findAll
      return .redirectTasks : EStateM Failure σ View) = (do return view (← tasksService.findAll)) :=
    ⟨fun _ => .redirectTasks, rfl⟩
  cases request with
  | index => exact .inl ⟨.tasks, rfl⟩
  | newTask params =>
    have hnew : TasksController.dispatch tasksService conversion (.newTask params) =
        if (bindTask conversion none params).2 = [] then
          pure (.addTask (bindTask conversion none params).1)
        else throw .argument := rfl
    rw [hnew]
    split
    · exact .inr (.inr (.inl ⟨_, rfl⟩))
    · exact .inr (.inr (.inr ⟨_, rfl⟩))
  | postNew params =>
    rw [write_postNew] at h
    split at h
    · next hcancel =>
      obtain ⟨view, hview⟩ := hlist
      exact .inl ⟨view, (if_pos hcancel).trans hview⟩
    · cases h
  | edit id =>
    cases id with
    | none => exact .inr (.inr (.inr ⟨_, rfl⟩))
    | some id => exact .inr (.inl ⟨id, rfl⟩)
  | postEdit id params =>
    rcases Decidable.em (params.getParameter "action" = some "save") with hsave | hsave
    · cases id with
      | none => exact .inr (.inr (.inr ⟨_, if_pos hsave⟩))
      | some id =>
        rw [write_postEdit, if_pos hsave] at h
        cases h
    · rcases Decidable.em (params.getParameter "action" = some "cancel") with hcancel | hcancel
      · obtain ⟨view, hview⟩ := hlist
        exact .inl ⟨view, ((if_neg hsave).trans (if_pos hcancel)).trans hview⟩
      · exact .inr (.inr (.inl ⟨_, (if_neg hsave).trans (if_neg hcancel)⟩))
  | delete id =>
    cases id with
    | none => exact .inr (.inr (.inr ⟨_, rfl⟩))
    | some id => cases h

/-- What a handler that does not write does to the state is what its one call
does. -/
theorem dispatch_read_state (h : request.write conversion = none) (s : σ) :
    (TasksController.dispatch tasksService conversion request s).state =
      (tasksService.findAll s).state ∨
    (∃ id, (TasksController.dispatch tasksService conversion request s).state =
      (tasksService.getOne id s).state) ∨
    (TasksController.dispatch tasksService conversion request s).state = s := by
  rcases dispatch_of_read h with ⟨view, he⟩ | ⟨id, he⟩ | ⟨view, he⟩ | ⟨ex, he⟩
  · rw [he]
    exact .inl (state_bind_of_keeps (fun _ => keeps_pure _) s)
  · rw [he]
    exact .inr (.inl ⟨id, state_bind_of_keeps (fun _ => keeps_pure _) s⟩)
  · rw [he]
    exact .inr (.inr rfl)
  · rw [he]
    exact .inr (.inr rfl)

theorem servePage_of_ok {s s' : σ} {view : View}
    (h : TasksController.dispatch tasksService conversion request s = .ok view s') :
    servePage tasksService conversion request s = (view, s') := by
  rw [servePage, h]

theorem servePage_of_error {s s' : σ} {ex : Failure}
    (h : TasksController.dispatch tasksService conversion request s = .error ex s') :
    servePage tasksService conversion request s = (.error ex, s') := by
  rw [servePage, h]
  rfl

theorem servePage_state (s : σ) :
    (servePage tasksService conversion request s).2 =
      (TasksController.dispatch tasksService conversion request s).state := by
  cases h : TasksController.dispatch tasksService conversion request s with
  | ok view s' => exact congrArg Prod.snd (servePage_of_ok h)
  | error ex s' => exact congrArg Prod.snd (servePage_of_error h)

end Dispatch

/-! ## 2. What a request does to the board -/

section Board

open EStateM

variable {σ : Type} {backend : Backend σ} (channel : Channel backend) (conversion : Conversion)

theorem servePage_state_of_read {request : PageRequest} (h : request.write conversion = none)
    (s : σ) : (servePage channel.service conversion request s).2 = s := by
  rw [servePage_state]
  rcases dispatch_read_state h s with he | ⟨id, he⟩ | he
  · exact he.trans (channel.findAll_keeps s)
  · exact he.trans (channel.getOne_keeps id s)
  · exact he

theorem servePage_state_of_write {request : PageRequest} {write : Write}
    (h : request.write conversion = some write) (s : σ) :
    (servePage channel.service conversion request s).2 = (write.call channel.service s).state := by
  rw [servePage_state, dispatch_of_write h]
  exact state_bind_of_keeps (fun _ => channel.findAll_keeps.bind fun _ => keeps_pure _) s

/-- The board of tasks after a write. -/
def Write.board (write : Write) (backend : Backend σ) (s : σ) : Board :=
  match write with
  | .save task => (backend.target s (some task.id)).elim (backend.board s) fun id =>
      (backend.board s).put id task.row
  | .deleteById id => (backend.board s).remove id

omit channel conversion in
/-- A task stays stored unless it is deleted. -/
theorem Write.board_stored (write : Write) {s : σ} {id : Long} (h : backend.board s id ≠ none) :
    write.board backend s id ≠ none ∨ write = .deleteById id := by
  cases write with
  | save task =>
    refine .inl ?_
    show (backend.target s (some task.id)).elim (backend.board s)
      (fun id => (backend.board s).put id task.row) id ≠ none
    cases backend.target s (some task.id) with
    | none => exact h
    | some target => exact PartialMap.put_ne_none h
  | deleteById id' =>
    rcases eq_or_ne id id' with rfl | hne
    · exact .inr rfl
    · refine .inl ?_
      show (backend.board s).remove id' id ≠ none
      rwa [PartialMap.remove_of_ne hne]

omit channel conversion in
/-- Only a save makes a task appear, and only a save of a task that is not
stored. -/
theorem Write.board_appears {write : Write} {s : σ} {key : Long}
    (h : (backend.board s).Appears (write.board backend s) key) :
    ∃ task, write = .save task ∧ backend.board s task.id = none ∧
      backend.target s (some task.id) = some key := by
  cases write with
  | deleteById id => exact absurd h PartialMap.not_appears_remove
  | save task =>
    unfold Write.board at h
    cases htarget : backend.target s (some task.id) with
    | none =>
      simp only [htarget, Option.elim_none] at h
      exact absurd h (PartialMap.not_appears_self _ _)
    | some target =>
      simp only [htarget, Option.elim_some, PartialMap.appears_put_iff] at h
      obtain ⟨rfl, hnone⟩ := h
      refine ⟨task, rfl, ?_, htarget⟩
      -- A stored task would have been saved under its own id, and none would have appeared.
      by_contra hstored
      have hself := backend.target_stored s task.id hstored
      rw [htarget, Option.some.injEq] at hself
      exact hstored (hself ▸ hnone)

/-- What a request does to the board: nothing, or what it writes. -/
theorem servePage_board (request : PageRequest) (s : σ) :
    backend.board (servePage channel.service conversion request s).2 =
      (request.write conversion).elim (backend.board s) fun write => write.board backend s := by
  cases h : request.write conversion with
  | none => exact congrArg backend.board (servePage_state_of_read channel conversion h s)
  | some write =>
    rw [servePage_state_of_write channel conversion h]
    cases write with
    | save task =>
      rw [Option.elim_some, Write.call_save_state]
      exact channel.save_board task s
    | deleteById id => exact channel.deleteById_board id s

/-- The edit page of `id` shows the task stored under `id`. -/
theorem Channel.edit_view {id : Long} {s : σ} {task : Frontend.Task}
    (h : (servePage channel.service conversion (.edit (some id)) s).1 = .editTask task) :
    task.id = id ∧ backend.board s id = some task.row := by
  refine channel.getOne_value ?_
  cases hget : channel.service.getOne id s with
  | ok found s' =>
    have hedit : TasksController.dispatch channel.service conversion (.edit (some id)) s =
        .ok (.editTask found) s' := bind_of_ok hget
    rw [servePage_of_ok hedit] at h
    cases h
    rfl
  | error e s' =>
    have hedit : TasksController.dispatch channel.service conversion (.edit (some id)) s =
        .error e s' := bind_of_error hget
    rw [servePage_of_error hedit] at h
    cases h

/-- The frontend, one request after another. -/
def Channel.pages : Machine σ PageRequest View where
  step s request := servePage channel.service conversion request s

end Board

/-! ## 3. The forms -/

/-- The two submit buttons of the forms, both named `action`. -/
inductive Button
  | save
  | cancel
  deriving DecidableEq

@[inherit_doc Button]
def Button.value : Button → String
  | .save => "save"
  | .cancel => "cancel"

/-- A form as it is rendered: where it is posted to, and its inputs with their
values. -/
structure Form where
  post : Params → PageRequest
  inputs : Params

namespace Form

/-- The user types `text` into the input `name`. -/
def type (form : Form) (name text : String) : Form :=
  { form with
    inputs := form.inputs.map fun input => if input.1 = name then (name, text) else input }

/-- The request of the form: its inputs, and the button that was pressed. -/
def submit (form : Form) (button : Button) : PageRequest :=
  form.post (form.inputs ++ [("action", button.value)])

end Form

/-- The form of `addTask.html`. -/
def addTaskForm (task : Frontend.Task) : Form :=
  ⟨.postNew, [("title", task.title.getD "")]⟩

/-- The form of `editTask.html`. It shows the title only. -/
def editTaskForm (task : Frontend.Task) : Form :=
  ⟨.postEdit (some task.id), [("title", task.title.getD "")]⟩

/-- The add form asks for a task with id 0, the title typed, and not completed. -/
theorem write_addTaskForm (conversion : Conversion) (task : Frontend.Task) (title : String)
    (button : Button) :
    (((addTaskForm task).type "title" title).submit button).write conversion =
      match button with
      | .save => some (.save ⟨0, some title, false⟩)
      | .cancel => none := by
  cases button with
  | save => rfl
  | cancel => rfl

/-- The edit form asks for the task with the id of its page, the title typed, and
not completed. -/
theorem write_editTaskForm (conversion : Conversion) (task : Frontend.Task) (title : String)
    (button : Button) :
    (((editTaskForm task).type "title" title).submit button).write conversion =
      match button with
      | .save => some (.save ⟨task.id, some title, false⟩)
      | .cancel => none := by
  cases button with
  | save => rfl
  | cancel => rfl

end SpiffeTasks
