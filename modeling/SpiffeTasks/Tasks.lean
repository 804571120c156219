import Mathlib.Algebra.Group.Nat.Defs
import SpiffeTasks.Lib.PartialMap

/-!
# The task classes and their JSON

The demos have three classes called `Task`: `com.example.model.Task` in every
frontend, and `com.example.domain.Task` in the JPA backend and in the Mongo
backend. They differ in the type of `id`: a primitive `long` in the first two,
a `Long` that may be null in the third. A nullable Java reference is an
`Option` here.
-/

namespace SpiffeTasks

/-- Java's `long`, and a `Long` that is not null. -/
abbrev Long := Int64

/-- What is stored of a task under its id. -/
structure Row where
  title : Option String
  completed : Bool
  deriving DecidableEq

/-- The tasks in a store: under each id at most one task. -/
abbrev Board := PartialMap Long Row

/-- A task as a JSON object. A field that is absent or null is `none`. -/
structure TaskJson where
  id : Option Long
  title : Option String
  completed : Option Bool
  deriving DecidableEq

/-- `com.example.model.Task` of the frontends. The defaults are the ones Java
gives the fields of a freshly constructed object. -/
structure Frontend.Task where
  id : Long := 0
  title : Option String := none
  completed : Bool := false
  deriving DecidableEq

/-- `com.example.domain.Task` of the JPA backend. -/
structure Jpa.Task where
  id : Long
  title : Option String
  completed : Bool
  deriving DecidableEq

/-- `com.example.domain.Task` of the Mongo backend. -/
structure Mongo.Task where
  id : Option Long
  title : Option String
  completed : Bool
  deriving DecidableEq

/-- How Jackson writes and reads the objects of a class. -/
class Jackson (T : Type) where
  write : T → TaskJson
  read : TaskJson → T

/-- A primitive field that the JSON leaves out or sets to null gets its Java
default. -/
instance : Jackson Frontend.Task where
  write task := ⟨some task.id, task.title, some task.completed⟩
  read json := ⟨json.id.getD 0, json.title, json.completed.getD false⟩

instance : Jackson Jpa.Task where
  write task := ⟨some task.id, task.title, some task.completed⟩
  read json := ⟨json.id.getD 0, json.title, json.completed.getD false⟩

instance : Jackson Mongo.Task where
  write task := ⟨task.id, task.title, some task.completed⟩
  read json := ⟨json.id, json.title, json.completed.getD false⟩

/-- What a store keeps of the task, apart from its id. -/
def Frontend.Task.row (task : Frontend.Task) : Row := ⟨task.title, task.completed⟩

@[inherit_doc Frontend.Task.row]
def Jpa.Task.row (task : Jpa.Task) : Row := ⟨task.title, task.completed⟩

@[inherit_doc Frontend.Task.row]
def Mongo.Task.row (task : Mongo.Task) : Row := ⟨task.title, task.completed⟩

@[inherit_doc Frontend.Task.row]
def TaskJson.row (json : TaskJson) : Row := ⟨json.title, json.completed.getD false⟩

/-- No field of a frontend task is lost on the way to a JSON object and back. -/
theorem Frontend.Task.read_write (task : Frontend.Task) :
    Jackson.read (Jackson.write task) = task := rfl

end SpiffeTasks
