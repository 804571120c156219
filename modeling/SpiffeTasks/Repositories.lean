import SpiffeTasks.Lib.Outcome
import SpiffeTasks.Tasks

/-!
# The repositories

`TaskRepository` extends `JpaRepository<Task, Long>` in the JPA backend and
`MongoRepository<Task, Long>` in the Mongo backend. Both are modelled by what
their documentation says of the four operations the controller calls.

| operation           | JPA over H2                              | Mongo                    |
|---------------------|------------------------------------------|--------------------------|
| `save`, id 0        | inserts under the next generated id      | replaces or inserts at 0 |
| `save`, id stored   | updates the row                          | replaces the document    |
| `save`, other id    | inserts a copy under a generated id      | inserts under that id    |
| `save`, id null     | (the id is a primitive)                  | throws                   |
| `deleteById`        | deletes, and ignores an id not stored    | the same                 |

Titles are taken to fit their column, which JPA makes a `varchar(255)` by default. Mongo
has no such bound.
-/

namespace SpiffeTasks

/-- What a backend throws. -/
inductive Thrown
  /-- The bare `RuntimeException` of `getTask`. -/
  | runtimeException
  /-- An INSERT whose id the table has already. -/
  | dataIntegrityViolation
  /-- The identity column has run out of `BIGINT` values. -/
  | sequenceExhausted
  /-- Spring Data Mongo does not generate ids of type `Long`. -/
  | cannotAutogenerateId
  deriving DecidableEq

/-- The operations of a `TaskRepository` that the controller calls, on stores
`σ` and entities `T`. -/
structure TaskRepository (σ T : Type) where
  findAll : EStateM Thrown σ (List T)
  save : T → EStateM Thrown σ T
  findById : Long → EStateM Thrown σ (Option T)
  deleteById : Long → EStateM Thrown σ Unit

/-! ## JPA over H2 -/

/-- The H2 database of the JWT demo: the table `task`, and the value that the
generator of its IDENTITY column gives next. Id 0 stands for "new" and is in no
row: `data.sql` does not insert it and the generator starts at 1. -/
structure H2 where
  task : Std.ExtTreeMap Long Row
  identity : Nat
  identity_pos : 0 < identity
  zero_not_mem : (0 : Long) ∉ task

namespace H2

/-- The tasks in the table. -/
def board (db : H2) : Board := fun id => db.task[id]?

/-- The id that the next INSERT without an explicit id gets. A `BIGINT` column
has no value from `2 ^ 63` on. -/
def nextId (db : H2) : Option Long :=
  if db.identity < 2 ^ 63 then some (Int64.ofNat db.identity) else none

/-- The generator moves on, whether or not the INSERT goes through. -/
def advance (db : H2) : H2 :=
  { db with identity := db.identity + 1, identity_pos := Nat.succ_pos _ }

/-- The row `row` under `id`, which is not 0. -/
def write (db : H2) (id : Long) (row : Row) (h : id ≠ 0) : H2 :=
  { db with
    task := db.task.insert id row
    zero_not_mem := by simpa [h] using db.zero_not_mem }

/-- No row under `id`. -/
def delete (db : H2) (id : Long) : H2 :=
  { db with
    task := db.task.erase id
    zero_not_mem := fun h => db.zero_not_mem (Std.ExtTreeMap.mem_of_mem_erase h) }

@[ext] theorem ext {db db' : H2} (htask : db.task = db'.task)
    (hidentity : db.identity = db'.identity) : db = db' := by
  cases db
  cases db'
  cases htask
  cases hidentity
  rfl

theorem ofNat_inj {m n : Nat} (hm : m < 2 ^ 63) (hn : n < 2 ^ 63)
    (h : Int64.ofNat m = Int64.ofNat n) : m = n := by
  have h' := congrArg Int64.toInt h
  rw [Int64.toInt_ofNat_of_lt hm, Int64.toInt_ofNat_of_lt hn] at h'
  exact Int.ofNat_inj.mp h'

theorem nextId_eq_some_iff {db : H2} {id : Long} :
    db.nextId = some id ↔ db.identity < 2 ^ 63 ∧ id = Int64.ofNat db.identity := by
  unfold nextId
  split
  · next hlt => rw [Option.some.injEq, and_iff_right hlt, eq_comm]
  · next hout => exact iff_of_false (Option.some_ne_none id).symm fun h => hout h.1

theorem nextId_eq_none_iff {db : H2} : db.nextId = none ↔ 2 ^ 63 ≤ db.identity := by
  rw [nextId, ite_eq_right_iff, ← Nat.not_lt]
  exact forall_congr' fun _ => iff_of_false (Option.some_ne_none _) not_false

theorem nextId_ne_zero {db : H2} {id : Long} (h : db.nextId = some id) : id ≠ 0 := by
  obtain ⟨hlt, rfl⟩ := nextId_eq_some_iff.mp h
  intro hzero
  have hidentity : db.identity = 0 := ofNat_inj hlt (by decide) hzero
  exact absurd hidentity (Nat.ne_of_gt db.identity_pos)

theorem ne_zero_of_mem {db : H2} {id : Long} (h : id ∈ db.task) : id ≠ 0 := by
  rintro rfl
  exact db.zero_not_mem h

theorem mem_iff {db : H2} {id : Long} : id ∈ db.task ↔ db.board id ≠ none :=
  PartialMap.mem_tree_iff

theorem not_mem_iff {db : H2} {id : Long} : id ∉ db.task ↔ db.board id = none := by
  rw [mem_iff, not_not]

/-- Two databases with the same tasks and the same generator are the same. -/
theorem ext_board {db db' : H2} (hboard : db.board = db'.board)
    (hidentity : db.identity = db'.identity) : db = db' :=
  H2.ext (PartialMap.ofTree_injective hboard) hidentity

@[simp] theorem board_write (db : H2) (id : Long) (row : Row) (h : id ≠ 0) :
    (db.write id row h).board = db.board.put id row :=
  PartialMap.ofTree_insert db.task id row

@[simp] theorem board_delete (db : H2) (id : Long) :
    (db.delete id).board = db.board.remove id :=
  PartialMap.ofTree_erase db.task id

/-- The database after `data.sql`: three rows with explicit ids, which do not
move the generator on. -/
def seeded : H2 where
  task := ((∅ : Std.ExtTreeMap Long Row).insert 1 ⟨some "Write SPIFFE tutorial", false⟩
    |>.insert 2 ⟨some "Review PR", false⟩).insert 3 ⟨some "Call my Mom", false⟩
  identity := 1
  identity_pos := Nat.one_pos
  zero_not_mem := by decide

/-- The id that the next INSERT without an explicit id goes through under, if it
goes through: the generated id, unless a row has it. -/
def freeId (db : H2) : Option Long :=
  db.nextId.filter fun id => decide (id ∉ db.task)

/-- The id under which `save` stores a task with the id `id`, if it does. -/
def target (db : H2) (id : Long) : Option Long :=
  if id ∈ db.task then some id else db.freeId

theorem target_of_none {db : H2} {id : Long} (h : db.board id = none) :
    db.target id = db.freeId :=
  if_neg (not_mem_iff.mpr h)

theorem freeId_of_none {db : H2} (h : db.nextId = none) : db.freeId = none := by
  rw [freeId, h, Option.filter_none]

theorem freeId_of_mem {db : H2} {id : Long} (h : db.nextId = some id) (hmem : id ∈ db.task) :
    db.freeId = none := by
  simp [freeId, h, Option.filter_some, hmem]

theorem freeId_of_not_mem {db : H2} {id : Long} (h : db.nextId = some id)
    (hmem : id ∉ db.task) : db.freeId = some id := by
  simp [freeId, h, Option.filter_some, hmem]

theorem freeId_eq_some_iff {db : H2} {id : Long} :
    db.freeId = some id ↔ db.nextId = some id ∧ db.board id = none := by
  unfold freeId
  rw [Option.filter_eq_some_iff, decide_eq_true_iff, not_mem_iff]

theorem freeId_eq_none_iff {db : H2} :
    db.freeId = none ↔ ∀ id, db.nextId = some id → db.board id ≠ none := by
  rw [Option.eq_none_iff_forall_ne_some]
  refine forall_congr' fun id => ?_
  rw [Ne, freeId_eq_some_iff, not_and]

theorem target_eq_none_iff {db : H2} {id : Long} :
    db.target id = none ↔ db.board id = none ∧ db.freeId = none := by
  unfold target
  split
  · next hmem => exact iff_of_false (Option.some_ne_none id) fun h => mem_iff.mp hmem h.1
  · next hmem => rw [and_iff_right (not_mem_iff.mp hmem)]

theorem write_eq_self_iff {db : H2} {id : Long} {row : Row} (h : id ≠ 0) :
    db.write id row h = db ↔ db.board id = some row := by
  rw [← PartialMap.put_eq_self_iff, ← board_write db id row h]
  exact ⟨fun he => congrArg board he, fun he => ext_board he rfl⟩

theorem delete_eq_self_iff {db : H2} {id : Long} : db.delete id = db ↔ db.board id = none := by
  rw [← PartialMap.remove_eq_self_iff, ← board_delete db id]
  exact ⟨fun he => congrArg board he, fun he => ext_board he rfl⟩

end H2

namespace JpaRepository

/-- A row of the table as an entity. -/
def entity (id : Long) (row : Row) : Jpa.Task := ⟨id, row.title, row.completed⟩

def findAll : EStateM Thrown H2 (List Jpa.Task) := fun db =>
  .ok (db.task.toList.map fun entry => entity entry.1 entry.2) db

def findById (id : Long) : EStateM Thrown H2 (Option Jpa.Task) := fun db =>
  .ok ((db.task[id]?).map (entity id)) db

/-- `EntityManager.persist`: an INSERT that leaves the id to the generator. -/
def persist (row : Row) : EStateM Thrown H2 Jpa.Task := fun db =>
  match h : db.nextId with
  | none => .error .sequenceExhausted db
  | some id =>
    -- The primary key rejects the row, and the generated value is used up all the same.
    if id ∈ db.task then .error .dataIntegrityViolation db.advance
    else .ok (entity id row) (db.advance.write id row (H2.nextId_ne_zero h))

/-- `EntityManager.merge`: an UPDATE of the row of the task, or the INSERT of a
copy if there is no such row. -/
def merge (task : Jpa.Task) : EStateM Thrown H2 Jpa.Task := fun db =>
  if h : task.id ∈ db.task then .ok task (db.write task.id task.row (H2.ne_zero_of_mem h))
  else persist task.row db

/-- `SimpleJpaRepository.save`: an entity is new when its primitive id is 0. -/
def save (task : Jpa.Task) : EStateM Thrown H2 Jpa.Task :=
  if task.id = 0 then persist task.row else merge task

def deleteById (id : Long) : EStateM Thrown H2 Unit := fun db =>
  .ok () (db.delete id)

end JpaRepository

/-- The repository of the JPA backend. -/
def jpaRepository : TaskRepository H2 Jpa.Task where
  findAll := JpaRepository.findAll
  save := JpaRepository.save
  findById := JpaRepository.findById
  deleteById := JpaRepository.deleteById

namespace JpaRepository

/-- What an INSERT without an explicit id can do: the generator has run out, the
primary key rejects the generated id, or the row is inserted under it. -/
theorem persist_cases (row : Row) (db : H2) :
    (db.nextId = none ∧ persist row db = .error .sequenceExhausted db) ∨
    (∃ id, db.nextId = some id ∧ id ∈ db.task ∧
      persist row db = .error .dataIntegrityViolation db.advance) ∨
    (∃ id, ∃ h : db.nextId = some id, id ∉ db.task ∧
      persist row db = .ok (entity id row) (db.advance.write id row (H2.nextId_ne_zero h))) := by
  unfold persist
  split
  · next h => exact .inl ⟨h, rfl⟩
  · next id h =>
    split
    · next hmem => exact .inr (.inl ⟨id, h, hmem, rfl⟩)
    · next hmem => exact .inr (.inr ⟨id, h, hmem, rfl⟩)

theorem persist_value (row : Row) (db : H2) :
    (persist row db).value? = db.freeId.map fun id => entity id row := by
  rcases persist_cases row db with ⟨h, he⟩ | ⟨id, h, hmem, he⟩ | ⟨id, h, hmem, he⟩
  · rw [he, H2.freeId_of_none h]
    rfl
  · rw [he, H2.freeId_of_mem h hmem]
    rfl
  · rw [he, H2.freeId_of_not_mem h hmem]
    rfl

theorem persist_board (row : Row) (db : H2) :
    (persist row db).state.board =
      db.freeId.elim db.board fun id => db.board.put id row := by
  rcases persist_cases row db with ⟨h, he⟩ | ⟨id, h, hmem, he⟩ | ⟨id, h, hmem, he⟩
  · rw [he, H2.freeId_of_none h]
    rfl
  · rw [he, H2.freeId_of_mem h hmem]
    rfl
  · rw [he, H2.freeId_of_not_mem h hmem]
    exact H2.board_write _ _ _ (H2.nextId_ne_zero h)

/-- Every INSERT that gets an id moves the generator on. -/
theorem persist_identity (row : Row) (db : H2) :
    (persist row db).state.identity = db.nextId.elim db.identity fun _ => db.identity + 1 := by
  rcases persist_cases row db with ⟨h, he⟩ | ⟨id, h, hmem, he⟩ | ⟨id, h, hmem, he⟩ <;>
    rw [he, h] <;> rfl

/-- A `save` is an UPDATE when the id is that of a row, and an INSERT without an
explicit id in every other case. -/
theorem save_cases (task : Jpa.Task) (db : H2) :
    (∃ h : task.id ∈ db.task,
      save task db = .ok task (db.write task.id task.row (H2.ne_zero_of_mem h))) ∨
    (task.id ∉ db.task ∧ save task db = persist task.row db) := by
  unfold save
  split
  · next hzero => exact .inr ⟨by rw [hzero]; exact db.zero_not_mem, rfl⟩
  · unfold merge
    split
    · next h => exact .inl ⟨h, rfl⟩
    · next h => exact .inr ⟨h, rfl⟩

theorem save_value (task : Jpa.Task) (db : H2) :
    (save task db).value? = (db.target task.id).map fun id => entity id task.row := by
  unfold H2.target
  rcases save_cases task db with ⟨hmem, hsave⟩ | ⟨hmem, hsave⟩
  · rw [hsave, if_pos hmem]
    rfl
  · rw [hsave, if_neg hmem, persist_value]

theorem save_board (task : Jpa.Task) (db : H2) :
    (save task db).state.board =
      (db.target task.id).elim db.board fun id => db.board.put id task.row := by
  unfold H2.target
  rcases save_cases task db with ⟨hmem, hsave⟩ | ⟨hmem, hsave⟩
  · rw [hsave, if_pos hmem]
    exact H2.board_write db task.id task.row (H2.ne_zero_of_mem hmem)
  · rw [hsave, if_neg hmem, persist_board]

/-- An INSERT without an explicit id leaves the database as it is only when the
generator has run out. -/
theorem persist_state_eq_self_iff {row : Row} {db : H2} :
    (persist row db).state = db ↔ db.nextId = none := by
  refine ⟨fun h => ?_, fun h => ?_⟩
  · have hidentity := persist_identity row db
    rw [h] at hidentity
    cases hnext : db.nextId with
    | none => rfl
    | some id =>
      rw [hnext] at hidentity
      exact absurd hidentity (Nat.ne_of_lt (Nat.lt_succ_self _))
  · -- Every other outcome of an INSERT uses up a value of the generator.
    rcases persist_cases row db with ⟨_, he⟩ | ⟨id, hnext, _⟩ | ⟨id, hnext, _⟩
    · rw [he]
      rfl
    · rw [h] at hnext
      exact absurd hnext (Option.some_ne_none id).symm
    · rw [h] at hnext
      exact absurd hnext (Option.some_ne_none id).symm

/-- A `save` leaves the database as it is when the row is there already, and when
it is an INSERT with the generator run out. -/
theorem save_state_eq_self_iff {task : Jpa.Task} {db : H2} :
    (save task db).state = db ↔
      db.board task.id = some task.row ∨ (db.board task.id = none ∧ db.nextId = none) := by
  rcases save_cases task db with ⟨hmem, he⟩ | ⟨hmem, he⟩
  · have hne : db.board task.id ≠ none := H2.mem_iff.mp hmem
    rw [he, EStateM.Result.state_ok, H2.write_eq_self_iff]
    exact ⟨.inl, fun h => h.resolve_right fun h' => hne h'.1⟩
  · have hnone : db.board task.id = none := H2.not_mem_iff.mp hmem
    rw [he, persist_state_eq_self_iff, hnone]
    exact ⟨fun h => .inr ⟨rfl, h⟩, fun h => (h.resolve_left (by simp)).2⟩

/-- It leaves the tasks as they are also when the generated id is taken. -/
theorem save_board_eq_self_iff {task : Jpa.Task} {db : H2} :
    (save task db).state.board = db.board ↔
      db.board task.id = some task.row ∨ (db.board task.id = none ∧ db.freeId = none) := by
  rw [save_board]
  cases hboard : db.board task.id with
  | none =>
    rw [H2.target_of_none hboard]
    cases hfree : db.freeId with
    | none => exact iff_of_true rfl (.inr ⟨rfl, rfl⟩)
    | some id =>
      have hid : db.board id = none := (H2.freeId_eq_some_iff.mp hfree).2
      refine iff_of_false (fun h => ?_) (by simp)
      have hput := PartialMap.put_eq_self_iff.mp h
      exact absurd (hid.symm.trans hput) (Option.some_ne_none _).symm
  | some row =>
    have hmem : task.id ∈ db.task := H2.mem_iff.mpr (by simp [hboard])
    rw [H2.target, if_pos hmem]
    show db.board.put task.id task.row = db.board ↔ _
    rw [PartialMap.put_eq_self_iff, hboard]
    exact ⟨.inl, fun h => h.resolve_right fun h' => Option.some_ne_none row h'.1⟩

end JpaRepository

/-! ## Mongo -/

/-- The Mongo database: the collection `task`. -/
@[ext] structure MongoDb where
  task : Std.ExtTreeMap Long Row

namespace MongoDb

/-- The tasks in the collection. -/
def board (db : MongoDb) : Board := fun id => db.task[id]?

def write (db : MongoDb) (id : Long) (row : Row) : MongoDb := ⟨db.task.insert id row⟩

def delete (db : MongoDb) (id : Long) : MongoDb := ⟨db.task.erase id⟩

@[simp] theorem board_write (db : MongoDb) (id : Long) (row : Row) :
    (db.write id row).board = db.board.put id row :=
  PartialMap.ofTree_insert db.task id row

@[simp] theorem board_delete (db : MongoDb) (id : Long) :
    (db.delete id).board = db.board.remove id :=
  PartialMap.ofTree_erase db.task id

/-- Two collections with the same tasks are the same. -/
theorem ext_board {db db' : MongoDb} (h : db.board = db'.board) : db = db' :=
  MongoDb.ext (PartialMap.ofTree_injective h)

end MongoDb

namespace MongoRepository

/-- A document of the collection as an entity. -/
def entity (id : Long) (row : Row) : Mongo.Task := ⟨some id, row.title, row.completed⟩

def findAll : EStateM Thrown MongoDb (List Mongo.Task) := fun db =>
  .ok (db.task.toList.map fun entry => entity entry.1 entry.2) db

def findById (id : Long) : EStateM Thrown MongoDb (Option Mongo.Task) := fun db =>
  .ok ((db.task[id]?).map (entity id)) db

/-- `SimpleMongoRepository.save`: an entity is new when its `Long` id is null,
and every other entity replaces the document under its id or is inserted there. -/
def save (task : Mongo.Task) : EStateM Thrown MongoDb Mongo.Task := fun db =>
  match task.id with
  | none => .error .cannotAutogenerateId db
  | some id => .ok task (db.write id task.row)

def deleteById (id : Long) : EStateM Thrown MongoDb Unit := fun db =>
  .ok () (db.delete id)

end MongoRepository

/-- The repository of the Mongo backend. -/
def mongoRepository : TaskRepository MongoDb Mongo.Task where
  findAll := MongoRepository.findAll
  save := MongoRepository.save
  findById := MongoRepository.findById
  deleteById := MongoRepository.deleteById

end SpiffeTasks
