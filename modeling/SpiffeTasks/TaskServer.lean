import SpiffeTasks.Backend
import SpiffeTasks.Lib.Machine

/-!
# What a backend is for

Seen from its clients, a backend is a board of tasks and the requests that it
acknowledges. This module says so without the stores, and shows that both
backends are of that kind.

1. `TaskServer`, `jpaServer`, `mongoServer`: backends that answer from the board.
2. `Board.Step`, `run_refines`: the board by itself, with what it may answer to
   each request. Every run of a server is a run of the board.
3. `reads_last_write`: after every run, what is read under an id is what the last
   acknowledged write to it left.
4. `interchangeable_iff`: when a run over the one backend can be told from the same
   run over the other.
-/

namespace SpiffeTasks

/-- The task stored under `id`, as a JSON object. -/
def taskJson (id : Long) (row : Row) : TaskJson := ⟨some id, row.title, some row.completed⟩

/-- An argument of the handler does not bind. -/
def Request.unbound : Request → Bool
  | .createBook none | .getTask none | .deleteTask none => true
  | _ => false

/-! ## 1. Task servers -/

/-- A backend whose answers are those of its board. -/
structure TaskServer (σ : Type) extends Backend σ where
  listing : σ → List (Long × Row)
  listing_nodup : ∀ s, ((listing s).map Prod.fst).Nodup
  mem_listing : ∀ s id row, (id, row) ∈ listing s ↔ board s id = some row
  getTasks_eq : ∀ s, serve .getTasks s =
    (.ok (.tasks ((listing s).map fun entry => taskJson entry.1 entry.2)), s)
  createBook_fst : ∀ json s, (serve (.createBook (some json)) s).1 =
    (target s json.id).elim (.errorPage 500) fun id => .ok (.task (taskJson id json.row))
  deleteTask_fst : ∀ id s, (serve (.deleteTask (some id)) s).1 = .ok .empty
  unbound_eq : ∀ request s, request.unbound = true → serve request s = (.errorPage 400, s)
  target_none : ∀ s key, target s none = some key → board s key = none

open BackendLemmas

namespace TaskServerLemmas

theorem serve_unbound {σ T : Type} [Jackson T] (taskRepository : TaskRepository σ T)
    (request : Request) (s : σ) (h : request.unbound = true) :
    serve taskRepository request s = (.errorPage 400, s) := by
  cases request with
  | getTasks => cases h
  | createBook body =>
    cases body with
    | none => rfl
    | some json => cases h
  | getTask id | deleteTask id =>
    cases id with
    | none => rfl
    | some id => cases h

theorem serve_createBook_fst {σ T : Type} [Jackson T] (taskRepository : TaskRepository σ T)
    (json : TaskJson) (s : σ) :
    (serve taskRepository (.createBook (some json)) s).1 =
      (taskRepository.save (Jackson.read json) s).value?.elim (.errorPage 500) fun task =>
        .ok (.task (Jackson.write task)) := by
  rw [serve_createBook]
  cases taskRepository.save (Jackson.read json) s with
  | ok task s' => rfl
  | error e s' => rfl

theorem toList_nodup (t : Std.ExtTreeMap Long Row) : (t.toList.map Prod.fst).Nodup := by
  rw [Std.ExtTreeMap.map_fst_toList_eq_keys]
  exact Std.ExtTreeMap.nodup_keys

end TaskServerLemmas

open TaskServerLemmas

/-- The backend of the JWT demo, behind its filter. -/
def jpaServer : TaskServer H2 where
  toBackend := jpaBackend
  listing db := db.task.toList
  listing_nodup db := toList_nodup db.task
  mem_listing db _ _ := Std.ExtTreeMap.mem_toList_iff_getElem?_eq_some
  getTasks_eq db := by
    show serve jpaRepository .getTasks db = _
    rw [serve_getTasks]
    show (Response.ok (.tasks ((db.task.toList.map _).map _)), db) = _
    rw [List.map_map]
    rfl
  createBook_fst json db := by
    have hvalue := JpaRepository.save_value (Jackson.read json) db
    show (serve jpaRepository (.createBook (some json)) db).1 = _
    rw [serve_createBook_fst]
    show ((JpaRepository.save (Jackson.read json) db).value?).elim _ _ = _
    rw [hvalue, Option.elim_map]
    rfl
  deleteTask_fst id db := by
    show (serve jpaRepository (.deleteTask (some id)) db).1 = _
    rw [Jpa.serve_deleteTask]
  unbound_eq := serve_unbound jpaRepository
  target_none db key h := by
    change db.target 0 = some key at h
    rw [H2.target, if_neg db.zero_not_mem] at h
    exact (H2.freeId_eq_some_iff.mp h).2

/-- The backend of the Mongo demo. -/
def mongoServer : TaskServer MongoDb where
  toBackend := mongoBackend
  listing db := db.task.toList
  listing_nodup db := toList_nodup db.task
  mem_listing db _ _ := Std.ExtTreeMap.mem_toList_iff_getElem?_eq_some
  getTasks_eq db := by
    show serve mongoRepository .getTasks db = _
    rw [serve_getTasks]
    show (Response.ok (.tasks ((db.task.toList.map _).map _)), db) = _
    rw [List.map_map]
    rfl
  createBook_fst json db := by
    show (serve mongoRepository (.createBook (some json)) db).1 = json.id.elim _ _
    rw [Mongo.serve_createBook]
    cases json.id with
    | none => rfl
    | some id => rfl
  deleteTask_fst id db := by
    show (serve mongoRepository (.deleteTask (some id)) db).1 = _
    rw [Mongo.serve_deleteTask]
  unbound_eq := serve_unbound mongoRepository
  target_none db key h := by cases h

/-- A server, one request after another. -/
def TaskServer.machine {σ : Type} (server : TaskServer σ) : Machine σ Request Response where
  step s request := server.serve request s

/-! ## 2. The board by itself -/

namespace Board

/-- What the entries of `board` are, in some order. -/
def Lists (board : Board) (entries : List (Long × Row)) : Prop :=
  (entries.map Prod.fst).Nodup ∧ ∀ id row, (id, row) ∈ entries ↔ board id = some row

theorem Lists.perm {board : Board} {entries entries' : List (Long × Row)}
    (h : board.Lists entries) (h' : board.Lists entries') : entries.Perm entries' := by
  refine (List.perm_ext_iff_of_nodup (.of_map _ h.1) (.of_map _ h'.1)).mpr ?_
  rintro ⟨id, row⟩
  rw [h.2, h'.2]

/-- The answers that a board of tasks may give to a request, and the board that is
left. Only the id of a task that was not stored is not settled, and whether there
is one for it. -/
inductive Step : Board → Request → Response → Board → Prop
  | list {board : Board} {entries : List (Long × Row)} : board.Lists entries →
      Step board .getTasks
        (.ok (.tasks (entries.map fun entry => taskJson entry.1 entry.2))) board
  | found {board : Board} {id : Long} {row : Row} : board id = some row →
      Step board (.getTask (some id)) (.ok (.task (taskJson id row))) board
  | missing {board : Board} {id : Long} : board id = none →
      Step board (.getTask (some id)) (.errorPage 500) board
  | overwrite {board : Board} {json : TaskJson} {id : Long} : json.id = some id →
      board id ≠ none →
      Step board (.createBook (some json)) (.ok (.task (taskJson id json.row)))
        (board.put id json.row)
  | insert {board : Board} {json : TaskJson} {key : Long} :
      (∀ id, json.id = some id → board id = none) → board key = none →
      Step board (.createBook (some json)) (.ok (.task (taskJson key json.row)))
        (board.put key json.row)
  | refuse {board : Board} {json : TaskJson} :
      (∀ id, json.id = some id → board id = none) →
      Step board (.createBook (some json)) (.errorPage 500) board
  | delete {board : Board} {id : Long} :
      Step board (.deleteTask (some id)) (.ok .empty) (board.remove id)
  | unbound {board : Board} {request : Request} : request.unbound = true →
      Step board request (.errorPage 400) board

/-- The board after a log of requests and their answers. -/
inductive Run : Board → List (Request × Response) → Board → Prop
  | nil {board : Board} : Run board [] board
  | cons {board board' board'' : Board} {request : Request} {response : Response}
      {log : List (Request × Response)} : Step board request response board' →
      Run board' log board'' → Run board ((request, response) :: log) board''

end Board

/-- The board that a request leaves, where `target` says under which id a submitted
task is stored. -/
def Request.effect (target : Option Long → Option Long) (board : Board) : Request → Board
  | .createBook (some json) => (target json.id).elim board fun id => board.put id json.row
  | .deleteTask (some id) => board.remove id
  | _ => board

section Refinement

variable {σ : Type} (server : TaskServer σ)

theorem TaskServer.board_effect (s : σ) (request : Request) :
    server.board (server.machine.step s request).2 =
      request.effect (server.target s) (server.board s) := by
  show server.board (server.serve request s).2 = _
  cases request with
  | getTasks => rw [server.getTasks_state]; rfl
  | getTask taskId =>
    cases taskId with
    | none => rw [server.unbound_eq _ s rfl]; rfl
    | some id => rw [server.getTask_eq]; rfl
  | createBook body =>
    cases body with
    | none => rw [server.unbound_eq _ s rfl]; rfl
    | some json => exact server.createBook_board json s
  | deleteTask taskId =>
    cases taskId with
    | none => rw [server.unbound_eq _ s rfl]; rfl
    | some id => exact server.deleteTask_board id s

/-- A task that is not stored is stored under an id without a task. -/
theorem TaskServer.target_fresh_of_new {s : σ} {json : TaskJson} {key : Long}
    (hnew : ∀ id, json.id = some id → server.board s id = none)
    (htarget : server.target s json.id = some key) : server.board s key = none := by
  cases hid : json.id with
  | none =>
    rw [hid] at htarget
    exact server.target_none s key htarget
  | some id =>
    rw [hid] at htarget
    exact server.target_fresh s id key (hnew id hid) htarget

theorem TaskServer.lists (s : σ) : (server.board s).Lists (server.listing s) :=
  ⟨server.listing_nodup s, server.mem_listing s⟩

/-- Every answer of a server is one that its board may give. -/
theorem TaskServer.step_refines (s : σ) (request : Request) :
    Board.Step (server.board s) request (server.machine.step s request).1
      (server.board (server.machine.step s request).2) := by
  have hunbound : request.unbound = true → Board.Step (server.board s) request
      (server.serve request s).1 (server.board (server.serve request s).2) := by
    intro h
    rw [server.unbound_eq request s h]
    exact .unbound h
  show Board.Step (server.board s) request (server.serve request s).1
    (server.board (server.serve request s).2)
  cases request with
  | getTasks =>
    rw [server.getTasks_eq]
    exact .list (server.lists s)
  | getTask taskId =>
    cases taskId with
    | none => exact hunbound rfl
    | some id =>
      rw [server.getTask_eq]
      cases hrow : server.board s id with
      | none => exact .missing hrow
      | some row => exact .found hrow
  | createBook body =>
    cases body with
    | none => exact hunbound rfl
    | some json =>
      rw [server.createBook_fst, server.createBook_board]
      by_cases hstored : ∃ id, json.id = some id ∧ server.board s id ≠ none
      · obtain ⟨id, hid, hrow⟩ := hstored
        rw [hid, server.target_stored s id hrow]
        exact .overwrite hid hrow
      · have hnew : ∀ id, json.id = some id → server.board s id = none := by
          intro id hid
          by_contra hrow
          exact hstored ⟨id, hid, hrow⟩
        cases htarget : server.target s json.id with
        | none => exact .refuse hnew
        | some key => exact .insert hnew (server.target_fresh_of_new hnew htarget)
  | deleteTask taskId =>
    cases taskId with
    | none => exact hunbound rfl
    | some id =>
      rw [server.deleteTask_fst, server.deleteTask_board]
      exact .delete

/-- Every run of a server is a run of its board. -/
theorem TaskServer.run_refines (s : σ) (requests : List Request) :
    Board.Run (server.board s) (server.machine.trace s requests)
      (server.board (server.machine.run s requests)) := by
  induction requests generalizing s with
  | nil => exact .nil
  | cons request requests ih => exact .cons (server.step_refines s request) (ih _)

end Refinement

/-! ## 3. Reads and acknowledged writes -/

/-- What a request left under `id`, if it was acknowledged and wrote there. -/
def wrote (id : Long) : Request × Response → Option (Option Row)
  | (.createBook (some json), ⟨_, .task written⟩) =>
    if written.id = some id then some (some json.row) else none
  | (.deleteTask (some id'), ⟨_, .empty⟩) => if id' = id then some none else none
  | _ => none

/-- What the last acknowledged write to `id` in the log left there. -/
def lastWrite (id : Long) (log : List (Request × Response)) : Option (Option Row) :=
  (log.filterMap (wrote id)).getLast?

namespace TaskServerLemmas

theorem lastWrite_cons (id : Long) (entry : Request × Response)
    (log : List (Request × Response)) (board : Board) :
    (lastWrite id (entry :: log)).getD (board id) =
      (lastWrite id log).getD ((wrote id entry).getD (board id)) := by
  unfold lastWrite
  cases hwrote : wrote id entry with
  | none =>
    rw [List.filterMap_cons_none hwrote]
    rfl
  | some left =>
    rw [List.filterMap_cons_some hwrote, List.getLast?_cons]
    cases (log.filterMap (wrote id)).getLast? with
    | none => rfl
    | some last => rfl

theorem put_wrote (board : Board) (key id : Long) (json : TaskJson) :
    board.put key json.row id =
      (wrote id (.createBook (some json), .ok (.task (taskJson key json.row)))).getD
        (board id) := by
  show _ = (if some key = some id then some (some json.row) else none : Option (Option Row)).getD _
  obtain rfl | hne := eq_or_ne id key
  · rw [PartialMap.put_same, if_pos rfl]
    rfl
  · rw [PartialMap.put_of_ne hne, if_neg fun h => hne (Option.some.inj h).symm]
    rfl

end TaskServerLemmas

/-- The log says what a request does to the board. -/
theorem Board.Step.wrote {board board' : Board} {request : Request} {response : Response}
    (h : Board.Step board request response board') (id : Long) :
    board' id = (wrote id (request, response)).getD (board id) := by
  cases h with
  | list hlists => rfl
  | found hrow => rfl
  | missing hrow => rfl
  | overwrite hid hrow => exact put_wrote board _ id _
  | insert hnew hfree => exact put_wrote board _ id _
  | refuse hnew => rfl
  | @delete id' =>
    show _ = (if id' = id then some none else none : Option (Option Row)).getD _
    obtain rfl | hne := eq_or_ne id id'
    · rw [PartialMap.remove_same, if_pos rfl]
      rfl
    · rw [PartialMap.remove_of_ne hne, if_neg hne.symm]
      rfl
  | unbound hunbound =>
    cases request with
    | getTasks => rfl
    | createBook body => cases body <;> rfl
    | getTask taskId => rfl
    | deleteTask taskId => cases taskId <;> rfl

theorem Board.Run.lastWrite {board board' : Board} {log : List (Request × Response)}
    (h : Board.Run board log board') (id : Long) :
    board' id = (lastWrite id log).getD (board id) := by
  induction h with
  | nil => rfl
  | cons hstep hrun ih => rw [ih, hstep.wrote, lastWrite_cons]

/-- After every run of requests, what a client reads under an id, by itself and in
the list, is what the last acknowledged write to that id left there, and what was
there at the start if there was none. -/
theorem TaskServer.reads_last_write {σ : Type} (server : TaskServer σ) (s : σ)
    (requests : List Request) (id : Long) :
    let entry := (lastWrite id (server.machine.trace s requests)).getD (server.board s id)
    (server.machine.step (server.machine.run s requests) (.getTask (some id))).1 =
      (entry.elim (.errorPage 500) fun row => .ok (.task (taskJson id row))) ∧
    ∃ entries : List (Long × Row),
      (server.machine.step (server.machine.run s requests) .getTasks).1 =
        .ok (.tasks (entries.map fun entry => taskJson entry.1 entry.2)) ∧
      (entries.map Prod.fst).Nodup ∧ ∀ row, (id, row) ∈ entries ↔ entry = some row := by
  intro entry
  have hboard : server.board (server.machine.run s requests) id = entry :=
    (server.run_refines s requests).lastWrite id
  constructor
  · rw [← hboard]
    exact congrArg Prod.fst (server.getTask_eq id _)
  · refine ⟨server.listing (server.machine.run s requests), ?_, server.listing_nodup _, ?_⟩
    · exact congrArg Prod.fst (server.getTasks_eq _)
    · intro row
      rw [← hboard]
      exact server.mem_listing _ id row

/-! ## 4. The two backends compared -/

/-- The same answer, up to the order of a list of tasks. -/
def SameAnswer (response response' : Response) : Prop :=
  response = response' ∨ ∃ json json', response = .ok (.tasks json) ∧
    response' = .ok (.tasks json') ∧ json.Perm json'

/-- What is asked of the JPA backend, if it is a save, is asked for a stored task or
for the id that is generated next and free. Without an id, there is no such id. -/
def Portable (db : H2) : Request → Prop
  | .createBook (some ⟨some id, _, _⟩) => db.board id ≠ none ∨ db.freeId = some id
  | .createBook (some ⟨none, _, _⟩) => db.freeId = none
  | _ => True

namespace TaskServerLemmas

theorem sameAnswer_iff_eq {response response' : Response}
    (h : ∀ json, response ≠ .ok (.tasks json)) :
    SameAnswer response response' ↔ response = response' := by
  refine ⟨fun hsame => ?_, .inl⟩
  obtain heq | ⟨json, json', hjson, -, -⟩ := hsame
  · exact heq
  · exact absurd hjson (h json)

/-- The answer to a save tells the id. -/
theorem saved_answer_inj {json : TaskJson} {target target' : Option Long} :
    (target.elim (.errorPage 500) fun id => Response.ok (.task (taskJson id json.row))) =
        (target'.elim (.errorPage 500) fun id => .ok (.task (taskJson id json.row))) ↔
      target = target' := by
  constructor
  · intro h
    cases target with
    | none =>
      cases target' with
      | none => rfl
      | some id' => cases h
    | some id =>
      cases target' with
      | none => cases h
      | some id' =>
        cases h
        rfl
  · intro h
    rw [h]

theorem portable_iff (db : H2) (json : TaskJson) :
    Portable db (.createBook (some json)) ↔ jpaServer.target db json.id = json.id := by
  obtain ⟨id, title, completed⟩ := json
  show _ ↔ db.target (id.getD 0) = id
  cases id with
  | none =>
    show db.freeId = none ↔ db.target 0 = none
    rw [H2.target, if_neg db.zero_not_mem]
  | some id =>
    show db.board id ≠ none ∨ db.freeId = some id ↔ db.target id = some id
    unfold H2.target
    split
    · next hmem => exact iff_of_true (.inl (H2.mem_iff.mp hmem)) rfl
    · next hmem => exact or_iff_right (not_not.mpr (H2.not_mem_iff.mp hmem))

/-- Over the same board, the two backends answer alike exactly what is portable. -/
theorem answers_alike_iff {db : H2} {mdb : MongoDb} (request : Request)
    (h : db.board = mdb.board) :
    SameAnswer (jpaServer.machine.step db request).1 (mongoServer.machine.step mdb request).1 ↔
      Portable db request := by
  show SameAnswer (jpaServer.serve request db).1 (mongoServer.serve request mdb).1 ↔ _
  have hunbound : request.unbound = true → SameAnswer (jpaServer.serve request db).1
      (mongoServer.serve request mdb).1 := by
    intro hrequest
    rw [jpaServer.unbound_eq request db hrequest, mongoServer.unbound_eq request mdb hrequest]
    exact .inl rfl
  cases request with
  | getTasks =>
    refine iff_of_true ?_ trivial
    rw [jpaServer.getTasks_eq, mongoServer.getTasks_eq]
    refine .inr ⟨_, _, rfl, rfl, ?_⟩
    have hlists : (mongoServer.board mdb).Lists (jpaServer.listing db) := by
      show mdb.board.Lists _
      rw [← h]
      exact jpaServer.lists db
    exact (hlists.perm (mongoServer.lists mdb)).map _
  | getTask taskId =>
    refine iff_of_true ?_ trivial
    cases taskId with
    | none => exact hunbound rfl
    | some id =>
      refine .inl ?_
      rw [jpaServer.getTask_eq, mongoServer.getTask_eq]
      exact congrArg (fun board : Board => (board id).elim _ _) h
  | createBook body =>
    cases body with
    | none => exact iff_of_true (hunbound rfl) trivial
    | some json =>
      rw [jpaServer.createBook_fst, mongoServer.createBook_fst, sameAnswer_iff_eq, saved_answer_inj,
        portable_iff]
      · rfl
      · intro tasks
        cases jpaServer.target db json.id with
        | none => exact fun h => by cases h
        | some id => exact fun h => by cases h
  | deleteTask taskId =>
    refine iff_of_true ?_ trivial
    cases taskId with
    | none => exact hunbound rfl
    | some id =>
      rw [jpaServer.deleteTask_fst, mongoServer.deleteTask_fst]
      exact .inl rfl

/-- What is portable does the same to the board. -/
theorem boards_alike {db : H2} {mdb : MongoDb} (request : Request) (h : db.board = mdb.board)
    (hportable : Portable db request) :
    (jpaServer.machine.step db request).2.board =
      (mongoServer.machine.step mdb request).2.board := by
  have hjpa := jpaServer.board_effect db request
  have hmongo := mongoServer.board_effect mdb request
  change (jpaServer.machine.step db request).2.board = request.effect _ db.board at hjpa
  change (mongoServer.machine.step mdb request).2.board = request.effect _ mdb.board at hmongo
  rw [hjpa, hmongo, ← h]
  cases request with
  | getTasks | getTask taskId => rfl
  | deleteTask taskId =>
    cases taskId with
    | none => rfl
    | some id => rfl
  | createBook body =>
    cases body with
    | none => rfl
    | some json =>
      show (jpaServer.target db json.id).elim _ _ = json.id.elim _ _
      rw [(portable_iff db json).mp hportable]

end TaskServerLemmas

/-- From the same tasks, a run of requests is answered alike by the JPA backend and
by the Mongo backend exactly when every save of the run is portable when it comes.
Where titles fit the column of the JPA backend, the backends differ in nothing but the
id of a task that is not stored. -/
theorem interchangeable_iff {db : H2} {mdb : MongoDb} (h : db.board = mdb.board)
    (requests : List Request) :
    List.Forall₂ (fun p q => SameAnswer p.2 q.2) (jpaServer.machine.trace db requests)
        (mongoServer.machine.trace mdb requests) ↔
      jpaServer.machine.Admitted Portable db requests :=
  Machine.trace_alike_iff (fun (db : H2) (mdb : MongoDb) => db.board = mdb.board) SameAnswer
    Portable (fun _ _ request h => answers_alike_iff request h)
    (fun _ _ request h => boards_alike request h) h

/-- The rows of `data.sql`, put into the Mongo demo: an edit of task 2 and a deletion
are answered alike, and a new task under id 0 is not. -/
theorem interchangeable_seeded :
    List.Forall₂ (fun p q => SameAnswer p.2 q.2)
      (jpaServer.machine.trace H2.seeded
        [.createBook (some ⟨some 2, some "Review", some true⟩), .deleteTask (some 1), .getTasks])
      (mongoServer.machine.trace ⟨H2.seeded.task⟩
        [.createBook (some ⟨some 2, some "Review", some true⟩), .deleteTask (some 1),
          .getTasks]) ∧
    ¬ List.Forall₂ (fun p q => SameAnswer p.2 q.2)
      (jpaServer.machine.trace H2.seeded [.createBook (some ⟨some 0, some "New", none⟩)])
      (mongoServer.machine.trace ⟨H2.seeded.task⟩
        [.createBook (some ⟨some 0, some "New", none⟩)]) := by
  constructor
  · refine (interchangeable_iff rfl _).mpr ⟨.inl ?_, trivial, trivial, trivial⟩
    decide
  · intro h
    obtain ⟨hportable, -⟩ := (interchangeable_iff rfl _).mp h
    have hnot : ¬ (H2.seeded.board 0 ≠ none ∨ H2.seeded.freeId = some 0) := by decide
    exact hnot hportable

end SpiffeTasks
