import SpiffeTasks.JwtRequestFilter
import SpiffeTasks.Lib.Machine

/-!
# What rejected requests do to the JWT backend, and what they see of it

The filter answers a request without a valid token with 400 or 401, and runs
the rest of the chain all the same.

1. `purged_iff_rejected_idle`: in every state a sequence of requests reaches,
   the store and the accepted requests' responses are those of the sequence
   without the rejected requests, exactly when each rejected request asks for
   nothing that would change the store it meets.
2. `rejected_delete_not_purged`: a DELETE without a token deletes the task.
3. `rejected_response_eq_iff`: a rejected request is answered alike over two
   stores exactly when its handler throws over both or over neither.
4. `rejected_getTask_tells`: a GET without a token tells whether the id is
   stored.
-/

namespace SpiffeTasks

/-! ## 1. Requests that change nothing -/

/-- The request changes nothing in `db`: it reads, or its arguments do not bind,
or it stores a task as it is stored already, or it deletes under an id without a
task. With the generator run out, an INSERT changes nothing either. -/
def Idle : Request → H2 → Prop
  | .createBook (some json), db =>
    db.board (json.id.getD 0) = some json.row ∨
      (db.board (json.id.getD 0) = none ∧ db.nextId = none)
  | .deleteTask (some id), db => db.board id = none
  | _, _ => True

namespace RejectedLemmas

/-- `Idle` says exactly which requests leave the database as it is. -/
theorem serve_state_eq_self_iff {request : Request} {db : H2} :
    (serve jpaRepository request db).2 = db ↔ Idle request db := by
  cases request with
  | getTasks => exact iff_of_true (Jpa.serve_getTasks_state db) trivial
  | getTask taskId =>
    cases taskId with
    | none => exact iff_of_true rfl trivial
    | some id => exact iff_of_true (congrArg Prod.snd (Jpa.serve_getTask id db)) trivial
  | createBook body =>
    cases body with
    | none => exact iff_of_true rfl trivial
    | some json =>
      rw [BackendLemmas.serve_createBook_state]
      exact JpaRepository.save_state_eq_self_iff
  | deleteTask taskId =>
    cases taskId with
    | none => exact iff_of_true rfl trivial
    | some id =>
      rw [Jpa.serve_deleteTask]
      exact H2.delete_eq_self_iff

end RejectedLemmas

open RejectedLemmas

/-! ## 2. Integrity of the store -/

/-- The backend of the JWT demo from the filter on, one request after another. -/
def jwtMachine : Machine H2 Arrival Response where
  step db a := serveJwt a db

/-- The rejected requests of a sequence go unnoticed by the store and by the
accepted requests, in every state the sequence reaches, exactly when each of
them is one that would change nothing in the store it meets. -/
theorem purged_iff_rejected_idle (db : H2) (arrivals : List Arrival) :
    (∀ v, v <+: arrivals → jwtMachine.Purged Arrival.tokenValidates db v) ↔
    ∀ pre a post, arrivals = pre ++ a :: post → a.tokenValidates = false →
      Idle a.request (jwtMachine.run db pre) := by
  rw [Machine.purged_prefixes_iff]
  have step_iff : ∀ (a : Arrival) (db : H2),
      (jwtMachine.step db a).2 = db ↔ Idle a.request db := by
    intro a db
    show (serveJwt a db).2 = db ↔ _
    rw [serveJwt_state, serve_state_eq_self_iff]
  refine ⟨fun h pre a post hw ha => ?_, fun h pre a post hw ha => ?_⟩
  · exact (step_iff a _).mp (h pre a post hw ha)
  · exact (step_iff a _).mpr (h pre a post hw ha)

/-- A `DELETE /tasks/1` without an `Authorization` header. -/
def bareDelete : Arrival := ⟨.deleteTask (some 1), none, fun _ => .error .jwtSvidException⟩

/-- The DELETE is answered with 400, and task 1 is gone. -/
theorem rejected_delete_not_purged :
    bareDelete.tokenValidates = false ∧
    (serveJwt bareDelete H2.seeded).1 = .errorPage 400 ∧
    ¬ jwtMachine.Purged Arrival.tokenValidates H2.seeded [bareDelete] := by
  refine ⟨by decide, by decide, fun h => ?_⟩
  have hboard := congrArg (fun db : H2 => db.board 1) h.1
  exact absurd hboard (by decide)

/-! ## 3. What the client of a rejected request sees -/

/-- The handler of the request throws over `db`: it looks up a task that is not
there, or it runs into an INSERT that the generated id does not let through. -/
def Throws : Request → H2 → Prop
  | .getTask (some id), db => db.board id = none
  | .createBook (some json), db => db.board (json.id.getD 0) = none ∧ db.freeId = none
  | _, _ => False

namespace RejectedLemmas

theorem dispatch_createBook_throws {json : TaskJson} {db : H2} :
    (TaskController.dispatch jpaRepository (.createBook (some json)) db).value? = none ↔
      Throws (.createBook (some json)) db := by
  have hvalue : (TaskController.dispatch jpaRepository (.createBook (some json)) db).value? =
      (JpaRepository.save (Jackson.read json) db).value?.map _ :=
    EStateM.value?_bind_pure (JpaRepository.save (Jackson.read json)) _ db
  rw [hvalue, Option.map_eq_none_iff, JpaRepository.save_value, Option.map_eq_none_iff]
  exact H2.target_eq_none_iff

theorem dispatch_getTask_throws {id : Long} {db : H2} :
    (TaskController.dispatch jpaRepository (.getTask (some id)) db).value? = none ↔
      Throws (.getTask (some id)) db := by
  have hfind : jpaRepository.findById id db =
      .ok ((db.board id).map (JpaRepository.entity id)) db := rfl
  have hget : TaskController.getTask jpaRepository id db = _ := EStateM.bind_of_ok hfind
  have hvalue : (TaskController.dispatch jpaRepository (.getTask (some id)) db).value? =
      (TaskController.getTask jpaRepository id db).value?.map _ :=
    EStateM.value?_bind_pure (TaskController.getTask jpaRepository id) _ db
  rw [hvalue, Option.map_eq_none_iff, hget]
  show _ ↔ db.board id = none
  cases db.board id with
  | none => exact iff_of_true rfl rfl
  | some row => exact iff_of_false (Option.some_ne_none _) (Option.some_ne_none _)

/-- `Throws` says exactly which requests end in an exception. -/
theorem dispatch_throws_iff {request : Request} {db : H2} :
    (TaskController.dispatch jpaRepository request db).value? = none ↔ Throws request db := by
  cases request with
  | getTasks => exact iff_of_false (Option.some_ne_none _) not_false
  | getTask taskId =>
    cases taskId with
    | none => exact iff_of_false (Option.some_ne_none _) not_false
    | some id => exact dispatch_getTask_throws
  | createBook body =>
    cases body with
    | none => exact iff_of_false (Option.some_ne_none _) not_false
    | some json => exact dispatch_createBook_throws
  | deleteTask taskId =>
    cases taskId with
    | none => exact iff_of_false (Option.some_ne_none _) not_false
    | some id => exact iff_of_false (Option.some_ne_none _) not_false

theorem answerMarked_some_fst {σ : Type} {status : Nat} {r : EStateM.Result Thrown σ Response} :
    (r.value? = none ∧ (answerMarked (some status) r).1 = .errorPage 500) ∨
    (r.value? ≠ none ∧ (answerMarked (some status) r).1 = .errorPage status) := by
  cases r with
  | ok response s => exact .inr ⟨Option.some_ne_none _, rfl⟩
  | error e s => exact .inl ⟨rfl, rfl⟩

/-- A rejected request is answered with 500 when its handler throws, and with
the status that the filter recorded when it does not. -/
theorem rejected_response {a : Arrival} (h : a.tokenValidates = false) :
    ∃ status, status ≠ 500 ∧ ∀ db,
      (Throws a.request db ∧ (serveJwt a db).1 = .errorPage 500) ∨
      (¬ Throws a.request db ∧ (serveJwt a db).1 = .errorPage status) := by
  obtain ⟨status, hstatus, herror⟩ : ∃ status, status ≠ 500 ∧ a.error = some status := by
    rcases Arrival.error_of_not_validates h with h | h
    · exact ⟨400, by decide, h⟩
    · exact ⟨401, by decide, h⟩
  refine ⟨status, hstatus, fun db => ?_⟩
  rw [serveJwt_eq, herror, ← dispatch_throws_iff]
  exact answerMarked_some_fst

end RejectedLemmas

/-- A rejected request is answered alike over two stores exactly when its
handler throws over both of them or over neither. -/
theorem rejected_response_eq_iff {a : Arrival} (h : a.tokenValidates = false) (db db' : H2) :
    (serveJwt a db).1 = (serveJwt a db').1 ↔ (Throws a.request db ↔ Throws a.request db') := by
  obtain ⟨status, hstatus, hcases⟩ := rejected_response h
  have hne : Response.errorPage 500 ≠ Response.errorPage status :=
    fun he => hstatus (congrArg Response.status he).symm
  rcases hcases db with ⟨ht, he⟩ | ⟨ht, he⟩ <;> rcases hcases db' with ⟨ht', he'⟩ | ⟨ht', he'⟩ <;>
    rw [he, he']
  · exact iff_of_true rfl (iff_of_true ht ht')
  · exact iff_of_false hne fun h => ht' (h.mp ht)
  · exact iff_of_false hne.symm fun h => ht (h.mpr ht')
  · exact iff_of_true rfl (iff_of_false ht ht')

/-- A `GET /tasks/1` without an `Authorization` header. -/
def bareGet : Arrival := ⟨.getTask (some 1), none, fun _ => .error .jwtSvidException⟩

/-- The list is refused alike whatever is stored. -/
theorem rejected_response_eq_getTasks :
    (serveJwt { bareGet with request := .getTasks } H2.seeded).1 =
      (serveJwt { bareGet with request := .getTasks } (H2.seeded.delete 1)).1 :=
  (rejected_response_eq_iff (a := { bareGet with request := .getTasks }) (by decide) H2.seeded
    (H2.seeded.delete 1)).mpr Iff.rfl

/-- The GET is answered with 400 while task 1 is stored, and with 500 when it is
not. -/
theorem rejected_getTask_tells :
    bareGet.tokenValidates = false ∧
    (serveJwt bareGet H2.seeded).1 = .errorPage 400 ∧
    (serveJwt bareGet (H2.seeded.delete 1)).1 = .errorPage 500 := by
  exact ⟨by decide, by decide, by decide⟩

end SpiffeTasks
