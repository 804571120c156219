import SpiffeTasks.Backend
import SpiffeTasks.Lib.Machine

/-!
# Generated ids in the JPA backend

`data.sql` inserts the rows 1, 2 and 3 with explicit ids, and an explicit id does
not move the generator of the IDENTITY column on. The first three generated ids
are therefore those of the seed rows.

1. `run_generated`: the invariant over all runs. The generator counts the
   creations; a stored id is below it, or is that of a seed row not deleted yet;
   and the seed rows that the generator has not reached are stored until they
   are deleted.
2. `creation_succeeds_iff`: a creation gets a fresh id, and succeeds, exactly
   when it is not among the first three or the seed row of its id was deleted,
   and the generator has not run out.
3. `first_creation_fails`: the first creation on the seeded store.
-/

namespace SpiffeTasks

/-! ## Calls -/

/-- A call of a `TaskController` method that writes. -/
inductive Call
  /-- `createBook` with id 0. -/
  | create (row : Row)
  /-- `createBook` with the id of a stored task. -/
  | overwrite (id : Long) (row : Row)
  | delete (id : Long)

/-- The method, and the task that it returns. -/
def Call.run : Call → EStateM Thrown H2 (Option Jpa.Task)
  | .create row => do
    let task ← TaskController.createBook jpaRepository ⟨0, row.title, row.completed⟩
    return some task
  | .overwrite id row => do
    let task ← TaskController.createBook jpaRepository ⟨id, row.title, row.completed⟩
    return some task
  | .delete id => do
    TaskController.deleteTask jpaRepository id
    return none

/-- An `overwrite` has the id of a stored task. -/
def Call.Enabled (db : H2) : Call → Prop
  | .overwrite id _ => db.board id ≠ none
  | _ => True

/-- The database under one call after another. -/
def identityMachine : Machine H2 Call (Option (Option Jpa.Task)) where
  step db call := ((call.run db).value?, (call.run db).state)

/-- How many of the calls are creations, failed ones included. -/
def creations (calls : List Call) : Nat :=
  calls.countP fun
    | .create _ => true
    | _ => false

/-- The creation succeeds: its task is stored under an id that no task had, and
nothing else changes. -/
def CreatesFresh (db : H2) (row : Row) : Prop :=
  ∃ id, db.board id = none ∧
    (identityMachine.step db (.create row)).1 = some (some ⟨id, row.title, row.completed⟩) ∧
    (identityMachine.step db (.create row)).2.board = db.board.put id row

namespace IdentityLemmas

open EStateM

theorem state_create (db : H2) (row : Row) :
    (identityMachine.step db (.create row)).2 = (JpaRepository.persist row db).state :=
  state_bind_of_keeps (fun _ => keeps_pure _) db

theorem state_overwrite (db : H2) (id : Long) (row : Row) :
    (identityMachine.step db (.overwrite id row)).2 =
      (JpaRepository.save ⟨id, row.title, row.completed⟩ db).state :=
  state_bind_of_keeps (fun _ => keeps_pure _) db

theorem state_delete (db : H2) (id : Long) :
    (identityMachine.step db (.delete id)).2 = db.delete id := rfl

/-- An overwrite leaves the generator as it is, and stores nothing under a new
id. -/
theorem overwrite_spec {db : H2} {id : Long} (row : Row) (h : db.board id ≠ none) :
    (identityMachine.step db (.overwrite id row)).2.identity = db.identity ∧
    (identityMachine.step db (.overwrite id row)).2.board = db.board.put id row := by
  rw [state_overwrite]
  rcases JpaRepository.save_cases ⟨id, row.title, row.completed⟩ db with ⟨hmem, he⟩ | ⟨hmem, -⟩
  · rw [he]
    exact ⟨rfl, H2.board_write db id row (H2.ne_zero_of_mem hmem)⟩
  · exact absurd (H2.not_mem_iff.mp hmem) h

/-- A creation succeeds exactly when the generated id is free. -/
theorem createsFresh_iff {db : H2} {row : Row} :
    CreatesFresh db row ↔ ∃ id, db.nextId = some id ∧ db.board id = none := by
  have hvalue : (identityMachine.step db (.create row)).1 =
      (JpaRepository.persist row db).value?.map some :=
    value?_bind_pure (JpaRepository.persist row) some db
  unfold CreatesFresh
  rw [hvalue, state_create, JpaRepository.persist_value, JpaRepository.persist_board]
  constructor
  · rintro ⟨id, -, hid, -⟩
    cases hfree : db.freeId with
    | none =>
      rw [hfree] at hid
      cases hid
    | some free => exact ⟨free, H2.freeId_eq_some_iff.mp hfree⟩
  · rintro ⟨id, hnext, hnone⟩
    rw [H2.freeId_eq_some_iff.mpr ⟨hnext, hnone⟩]
    exact ⟨id, hnone, rfl, rfl⟩

end IdentityLemmas

open IdentityLemmas

/-! ## 1. The invariant -/

/-- The generator and the stored ids after some calls on the seeded store. -/
structure Generated (calls : List Call) (db : H2) : Prop where
  identity : db.identity = min (creations calls + 1) (2 ^ 63)
  stored : ∀ id, db.board id ≠ none →
    (∃ n, n < db.identity ∧ id = Int64.ofNat n) ∨
      ∃ n, n ≤ 3 ∧ id = Int64.ofNat n ∧ .delete id ∉ calls
  unreached : ∀ n, db.identity ≤ n → n ≤ 3 → .delete (Int64.ofNat n) ∉ calls →
    db.board (Int64.ofNat n) ≠ none

namespace IdentityLemmas

theorem generated_start : Generated [] H2.seeded where
  identity := by decide
  stored id h := by
    have hrows : H2.seeded.board = (((PartialMap.ofTree ∅).put 1
      ⟨some "Write SPIFFE tutorial", false⟩).put 2 ⟨some "Review PR", false⟩).put 3
      ⟨some "Call my Mom", false⟩ := by
      show PartialMap.ofTree H2.seeded.task = _
      unfold H2.seeded
      rw [PartialMap.ofTree_insert, PartialMap.ofTree_insert, PartialMap.ofTree_insert]
    right
    rcases eq_or_ne id 3 with rfl | h3
    · exact ⟨3, by decide, by decide, List.not_mem_nil⟩
    rcases eq_or_ne id 2 with rfl | h2
    · exact ⟨2, by decide, by decide, List.not_mem_nil⟩
    rcases eq_or_ne id 1 with rfl | h1
    · exact ⟨1, by decide, by decide, List.not_mem_nil⟩
    rw [hrows, PartialMap.put_of_ne h3, PartialMap.put_of_ne h2, PartialMap.put_of_ne h1] at h
    exact absurd rfl h
  unreached n hge hle _ := by
    have hone : 1 ≤ n := hge
    obtain rfl | rfl | rfl : n = 1 ∨ n = 2 ∨ n = 3 := by omega
    · decide
    · decide
    · decide

theorem creations_concat (calls : List Call) (call : Call) :
    creations (calls ++ [call]) = creations calls + creations [call] :=
  List.countP_append

/-- A creation moves the generator on, and stores its task, if it does, under the
id that the generator gave. -/
theorem generated_create {calls : List Call} {db : H2} (h : Generated calls db) (row : Row) :
    Generated (calls ++ [.create row]) (identityMachine.step db (.create row)).2 := by
  have hcount : creations (calls ++ [.create row]) = creations calls + 1 :=
    creations_concat calls _
  have hdelete : ∀ id, Call.delete id ∉ calls ++ [.create row] ↔ Call.delete id ∉ calls := by
    simp
  have hidentity := h.identity
  have hmoved : (JpaRepository.persist row db).state.identity = min (db.identity + 1) (2 ^ 63) := by
    rw [JpaRepository.persist_identity]
    cases hnext : db.nextId with
    | none =>
      have hout := H2.nextId_eq_none_iff.mp hnext
      show db.identity = _
      omega
    | some id =>
      obtain ⟨hlt, -⟩ := H2.nextId_eq_some_iff.mp hnext
      show db.identity + 1 = _
      omega
  have hboard := JpaRepository.persist_board row db
  rw [state_create]
  generalize (JpaRepository.persist row db).state = db' at *
  refine ⟨by omega, fun id hid => ?_, fun n hge hle hn => ?_⟩
  · -- The only id that a creation can add is the generated one.
    have hcases : db.board id ≠ none ∨ db.nextId = some id := by
      rw [hboard] at hid
      cases hfree : db.freeId with
      | none =>
        rw [hfree] at hid
        exact .inl hid
      | some free =>
        rw [hfree, Option.elim_some] at hid
        rcases eq_or_ne id free with rfl | hne
        · exact .inr (H2.freeId_eq_some_iff.mp hfree).1
        · rw [PartialMap.put_of_ne hne] at hid
          exact .inl hid
    rcases hcases with hold | hnew
    · rcases h.stored id hold with ⟨n, hn, rfl⟩ | ⟨n, hn, rfl, hkept⟩
      · exact .inl ⟨n, by omega, rfl⟩
      · exact .inr ⟨n, hn, rfl, (hdelete _).mpr hkept⟩
    · obtain ⟨hlt, rfl⟩ := H2.nextId_eq_some_iff.mp hnew
      exact .inl ⟨db.identity, by omega, rfl⟩
  · have hold := h.unreached n (by omega) hle ((hdelete _).mp hn)
    rw [hboard]
    cases db.freeId with
    | none => exact hold
    | some free => exact PartialMap.put_ne_none hold

/-- An overwrite changes neither the generator nor the ids that are stored. -/
theorem generated_overwrite {calls : List Call} {db : H2} (h : Generated calls db) {id : Long}
    (row : Row) (hid : db.board id ≠ none) :
    Generated (calls ++ [.overwrite id row]) (identityMachine.step db (.overwrite id row)).2 := by
  have hcount : creations (calls ++ [.overwrite id row]) = creations calls :=
    creations_concat calls _
  have hdelete : ∀ id', Call.delete id' ∉ calls ++ [.overwrite id row] ↔
      Call.delete id' ∉ calls := by
    simp
  obtain ⟨hidentity, hboard⟩ := overwrite_spec row hid
  refine ⟨?_, fun id' hid' => ?_, fun n hge hle hn => ?_⟩
  · rw [hidentity, hcount]
    exact h.identity
  · have hold : db.board id' ≠ none := by
      rcases eq_or_ne id' id with rfl | hne
      · exact hid
      · rwa [hboard, PartialMap.put_of_ne hne] at hid'
    rw [hidentity]
    rcases h.stored id' hold with hbelow | ⟨n, hn, rfl, hkept⟩
    · exact .inl hbelow
    · exact .inr ⟨n, hn, rfl, (hdelete _).mpr hkept⟩
  · rw [hidentity] at hge
    rw [hboard]
    exact PartialMap.put_ne_none (h.unreached n hge hle ((hdelete _).mp hn))

/-- A deletion does not change the generator, and removes one id. -/
theorem generated_delete {calls : List Call} {db : H2} (h : Generated calls db) (id : Long) :
    Generated (calls ++ [.delete id]) (identityMachine.step db (.delete id)).2 := by
  have hcount : creations (calls ++ [.delete id]) = creations calls :=
    creations_concat calls _
  have hdelete : ∀ id', Call.delete id' ∉ calls ++ [.delete id] ↔
      Call.delete id' ∉ calls ∧ id' ≠ id := by
    simp
  rw [state_delete]
  refine ⟨by rw [hcount]; exact h.identity, fun id' hid' => ?_, fun n hge hle hn => ?_⟩
  · rw [H2.board_delete] at hid'
    have hne : id' ≠ id := by
      rintro rfl
      exact hid' PartialMap.remove_same
    rw [PartialMap.remove_of_ne hne] at hid'
    rcases h.stored id' hid' with hbelow | ⟨n, hn, rfl, hkept⟩
    · exact .inl hbelow
    · exact .inr ⟨n, hn, rfl, (hdelete _).mpr ⟨hkept, hne⟩⟩
  · obtain ⟨hkept, hne⟩ := (hdelete _).mp hn
    rw [H2.board_delete, PartialMap.remove_of_ne hne]
    exact h.unreached n hge hle hkept

end IdentityLemmas

/-- The invariant holds after every sequence of calls on the seeded store. -/
theorem run_generated {calls : List Call}
    (h : identityMachine.Admitted Call.Enabled H2.seeded calls) :
    Generated calls (identityMachine.run H2.seeded calls) := by
  refine Machine.run_history generated_start h fun calls db call hinv henabled => ?_
  cases call with
  | create row => exact generated_create hinv row
  | overwrite id row => exact generated_overwrite hinv row henabled
  | delete id => exact generated_delete hinv id

/-! ## 2. Which creations succeed -/

/-- After any calls on the seeded store, a creation is given a fresh id, and
succeeds, exactly when the generator has not run out and either three creations
came before it or the seed row with its id was deleted. -/
theorem creation_succeeds_iff {calls : List Call}
    (h : identityMachine.Admitted Call.Enabled H2.seeded calls) (row : Row) :
    CreatesFresh (identityMachine.run H2.seeded calls) row ↔
      (3 ≤ creations calls ∨ .delete (Int64.ofNat (creations calls + 1)) ∈ calls) ∧
        creations calls + 1 < 2 ^ 63 := by
  have hinv := run_generated h
  have hidentity := hinv.identity
  rw [createsFresh_iff]
  constructor
  · rintro ⟨id, hnext, hnone⟩
    obtain ⟨hlt, rfl⟩ := H2.nextId_eq_some_iff.mp hnext
    have hcount : (identityMachine.run H2.seeded calls).identity = creations calls + 1 := by
      omega
    refine ⟨?_, by omega⟩
    -- Otherwise the generator is at a seed row that is still there.
    by_contra hneither
    rw [not_or] at hneither
    obtain ⟨hfew, hkept⟩ := hneither
    refine hinv.unreached (creations calls + 1) (by omega) (by omega) hkept ?_
    rwa [← hcount]
  · rintro ⟨hreached, hlt⟩
    have hcount : (identityMachine.run H2.seeded calls).identity = creations calls + 1 := by
      omega
    refine ⟨Int64.ofNat (creations calls + 1), ?_, ?_⟩
    · exact H2.nextId_eq_some_iff.mpr ⟨by omega, by rw [hcount]⟩
    · by_contra hstored
      rcases hinv.stored _ hstored with ⟨n, hn, heq⟩ | ⟨n, hn, heq, hkept⟩
      · have := H2.ofNat_inj hlt (by omega) heq
        omega
      · have := H2.ofNat_inj hlt (by omega) heq
        rcases hreached with hmany | hdeleted
        · omega
        · exact hkept hdeleted

/-- Once task 1 is deleted, the first creation gets its id. -/
theorem creation_succeeds_after_delete :
    CreatesFresh (identityMachine.run H2.seeded [.delete 1]) ⟨some "new", false⟩ := by
  have hadmitted : identityMachine.Admitted Call.Enabled H2.seeded [.delete 1] :=
    ⟨trivial, trivial⟩
  exact (creation_succeeds_iff hadmitted ⟨some "new", false⟩).mpr
    ⟨.inr List.mem_cons_self, by decide⟩

/-- On the seeded store itself, the first creation is given the id of a seed row,
and throws. -/
theorem first_creation_fails :
    H2.seeded.nextId = some 1 ∧ H2.seeded.board 1 ≠ none ∧
    (identityMachine.step H2.seeded (.create ⟨some "new", false⟩)).1 = none ∧
    ¬ CreatesFresh (identityMachine.run H2.seeded []) ⟨some "new", false⟩ := by
  have hthrows : (identityMachine.step H2.seeded (.create ⟨some "new", false⟩)).1 = none := by
    decide
  refine ⟨by decide, by decide, hthrows, ?_⟩
  rintro ⟨id, -, hvalue, -⟩
  cases hthrows.symm.trans hvalue

end SpiffeTasks
