import SpiffeTasks.Browser

/-!
# The ids of new tasks in the JPA backend

A new task gets its id from the generator of the IDENTITY column. An INSERT that the
primary key rejects has used up its value all the same, so that the next one gets
another.

1. `appears_generated`: only an INSERT under the generated id makes a task appear,
   and the generator never goes back.
2. `appeared_ids_increase`: over every run of requests, the ids of new tasks increase.
   No id is given twice, whatever is deleted in between.
3. `additions_until_saved_iff`: how often an addition has to be sent again until it
   goes through.
-/

namespace SpiffeTasks

/-! ## 1. One request -/

namespace GeneratedLemmas

/-- The generator moves on with an INSERT, and stays where it is otherwise. -/
theorem createBook_identity (json : TaskJson) (db : H2) :
    (jpaServer.machine.step db (.createBook (some json))).2.identity =
      if db.board (json.id.getD 0) = none then db.nextId.elim db.identity fun _ => db.identity + 1
      else db.identity := by
  show (serve jpaRepository (.createBook (some json)) db).2.identity = _
  rw [BackendLemmas.serve_createBook_state]
  show (JpaRepository.save (Jackson.read json) db).state.identity = _
  obtain ⟨hmem, hsave⟩ | ⟨hmem, hsave⟩ := JpaRepository.save_cases (Jackson.read json) db
  · rw [hsave, if_neg]
    · rfl
    · exact H2.mem_iff.mp hmem
  · rw [hsave, JpaRepository.persist_identity, if_pos]
    exact H2.not_mem_iff.mp hmem

theorem identity_le (db : H2) (request : Request) :
    db.identity ≤ (jpaServer.machine.step db request).2.identity := by
  cases request with
  | getTasks => exact Nat.le_refl db.identity
  | getTask taskId =>
    cases taskId with
    | none => exact Nat.le_refl db.identity
    | some id =>
      have hstate : (jpaServer.machine.step db (.getTask (some id))).2 = db :=
        congrArg Prod.snd (jpaServer.getTask_eq id db)
      rw [hstate]
  | deleteTask taskId =>
    cases taskId with
    | none => exact Nat.le_refl db.identity
    | some id => exact Nat.le_refl db.identity
  | createBook body =>
    cases body with
    | none => exact Nat.le_refl db.identity
    | some json =>
      rw [createBook_identity]
      split
      · cases db.nextId with
        | none => exact Nat.le_refl db.identity
        | some id => exact Nat.le_succ _
      · exact Nat.le_refl db.identity

end GeneratedLemmas

open GeneratedLemmas

/-- A request that makes a task appear is an INSERT under the id that is generated
next, and moves the generator on. -/
theorem appears_generated {db : H2} {request : Request} {key : Long}
    (h : db.board.Appears (jpaServer.machine.step db request).2.board key) :
    db.nextId = some key ∧
      (jpaServer.machine.step db request).2.identity = db.identity + 1 := by
  have heffect := jpaServer.board_effect db request
  change (jpaServer.machine.step db request).2.board = request.effect _ db.board at heffect
  rw [heffect] at h
  cases request with
  | getTasks | getTask taskId => exact absurd h (PartialMap.not_appears_self _ _)
  | deleteTask taskId =>
    cases taskId with
    | none => exact absurd h (PartialMap.not_appears_self _ _)
    | some id => exact absurd h PartialMap.not_appears_remove
  | createBook body =>
    cases body with
    | none => exact absurd h (PartialMap.not_appears_self _ _)
    | some json =>
      change db.board.Appears ((db.target (json.id.getD 0)).elim db.board fun id =>
        db.board.put id json.row) key at h
      cases htarget : db.target (json.id.getD 0) with
      | none =>
        rw [htarget] at h
        exact absurd h (PartialMap.not_appears_self _ _)
      | some id =>
        rw [htarget, Option.elim_some, PartialMap.appears_put_iff] at h
        obtain ⟨rfl, hnone⟩ := h
        have hnew : db.board (json.id.getD 0) = none := by
          by_contra hstored
          have hself := jpaServer.target_stored db (json.id.getD 0) hstored
          have hkey : json.id.getD 0 = key := Option.some.inj (hself.symm.trans htarget)
          exact hstored (hkey ▸ hnone)
        rw [H2.target_of_none hnew] at htarget
        obtain ⟨hnext, -⟩ := H2.freeId_eq_some_iff.mp htarget
        refine ⟨hnext, ?_⟩
        rw [createBook_identity, if_pos hnew, hnext]
        rfl

/-! ## 2. All requests -/

/-- Of two tasks that a run makes appear, the later one has the greater id. -/
theorem appeared_ids_increase {db : H2} {before between : List Request}
    {first second : Request} {key key' : Long}
    (h : (jpaServer.machine.run db before).board.Appears
      (jpaServer.machine.run db (before ++ [first])).board key)
    (h' : (jpaServer.machine.run db (before ++ [first] ++ between)).board.Appears
      (jpaServer.machine.run db (before ++ [first] ++ between ++ [second])).board key') :
    key < key' := by
  rw [Machine.run_concat] at h
  rw [Machine.run_concat] at h'
  obtain ⟨hnext, hmoved⟩ := appears_generated h
  obtain ⟨hnext', -⟩ := appears_generated h'
  obtain ⟨hlt, rfl⟩ := H2.nextId_eq_some_iff.mp hnext
  obtain ⟨hlt', rfl⟩ := H2.nextId_eq_some_iff.mp hnext'
  have hmono : (jpaServer.machine.run db before).identity + 1 ≤
      (jpaServer.machine.run db (before ++ [first] ++ between)).identity := by
    rw [← hmoved, ← Machine.run_concat, Machine.run_append _ _ (before ++ [first])]
    exact Machine.le_run identity_le _ between
  rw [Int64.lt_iff_toInt_lt, Int64.toInt_ofNat_of_lt hlt, Int64.toInt_ofNat_of_lt hlt']
  exact Int.ofNat_lt.mpr hmono

/-- The request of a client that submits a task under id 0. -/
def newTaskRequest (title : String) : Request := .createBook (some ⟨some 0, some title, none⟩)

/-- In the seeded demo without task 1, a new task gets id 1. It is deleted, and of
three more the third one gets id 4. -/
theorem appeared_ids_one_four :
    let before := [.deleteTask (some 1)]
    let between := [.deleteTask (some 1), newTaskRequest "b", newTaskRequest "c"]
    (jpaServer.machine.run H2.seeded before).board.Appears
      (jpaServer.machine.run H2.seeded (before ++ [newTaskRequest "a"])).board 1 ∧
    (jpaServer.machine.run H2.seeded (before ++ [newTaskRequest "a"] ++ between)).board.Appears
      (jpaServer.machine.run H2.seeded
        (before ++ [newTaskRequest "a"] ++ between ++ [newTaskRequest "d"])).board 4 ∧
    (1 : Long) < 4 := by
  intro before between
  have hfirst : (jpaServer.machine.run H2.seeded before).board.Appears
      (jpaServer.machine.run H2.seeded (before ++ [newTaskRequest "a"])).board 1 :=
    ⟨by decide, by decide⟩
  have hsecond : (jpaServer.machine.run H2.seeded
      (before ++ [newTaskRequest "a"] ++ between)).board.Appears
        (jpaServer.machine.run H2.seeded
          (before ++ [newTaskRequest "a"] ++ between ++ [newTaskRequest "d"])).board 4 :=
    ⟨by decide, by decide⟩
  exact ⟨hfirst, hsecond, appeared_ids_increase hfirst hsecond⟩

/-! ## 3. An addition, sent until it goes through -/

section Additions

variable (conversion : Conversion)

/-- The pages over the JPA backend, where there is no filter or it lets the requests
through. -/
def jpaPages : Machine H2 PageRequest View := (directChannel jpaBackend).pages conversion

namespace GeneratedLemmas

/-- What `Save` in the add form does to the database. -/
theorem add_state (title : String) (db : H2) :
    ((jpaPages conversion).step db (addRequest title)).2 =
      (JpaRepository.persist ⟨some title, false⟩ db).state := by
  have hwrite := write_addTaskForm conversion {} title .save
  refine (servePage_state_of_write (directChannel jpaBackend) conversion hwrite db).trans ?_
  rw [Write.call_save_state, Channel.save_state]
  exact BackendLemmas.serve_createBook_state jpaRepository _ db

theorem target_zero (db : H2) : jpaServer.target db (some 0) = db.freeId :=
  if_neg db.zero_not_mem

theorem add_saved (title : String) {db : H2} {id : Long} (h : db.freeId = some id) :
    ((jpaPages conversion).step db (addRequest title)).1 = .redirectTasks ∧
      ((jpaPages conversion).step db (addRequest title)).2.board =
        db.board.put id ⟨some title, false⟩ := by
  have htarget : jpaServer.target db (some 0) = some id := (target_zero db).trans h
  constructor
  · exact congrArg Prod.fst (page_saved jpaServer conversion
      (write_addTaskForm conversion {} title .save) htarget)
  · rw [add_state, JpaRepository.persist_board, h]
    rfl

theorem add_refused (title : String) {db : H2} (h : db.freeId = none) :
    ((jpaPages conversion).step db (addRequest title)).1 = .error (.status 500) ∧
      ((jpaPages conversion).step db (addRequest title)).2.board = db.board ∧
      ((jpaPages conversion).step db (addRequest title)).2.identity =
        db.nextId.elim db.identity fun _ => db.identity + 1 := by
  have htarget : jpaServer.target db (some 0) = none := (target_zero db).trans h
  refine ⟨?_, ?_, ?_⟩
  · exact congrArg Prod.fst (page_refused jpaServer conversion
      (write_addTaskForm conversion {} title .save) htarget)
  · rw [add_state, JpaRepository.persist_board, h]
    rfl
  · rw [add_state, JpaRepository.persist_identity]

end GeneratedLemmas

/-- Of the ids that are generated next, `n` are taken, and the one after them is
free. -/
structure FreeAfter (db : H2) (n : Nat) : Prop where
  taken : ∀ k, k < n → db.board (Int64.ofNat (db.identity + k)) ≠ none
  inRange : db.identity + n < 2 ^ 63
  free : db.board (Int64.ofNat (db.identity + n)) = none

namespace GeneratedLemmas

theorem freeAfter_zero_iff {db : H2} : FreeAfter db 0 ↔ db.freeId ≠ none := by
  constructor
  · intro h
    have hfree : db.freeId = some (Int64.ofNat db.identity) :=
      H2.freeId_eq_some_iff.mpr ⟨H2.nextId_eq_some_iff.mpr ⟨h.inRange, rfl⟩, h.free⟩
    rw [hfree]
    exact Option.some_ne_none _
  · intro h
    obtain ⟨id, hid⟩ := Option.ne_none_iff_exists'.mp h
    obtain ⟨hnext, hnone⟩ := H2.freeId_eq_some_iff.mp hid
    obtain ⟨hlt, rfl⟩ := H2.nextId_eq_some_iff.mp hnext
    exact ⟨fun k hk => absurd hk (Nat.not_lt_zero k), hlt, hnone⟩

/-- The database after a refused addition has one taken id less to come. -/
theorem freeAfter_succ_iff {db db' : H2} {n : Nat} (hfree : db.freeId = none)
    (hboard : db'.board = db.board)
    (hidentity : db'.identity = db.nextId.elim db.identity fun _ => db.identity + 1) :
    FreeAfter db (n + 1) ↔ FreeAfter db' n := by
  cases hnext : db.nextId with
  | none =>
    rw [hnext] at hidentity
    have hout := H2.nextId_eq_none_iff.mp hnext
    have hout' : 2 ^ 63 ≤ db'.identity := hidentity ▸ hout
    refine iff_of_false (fun h => ?_) (fun h => ?_)
    · have := h.inRange
      omega
    · have := h.inRange
      omega
  | some id =>
    rw [hnext] at hidentity
    change db'.identity = db.identity + 1 at hidentity
    obtain ⟨-, rfl⟩ := H2.nextId_eq_some_iff.mp hnext
    have hshift : ∀ k, db'.identity + k = db.identity + (k + 1) := by
      intro k
      omega
    constructor
    · intro h
      refine ⟨fun k hk => ?_, by rw [hshift]; exact h.inRange, by rw [hboard, hshift]; exact h.free⟩
      rw [hboard, hshift]
      exact h.taken (k + 1) (Nat.succ_lt_succ hk)
    · intro h
      refine ⟨fun k hk => ?_, by rw [← hshift]; exact h.inRange, by
        rw [← hboard, ← hshift]; exact h.free⟩
      cases k with
      | zero => exact H2.freeId_eq_none_iff.mp hfree _ hnext
      | succ k =>
        rw [← hboard, ← hshift]
        exact h.taken k (Nat.lt_of_succ_lt_succ hk)

/-- The board after additions that were refused and one that was not. -/
theorem additions_board (title : String) {db : H2} {n : Nat} (h : FreeAfter db n) :
    ((jpaPages conversion).run db (List.replicate (n + 1) (addRequest title))).board =
      db.board.put (Int64.ofNat (db.identity + n)) ⟨some title, false⟩ := by
  induction n generalizing db with
  | zero =>
    have hfree := H2.freeId_eq_some_iff.mpr
      ⟨H2.nextId_eq_some_iff.mpr ⟨h.inRange, rfl⟩, h.free⟩
    exact (add_saved conversion title hfree).2
  | succ n ih =>
    have hlt := h.inRange
    have hnext : db.nextId = some (Int64.ofNat db.identity) :=
      H2.nextId_eq_some_iff.mpr ⟨by omega, rfl⟩
    have hfree : db.freeId = none :=
      H2.freeId_of_mem hnext (H2.mem_iff.mpr (h.taken 0 (Nat.succ_pos n)))
    obtain ⟨-, hboard, hidentity⟩ := add_refused conversion title hfree
    have hrest := (freeAfter_succ_iff hfree hboard hidentity).mp h
    rw [List.replicate_succ, Machine.run_cons, ih hrest, hboard, hidentity, hnext]
    show db.board.put (Int64.ofNat (db.identity + 1 + n)) _ = _
    rw [Nat.add_right_comm, Nat.add_assoc]

/-- The views that the additions end in. -/
theorem additions_views (title : String) (db : H2) (n : Nat) :
    ((∀ k, k < n → ((jpaPages conversion).step
        ((jpaPages conversion).run db (List.replicate k (addRequest title)))
          (addRequest title)).1 = .error (.status 500)) ∧
      ((jpaPages conversion).step
        ((jpaPages conversion).run db (List.replicate n (addRequest title)))
          (addRequest title)).1 = .redirectTasks) ↔ FreeAfter db n := by
  induction n generalizing db with
  | zero =>
    rw [freeAfter_zero_iff]
    constructor
    · rintro ⟨-, hredirect⟩ hfree
      cases hredirect.symm.trans (add_refused conversion title hfree).1
    · intro h
      obtain ⟨id, hid⟩ := Option.ne_none_iff_exists'.mp h
      exact ⟨fun k hk => absurd hk (Nat.not_lt_zero k), (add_saved conversion title hid).1⟩
  | succ n ih =>
    cases hfree : db.freeId with
    | some id =>
      obtain ⟨hnext, hnone⟩ := H2.freeId_eq_some_iff.mp hfree
      obtain ⟨-, rfl⟩ := H2.nextId_eq_some_iff.mp hnext
      refine iff_of_false (fun h => ?_) (fun h => h.taken 0 (Nat.succ_pos n) hnone)
      cases (h.1 0 (Nat.succ_pos n)).symm.trans (add_saved conversion title hfree).1
    | none =>
      obtain ⟨herror, hboard, hidentity⟩ := add_refused conversion title hfree
      rw [freeAfter_succ_iff hfree hboard hidentity, ← ih]
      constructor
      · rintro ⟨hrefused, hredirect⟩
        exact ⟨fun k hk => hrefused (k + 1) (Nat.succ_lt_succ hk), hredirect⟩
      · rintro ⟨hrefused, hredirect⟩
        refine ⟨fun k hk => ?_, hredirect⟩
        cases k with
        | zero => exact herror
        | succ k => exact hrefused k (Nat.lt_of_succ_lt_succ hk)

end GeneratedLemmas

/-- Over the JPA backend, where no filter refuses the requests and the title fits its
column, an addition ends in the error page `n` times and goes through then, as one new
task under the id that is `n` further, exactly when the `n` ids that are generated next
are all taken and the one after them is free. -/
theorem additions_until_saved_iff (title : String) (db : H2) (n : Nat) :
    ((∀ k, k < n → ((jpaPages conversion).step
        ((jpaPages conversion).run db (List.replicate k (addRequest title)))
          (addRequest title)).1 = .error (.status 500)) ∧
      ((jpaPages conversion).step
        ((jpaPages conversion).run db (List.replicate n (addRequest title)))
          (addRequest title)).1 = .redirectTasks ∧
      ((jpaPages conversion).run db (List.replicate (n + 1) (addRequest title))).board =
        db.board.put (Int64.ofNat (db.identity + n)) ⟨some title, false⟩) ↔
    FreeAfter db n := by
  constructor
  · rintro ⟨hrefused, hredirect, -⟩
    exact (additions_views conversion title db n).mp ⟨hrefused, hredirect⟩
  · intro h
    obtain ⟨hrefused, hredirect⟩ := (additions_views conversion title db n).mpr h
    exact ⟨hrefused, hredirect, additions_board conversion title h⟩

example : FreeAfter H2.seeded 3 := ⟨by decide, by decide, by decide⟩

end Additions

end SpiffeTasks
