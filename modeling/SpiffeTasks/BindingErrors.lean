import SpiffeTasks.Submissions

/-!
# Submissions that do not bind

Both POST handlers declare a `BindingResult` and do not look at it. Spring calls
them all the same, with every field that could not be converted at its default,
and they save that task.

1. `bindTask_errors_iff`, `newTask_rejects_iff`: which parameters leave an error
   in the `BindingResult`, and the handler without one that rejects them.
2. `submission_state`: a submission does to the database what the `save` of the
   bound task does.
3. `unbindable_writes_nothing_iff`: a submission that does not bind writes nothing
   exactly when it names a task that is stored as it would be saved, or names no
   stored task and the INSERT does not go through.
4. `unbindable_edit_writes`: two edits of task 2, one that renames it and one that
   adds a task.
-/

namespace SpiffeTasks

/-! ## 1. The `BindingResult` -/

/-- A parameter cannot be converted to the type of its field. Every text is a
title. -/
def Unbindable (conversion : Conversion) (params : Params) : Prop :=
  (∃ text, params.getParameter "id" = some text ∧ conversion.toLong text = none) ∨
    ∃ text, params.getParameter "completed" = some text ∧ conversion.toBoolean text = none

namespace BindingLemmas

/-- A field leaves an error when its parameter is there and is not converted. -/
theorem bound_errors_iff {α : Type} {field : String} {convert : String → Option α}
    {absent default : α} {param : Option String} :
    (param.elim (absent, []) (bindField field convert default)).2 ≠ [] ↔
      ∃ text, param = some text ∧ convert text = none := by
  cases param with
  | none =>
    refine iff_of_false (fun h => h rfl) ?_
    rintro ⟨text, htext, -⟩
    cases htext
  | some text =>
    rw [Option.elim_some]
    cases hconvert : convert text with
    | none =>
      rw [bindField_of_none hconvert]
      exact iff_of_true (List.cons_ne_nil field []) ⟨text, rfl, hconvert⟩
    | some value =>
      rw [bindField_of_some hconvert]
      refine iff_of_false (fun h => h rfl) ?_
      rintro ⟨text', htext, hnone⟩
      cases htext
      rw [hconvert] at hnone
      cases hnone

end BindingLemmas

open SubmissionLemmas BindingLemmas

/-- The parameters that do not bind are those that leave an error. -/
theorem bindTask_errors_iff (conversion : Conversion) (uriId : Option Long) (params : Params) :
    (bindTask conversion uriId params).2 ≠ [] ↔ Unbindable conversion params := by
  unfold bindTask Unbindable
  rw [Ne, List.append_eq_nil_iff, not_and_or]
  exact or_congr bound_errors_iff bound_errors_iff

/-- `newTask` declares no `BindingResult`, and is not called with parameters that
do not bind. -/
theorem newTask_rejects_iff {σ : Type} {backend : Backend σ} (channel : Channel backend)
    (conversion : Conversion) (params : Params) (s : σ) :
    (channel.pages conversion).step s (.newTask params) = (.error .argument, s) ↔
      Unbindable conversion params := by
  rw [← bindTask_errors_iff conversion none params]
  show servePage channel.service conversion (.newTask params) s = _ ↔ _
  have hnew : TasksController.dispatch channel.service conversion (.newTask params) =
      if (bindTask conversion none params).2 = [] then
        pure (.addTask (bindTask conversion none params).1)
      else throw .argument := rfl
  rcases eq_or_ne (bindTask conversion none params).2 [] with hempty | hne
  · rw [if_pos hempty] at hnew
    rw [servePage_of_ok (congrFun hnew s)]
    refine iff_of_false (fun h => ?_) (not_not.mpr hempty)
    cases congrArg Prod.fst h
  · rw [if_neg hne] at hnew
    exact iff_of_true (servePage_of_error (congrFun hnew s)) hne

/-! ## 2. What a submission saves -/

/-- A form submission that is saved, with the id in its path and its parameters:
`POST /tasks/new` without `action=cancel`, and `POST /tasks/edit/{id}` with
`action=save`. -/
inductive Submission : PageRequest → Option Long → Params → Prop
  | new {params : Params} : params.getParameter "action" ≠ some "cancel" →
      Submission (.postNew params) none params
  | edit {id : Long} {params : Params} : params.getParameter "action" = some "save" →
      Submission (.postEdit (some id) params) (some id) params

/-- The submission names a stored task, which has the title submitted and is not
completed: what the save of a task with the default for `completed` writes. -/
def Resubmits (conversion : Conversion) (uriId : Option Long) (params : Params)
    (board : Board) : Prop :=
  ∃ id, submittedId conversion uriId params = some id ∧
    board id = some ⟨bindTitle params, false⟩

/-- The submission names no stored task: there is no id in it, or the id cannot
be converted, or there is no task under it. -/
def NamesNoTask (conversion : Conversion) (uriId : Option Long) (params : Params)
    (board : Board) : Prop :=
  ∀ id, submittedId conversion uriId params = some id → board id = none

namespace BindingLemmas

theorem write_submission (conversion : Conversion) {request : PageRequest} {uriId : Option Long}
    {params : Params} (h : Submission request uriId params) :
    request.write conversion = some (.save (bindTask conversion uriId params).1) := by
  cases h with
  | new haction => rw [write_postNew, if_neg haction]
  | edit haction => rw [write_postEdit, if_pos haction]

end BindingLemmas

/-- What a submission does to the database is the `save` of the bound task, on
the other side of the JSON. -/
theorem submission_state (channel : Channel jpaBackend) (conversion : Conversion) (db : H2)
    {request : PageRequest} {uriId : Option Long} {params : Params}
    (h : Submission request uriId params) :
    ((channel.pages conversion).step db request).2 =
      (JpaRepository.save (Jackson.read
        (Jackson.write (bindTask conversion uriId params).1)) db).state := by
  refine (servePage_state_of_write channel conversion (write_submission conversion h) db).trans ?_
  rw [Write.call_save_state, channel.save_state]
  exact BackendLemmas.serve_createBook_state jpaRepository _ db

/-! ## 3. Submissions that write nothing -/

namespace BindingLemmas

/-- Where a submission that does not bind names an id, it is `completed` that
cannot be converted. -/
theorem bindTask_row {conversion : Conversion} {uriId : Option Long} {params : Params} {id : Long}
    (hfail : Unbindable conversion params)
    (hid : submittedId conversion uriId params = some id) :
    (bindTask conversion uriId params).1.row = ⟨bindTitle params, false⟩ := by
  rcases hfail with ⟨text, hparam, hlong⟩ | ⟨text, hparam, hboolean⟩
  · rw [submittedId, hparam, Option.elim_some, hlong] at hid
    cases hid
  · show (⟨bindTitle params, (bindCompleted conversion params).1⟩ : Row) = _
    rw [bindCompleted, hparam, Option.elim_some, bindField_of_none hboolean]

theorem stored_iff_resubmits {conversion : Conversion} {params : Params}
    (hfail : Unbindable conversion params) (uriId : Option Long) (db : H2) :
    db.board (bindTask conversion uriId params).1.id =
        some (bindTask conversion uriId params).1.row ↔
      Resubmits conversion uriId params db.board := by
  rw [board_bindId, Option.bind_eq_some_iff]
  refine exists_congr fun id => and_congr_right fun hid => ?_
  rw [bindTask_row hfail hid]

theorem absent_iff_namesNoTask (conversion : Conversion) (uriId : Option Long) (params : Params)
    (db : H2) :
    db.board (bindTask conversion uriId params).1.id = none ↔
      NamesNoTask conversion uriId params db.board := by
  rw [board_bindId, Option.bind_eq_none_iff]
  rfl

end BindingLemmas

/-- A submission that does not bind leaves the tasks as they are exactly when it
names a task that is stored as it would be saved, or names no stored task and the
generated id is taken or there is none. With the generator, it leaves the database
as it is exactly when there is none in the second case. -/
theorem unbindable_writes_nothing_iff (channel : Channel jpaBackend) (conversion : Conversion)
    (db : H2) {request : PageRequest} {uriId : Option Long} {params : Params}
    (hsubmission : Submission request uriId params) (hfail : Unbindable conversion params) :
    (((channel.pages conversion).step db request).2.board = db.board ↔
      Resubmits conversion uriId params db.board ∨
        (NamesNoTask conversion uriId params db.board ∧
          ∀ id, db.nextId = some id → db.board id ≠ none)) ∧
    (((channel.pages conversion).step db request).2 = db ↔
      Resubmits conversion uriId params db.board ∨
        (NamesNoTask conversion uriId params db.board ∧ db.nextId = none)) := by
  have hstored := stored_iff_resubmits hfail uriId db
  have habsent := absent_iff_namesNoTask conversion uriId params db
  rw [submission_state channel conversion db hsubmission]
  constructor
  · rw [JpaRepository.save_board_eq_self_iff, H2.freeId_eq_none_iff]
    exact or_congr hstored (and_congr_left' habsent)
  · rw [JpaRepository.save_state_eq_self_iff]
    exact or_congr hstored (and_congr_left' habsent)

/-- The parameters of an edit form with a `completed` that is not a boolean. -/
def maybeParams (title : String) : Params :=
  [("title", title), ("completed", "maybe"), ("action", "save")]

/-- The database after a form is posted to the edit page of task 2. -/
def editTwo (db : H2) (params : Params) : H2 :=
  (((directChannel jpaBackend).pages .decimal).step db (.postEdit (some 2) params)).2

namespace BindingLemmas

theorem maybeParams_unbindable (title : String) : Unbindable .decimal (maybeParams title) :=
  .inr ⟨"maybe", rfl, by decide⟩

end BindingLemmas

/-- With the title that task 2 has, the form changes nothing. -/
theorem unbindable_resubmission_idle :
    editTwo H2.seeded (maybeParams "Review PR") = H2.seeded :=
  (unbindable_writes_nothing_iff (directChannel jpaBackend) .decimal H2.seeded
    (.edit (by decide)) (maybeParams_unbindable "Review PR")).2.mpr
    (.inl ⟨2, by decide, by decide⟩)

/-! ## 4. Two edits that write -/

/-- The parameters of an edit form with an `id` that is not a `long`. -/
def wordIdParams : Params := [("id", "two"), ("title", "Review PR"), ("action", "save")]

/-- `completed=maybe` goes with a new title for task 2, and `id=two` makes the
edit of task 2 an addition. -/
theorem unbindable_edit_writes :
    (Submission (.postEdit (some 2) (maybeParams "Renamed")) (some 2) (maybeParams "Renamed") ∧
      Unbindable .decimal (maybeParams "Renamed") ∧
      editTwo H2.seeded (maybeParams "Renamed") ≠ H2.seeded ∧
      (editTwo H2.seeded (maybeParams "Renamed")).board 2 = some ⟨some "Renamed", false⟩) ∧
    (Submission (.postEdit (some 2) wordIdParams) (some 2) wordIdParams ∧
      Unbindable .decimal wordIdParams ∧
      editTwo (H2.seeded.delete 1) wordIdParams ≠ H2.seeded.delete 1 ∧
      (editTwo (H2.seeded.delete 1) wordIdParams).board 1 = some ⟨some "Review PR", false⟩) := by
  have hrenamed : (editTwo H2.seeded (maybeParams "Renamed")).board 2 =
      some ⟨some "Renamed", false⟩ := by decide
  have hadded : (editTwo (H2.seeded.delete 1) wordIdParams).board 1 =
      some ⟨some "Review PR", false⟩ := by decide
  refine ⟨⟨.edit (by decide), maybeParams_unbindable "Renamed", fun h => ?_, hrenamed⟩,
    .edit (by decide), .inl ⟨"two", by decide, by decide⟩, fun h => ?_, hadded⟩
  · rw [h] at hrenamed
    exact absurd hrenamed (by decide)
  · rw [h] at hadded
    exact absurd hadded (by decide)

end SpiffeTasks
