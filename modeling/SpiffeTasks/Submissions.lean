import SpiffeTasks.TasksController

/-!
# What a submitted form can write in the JPA demos

Both POST handlers save the task that Spring bound. Its id is the `id`
parameter's, where there is one, and the path id otherwise; the handlers do not
compare the two.

1. `save_extendsOn_iff`: which tasks a save leaves as they are.
2. `bindId_eq`: the bound id is the one that the submission names, if it names
   one.
3. `submission_confined_iff`: a submission leaves the tasks that its URL does not
   name as they are, exactly when its `id` parameter does not name one of them
   to overwrite.
4. `edit_overwrites_other`: `id=1`, posted to the edit page of task 2.
-/

namespace SpiffeTasks

/-- The id that a submission names: the one in its `id` parameter, if that can be
converted, and the one in its path where there is no such parameter. -/
def submittedId (conversion : Conversion) (uriId : Option Long) (params : Params) : Option Long :=
  (params.getParameter "id").elim uriId conversion.toLong

/-- The `id` parameter names the task stored under `id`, and what is submitted
is not what is stored. -/
def Overwrites (conversion : Conversion) (params : Params) (board : Board) (id : Long) : Prop :=
  ∃ text, params.getParameter "id" = some text ∧ conversion.toLong text = some id ∧
    ∃ row, board id = some row ∧ row ≠ ⟨bindTitle params, (bindCompleted conversion params).1⟩

namespace SubmissionLemmas

theorem board_zero (db : H2) : db.board 0 = none :=
  H2.not_mem_iff.mp db.zero_not_mem

/-- A generated id is that of no stored task. -/
theorem freeId_extendsOn (A : Set Long) (db : H2) (row : Row) :
    db.board.ExtendsOn A (db.freeId.elim db.board fun id => db.board.put id row) := by
  cases hfree : db.freeId with
  | none => exact PartialMap.extendsOn_refl A db.board
  | some id =>
    obtain ⟨-, hnone⟩ := H2.freeId_eq_some_iff.mp hfree
    refine PartialMap.extendsOn_put_iff.mpr fun _ w hw => ?_
    rw [hnone] at hw
    cases hw

/-- The bound id is the one that the submission names, or else the default. -/
theorem bindId_eq (conversion : Conversion) (uriId : Option Long) (params : Params) :
    (bindId conversion uriId params).1 = (submittedId conversion uriId params).getD 0 := by
  unfold bindId submittedId
  cases params.getParameter "id" with
  | none => rfl
  | some text =>
    rw [Option.elim_some, Option.elim_some]
    cases hlong : conversion.toLong text with
    | none => rw [bindField_of_none hlong, Option.getD_none]
    | some id => rw [bindField_of_some hlong, Option.getD_some]

/-- It is a stored task's only where the submission names one. -/
theorem board_bindId (db : H2) (conversion : Conversion) (uriId : Option Long)
    (params : Params) :
    db.board (bindTask conversion uriId params).1.id =
      (submittedId conversion uriId params).bind db.board := by
  show db.board (bindId conversion uriId params).1 = _
  rw [bindId_eq, PartialMap.apply_getD (board_zero db)]

end SubmissionLemmas

open SubmissionLemmas

/-- A save leaves the tasks under `A` as they are exactly when it does not
overwrite one of them. -/
theorem save_extendsOn_iff (A : Set Long) (task : Frontend.Task) (db : H2) :
    db.board.ExtendsOn A ((Write.save task).board jpaBackend db) ↔
      (task.id ∈ A → ∀ row, db.board task.id = some row → row = task.row) := by
  show db.board.ExtendsOn A ((db.target task.id).elim db.board fun id =>
    db.board.put id task.row) ↔ _
  unfold H2.target
  split
  · exact PartialMap.extendsOn_put_iff
  · next hmem =>
    refine iff_of_true (freeId_extendsOn A db task.row) fun _ row hrow => ?_
    rw [H2.not_mem_iff.mp hmem] at hrow
    cases hrow

namespace SubmissionLemmas

/-- Only an `id` parameter can make the bound task one of those under `A`, if
the path does not. -/
theorem bound_save_extendsOn_iff {A : Set Long} {conversion : Conversion} {uriId : Option Long}
    {params : Params} {db : H2} (huri : ∀ id, uriId = some id → id ∉ A) :
    db.board.ExtendsOn A
        ((Write.save (bindTask conversion uriId params).1).board jpaBackend db) ↔
      ∀ id, id ∈ A → ¬ Overwrites conversion params db.board id := by
  rw [save_extendsOn_iff]
  constructor
  · rintro h id hid ⟨text, hparam, hlong, row, hrow, hne⟩
    have hbound : (bindTask conversion uriId params).1.id = id := by
      show (bindId conversion uriId params).1 = id
      rw [bindId_eq, submittedId, hparam, Option.elim_some, hlong, Option.getD_some]
    rw [hbound] at h
    exact hne (h hid row hrow)
  · intro h hid row hrow
    rw [board_bindId, Option.bind_eq_some_iff] at hrow
    obtain ⟨id, hid', hrow⟩ := hrow
    change (bindId conversion uriId params).1 ∈ A at hid
    rw [bindId_eq, hid', Option.getD_some] at hid
    unfold submittedId at hid'
    cases hparam : params.getParameter "id" with
    | none =>
      rw [hparam, Option.elim_none] at hid'
      exact absurd hid (huri id hid')
    | some text =>
      rw [hparam, Option.elim_some] at hid'
      by_contra hne
      exact h id hid ⟨text, hparam, hid', row, hrow, hne⟩

end SubmissionLemmas

/-! ## What the URL names -/

/-- `POST /tasks/new` leaves every stored task as it is, and
`POST /tasks/edit/{k}` every stored task other than `k`, exactly when the
submission is not a save or its `id` parameter does not name one of these tasks,
to be overwritten with something else. -/
theorem submission_confined_iff (channel : Channel jpaBackend) (conversion : Conversion)
    (db : H2) (params : Params) :
    (db.board.ExtendsOn Set.univ
        ((channel.pages conversion).step db (.postNew params)).2.board ↔
      params.getParameter "action" = some "cancel" ∨
        ∀ id, ¬ Overwrites conversion params db.board id) ∧
    ∀ k, (db.board.ExtendsOn {k}ᶜ
        ((channel.pages conversion).step db (.postEdit (some k) params)).2.board ↔
      params.getParameter "action" ≠ some "save" ∨
        ∀ id, id ≠ k → ¬ Overwrites conversion params db.board id) := by
  constructor
  · have hboard : ((channel.pages conversion).step db (.postNew params)).2.board = _ :=
      servePage_board channel conversion (.postNew params) db
    rw [hboard, write_postNew]
    split
    · next hcancel =>
      exact iff_of_true (PartialMap.extendsOn_refl _ _) (.inl hcancel)
    · next hcancel =>
      have huri : ∀ id, none = some id → id ∉ (Set.univ : Set Long) := by
        rintro id ⟨⟩
      rw [or_iff_right hcancel, Option.elim_some, bound_save_extendsOn_iff huri]
      simp only [Set.mem_univ, forall_const]
  · intro k
    have hboard : ((channel.pages conversion).step db (.postEdit (some k) params)).2.board = _ :=
      servePage_board channel conversion (.postEdit (some k) params) db
    rw [hboard, write_postEdit]
    split
    · next hsave =>
      have huri : ∀ id, some k = some id → id ∉ ({k}ᶜ : Set Long) := by
        rintro id hid hmem
        exact hmem (Option.some.inj hid).symm
      rw [or_iff_right (not_not.mpr hsave), Option.elim_some, bound_save_extendsOn_iff huri]
      simp only [Set.mem_compl_singleton_iff]
    · next hsave =>
      exact iff_of_true (PartialMap.extendsOn_refl _ _) (.inl hsave)

/-! ## A submission that names another task -/

/-- The parameters of a form with an `id` that the rendered form does not have. -/
def forgedParams : Params := [("id", "1"), ("title", "forged"), ("action", "save")]

/-- Posted to the edit page of task 2 or to the add page, the form overwrites
task 1. -/
theorem edit_overwrites_other :
    ¬ H2.seeded.board.ExtendsOn {2}ᶜ
        (((directChannel jpaBackend).pages .decimal).step H2.seeded
          (.postEdit (some 2) forgedParams)).2.board ∧
    ¬ H2.seeded.board.ExtendsOn Set.univ
        (((directChannel jpaBackend).pages .decimal).step H2.seeded
          (.postNew forgedParams)).2.board := by
  have hrow : H2.seeded.board 1 = some ⟨some "Write SPIFFE tutorial", false⟩ := by decide
  refine ⟨fun h => ?_, fun h => ?_⟩
  · exact absurd (h 1 (by decide) _ hrow) (by decide)
  · exact absurd (h 1 trivial _ hrow) (by decide)

end SpiffeTasks
