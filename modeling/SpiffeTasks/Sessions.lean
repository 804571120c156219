import SpiffeTasks.TasksController

/-!
# Browser sessions

Any number of sessions list, open edit pages, save, cancel and delete, in any
order. A `Save` comes from a page that was opened earlier, and nothing in the
page or in the backend says whether its task is still there.

1. `run_open_pages`: the invariant over all interleavings. The task of an open
   page is stored, or was deleted after the page had been opened.
2. `stale_save_board`, `appears_iff_stale_save`: over every channel to a backend, what a
   `Save` from a page whose task was deleted since does to the tasks, and that no other
   click makes a task appear.
3. `deleted_task_reappears_iff`: the same of the two backends.
4. `stale_save_reappears`: a run of two sessions.
-/

namespace SpiffeTasks

/-! ## Sessions -/

/-- What a user of a session does. A page of an edited task comes with the task
that it shows. -/
inductive Click (S : Type)
  | list (session : S)
  | edit (session : S) (id : Long)
  | save (session : S) (page : Frontend.Task) (title : String)
  | cancel (session : S) (page : Frontend.Task) (title : String)
  | delete (session : S) (id : Long)

/-- The request of the click. -/
def Click.request {S : Type} : Click S → PageRequest
  | .list _ => .index
  | .edit _ id => .edit (some id)
  | .save _ page title => ((editTaskForm page).type "title" title).submit .save
  | .cancel _ page title => ((editTaskForm page).type "title" title).submit .cancel
  | .delete _ id => .delete (some id)

/-- What the click writes, if it writes. -/
def Click.write {S : Type} : Click S → Option Write
  | .save _ page title => some (.save ⟨page.id, some title, false⟩)
  | .delete _ id => some (.deleteById id)
  | _ => none

/-- The store, the ids that each session has in its list, and the edit pages that
each session has opened. -/
structure World (σ S : Type) where
  store : σ
  listed : S → List Long
  pages : S → List Frontend.Task

namespace World

variable {σ S : Type}

/-- No session has a page yet. -/
def start (store : σ) : World σ S := ⟨store, fun _ => [], fun _ => []⟩

/-- A session edits and deletes the ids in its list, and submits the edit pages
that it has opened. -/
def Enabled (world : World σ S) : Click S → Prop
  | .list _ => True
  | .edit session id | .delete session id => id ∈ world.listed session
  | .save session page _ | .cancel session page _ => page ∈ world.pages session

variable [DecidableEq S]

/-- The session with the page that the click brought up. -/
def visit (world : World σ S) : Click S → View → World σ S
  | .list session, .tasks tasks =>
    { world with listed := Function.update world.listed session (tasks.map (·.id)) }
  | .edit session _, .editTask task =>
    { world with pages := Function.update world.pages session (task :: world.pages session) }
  | _, _ => world

end World

section Sessions

variable {σ S : Type} [DecidableEq S] {backend : Backend σ}

/-- The frontend under the clicks of all sessions, one request after another. -/
def sessions (channel : Channel backend) (conversion : Conversion) :
    Machine (World σ S) (Click S) View where
  step world click :=
    let (view, store) := servePage channel.service conversion click.request world.store
    (view, { world with store := store }.visit click view)

variable (channel : Channel backend) (conversion : Conversion)

/-- The store after the clicks. -/
def storeAfter (s : σ) (clicks : List (Click S)) : σ :=
  ((sessions channel conversion).run (.start s) clicks).store

namespace SessionLemmas

theorem visit_store (world : World σ S) (click : Click S) (view : View) :
    (world.visit click view).store = world.store := by
  unfold World.visit
  split <;> rfl

theorem step_store (world : World σ S) (click : Click S) :
    ((sessions channel conversion).step world click).2.store =
      (servePage channel.service conversion click.request world.store).2 :=
  visit_store _ click _

omit [DecidableEq S] in
theorem request_write (click : Click S) : click.request.write conversion = click.write := by
  cases click with
  | save session page title => exact write_editTaskForm conversion page title .save
  | cancel session page title => exact write_editTaskForm conversion page title .cancel
  | list session | edit session id | delete session id => rfl

/-- What a click does to the board. -/
theorem step_board (world : World σ S) (click : Click S) :
    backend.board ((sessions channel conversion).step world click).2.store =
      click.write.elim (backend.board world.store) fun write =>
        write.board backend world.store := by
  rw [step_store, servePage_board, request_write]

theorem mem_visit_pages {world : World σ S} {click : Click S} {view : View} {session : S}
    {page : Frontend.Task} (h : page ∈ (world.visit click view).pages session) :
    page ∈ world.pages session ∨ ∃ id, click = .edit session id ∧ view = .editTask page := by
  unfold World.visit at h
  split at h
  · exact .inl h
  · next session' id task =>
    change page ∈ Function.update world.pages session' (task :: world.pages session') session at h
    rcases eq_or_ne session session' with rfl | hne
    · rw [Function.update_self, List.mem_cons] at h
      rcases h with rfl | h
      · exact .inr ⟨id, rfl, rfl⟩
      · exact .inl h
    · rw [Function.update_of_ne hne] at h
      exact .inl h
  · exact .inl h

/-- A page that a click brings up shows a task that is stored. -/
theorem mem_step_pages {world : World σ S} {click : Click S} {session : S}
    {page : Frontend.Task}
    (h : page ∈ ((sessions channel conversion).step world click).2.pages session) :
    page ∈ world.pages session ∨
      (click = .edit session page.id ∧ backend.board world.store page.id ≠ none) := by
  rcases mem_visit_pages h with hold | ⟨id, rfl, hview⟩
  · exact .inl hold
  · obtain ⟨rfl, hrow⟩ := channel.edit_view conversion hview
    exact .inr ⟨rfl, by rw [hrow]; exact Option.some_ne_none _⟩

/-- A stored task stays stored until it is deleted. -/
theorem step_stored {world : World σ S} (click : Click S) {id : Long}
    (h : backend.board world.store id ≠ none) :
    backend.board ((sessions channel conversion).step world click).2.store id ≠ none ∨
      ∃ deleter, click = .delete deleter id := by
  rw [step_board]
  cases click with
  | list session | edit session id | cancel session page title => exact .inl h
  | save session page title =>
    rcases Write.board_stored (.save ⟨page.id, some title, false⟩) h with hstill | hdelete
    · exact .inl hstill
    · cases hdelete
  | delete session id' =>
    rcases Write.board_stored (.deleteById id') h with hstill | hdelete
    · exact .inl hstill
    · cases hdelete
      exact .inr ⟨session, rfl⟩

end SessionLemmas

open SessionLemmas

/-! ## 1. The invariant -/

/-- The clicks so far have opened the page, and deleted its task since. -/
def Stale (clicks : List (Click S)) (session : S) (page : Frontend.Task) : Prop :=
  ∃ pre post deleter, clicks = pre ++ .edit session page.id :: post ∧
    .delete deleter page.id ∈ post

/-- The page was opened by one of the clicks so far, and its task is stored
unless it was deleted since. -/
def OpenPages (backend : Backend σ) (clicks : List (Click S)) (world : World σ S) : Prop :=
  ∀ session page, page ∈ world.pages session →
    (∃ pre post, clicks = pre ++ .edit session page.id :: post) ∧
      (backend.board world.store page.id ≠ none ∨ Stale clicks session page)

namespace SessionLemmas

omit [DecidableEq S] in
theorem Stale.concat {clicks : List (Click S)} {session : S} {page : Frontend.Task}
    (h : Stale clicks session page) (click : Click S) :
    Stale (clicks ++ [click]) session page := by
  obtain ⟨pre, post, deleter, rfl, hdelete⟩ := h
  refine ⟨pre, post ++ [click], deleter, by simp, ?_⟩
  exact List.mem_append_left _ hdelete

theorem step_open_pages {clicks : List (Click S)} {world : World σ S} {click : Click S}
    (h : OpenPages backend clicks world) :
    OpenPages backend (clicks ++ [click])
      ((sessions channel conversion).step world click).2 := by
  intro session page hpage
  -- The page was open already, or this click has brought it up.
  rcases mem_step_pages channel conversion hpage with hold | ⟨rfl, hstored⟩
  · obtain ⟨⟨pre, post, rfl⟩, hpre⟩ := h session page hold
    refine ⟨⟨pre, post ++ [click], by simp⟩, ?_⟩
    rcases hpre with hstored | hstale
    · rcases step_stored channel conversion click hstored with hstill | ⟨deleter, rfl⟩
      · exact .inl hstill
      · exact .inr ⟨pre, post ++ [.delete deleter page.id], deleter, by simp, by simp⟩
    · exact .inr (Stale.concat hstale click)
  · refine ⟨⟨clicks, [], rfl⟩, .inl ?_⟩
    rw [step_board]
    exact hstored

end SessionLemmas

/-- The invariant holds after every sequence of clicks. -/
theorem run_open_pages {clicks : List (Click S)} {s : σ}
    (h : (sessions channel conversion).Admitted World.Enabled (.start s) clicks) :
    OpenPages backend clicks ((sessions channel conversion).run (.start s) clicks) := by
  refine Machine.run_history ?_ h fun v world click hv _ =>
    step_open_pages channel conversion hv
  intro session page hpage
  cases hpage

/-! ## 2. What makes a task appear -/

/-- A `Save` from a page whose task is not stored: the task was deleted after the page
had been opened. The task is stored where the backend puts it, with the title submitted,
or not at all. -/
theorem stale_save_board {clicks : List (Click S)} {session : S} {page : Frontend.Task}
    {title : String} {s : σ}
    (h : (sessions channel conversion).Admitted World.Enabled (.start s)
      (clicks ++ [.save session page title]))
    (hgone : backend.board (storeAfter channel conversion s clicks) page.id = none) :
    Stale clicks session page ∧
      backend.board (storeAfter channel conversion s (clicks ++ [.save session page title])) =
        (backend.target (storeAfter channel conversion s clicks) (some page.id)).elim
          (backend.board (storeAfter channel conversion s clicks)) fun key =>
            (backend.board (storeAfter channel conversion s clicks)).put key
              ⟨some title, false⟩ := by
  have hopen := run_open_pages channel conversion (Machine.admitted_append.mp h).1
  obtain ⟨-, hstored | hstale⟩ := hopen session page (Machine.Admitted.step h)
  · exact absurd hgone hstored
  · refine ⟨hstale, ?_⟩
    unfold storeAfter
    rw [Machine.run_concat, step_board]
    rfl

/-- Over every channel, in every interleaving, a click makes a task appear exactly
when it is a `Save` from a page whose task was deleted after the page had been
opened and is not stored. The task appears where the backend puts a task that is not
stored. -/
theorem appears_iff_stale_save {clicks : List (Click S)} {click : Click S} {s : σ} {key : Long}
    (h : (sessions channel conversion).Admitted World.Enabled (.start s) (clicks ++ [click])) :
    (backend.board (storeAfter channel conversion s clicks)).Appears
      (backend.board (storeAfter channel conversion s (clicks ++ [click]))) key ↔
    ∃ session page title, click = .save session page title ∧ Stale clicks session page ∧
      backend.board (storeAfter channel conversion s clicks) page.id = none ∧
      backend.target (storeAfter channel conversion s clicks) (some page.id) = some key := by
  constructor
  · intro happears
    have hwritten := happears
    unfold storeAfter at hwritten
    rw [Machine.run_concat, step_board] at hwritten
    cases hwrite : click.write with
    | none =>
      rw [hwrite] at hwritten
      exact absurd hwritten (PartialMap.not_appears_self _ _)
    | some write =>
      rw [hwrite] at hwritten
      obtain ⟨task, rfl, hgone, htarget⟩ := Write.board_appears hwritten
      cases click with
      | list session | edit session id | cancel session page title | delete session id =>
        cases hwrite
      | save session page title =>
        cases hwrite
        exact ⟨session, page, title, rfl, (stale_save_board channel conversion h hgone).1, hgone,
          htarget⟩
  · rintro ⟨session, page, title, rfl, -, hgone, htarget⟩
    obtain ⟨-, hboard⟩ := stale_save_board channel conversion h hgone
    rw [htarget] at hboard
    rw [hboard]
    exact PartialMap.appears_put_iff.mpr ⟨rfl, backend.target_fresh _ _ _ hgone htarget⟩

end Sessions

/-- In every interleaving, in the JPA backend and in the Mongo backend, a click makes a
task appear exactly when it is a `Save` from a page whose task was deleted after the page
had been opened and is not stored. The JPA backend then inserts the task under the next
generated id, or leaves the tasks as they are if there is one with that id. The Mongo
backend inserts it under the id it had. -/
theorem deleted_task_reappears_iff :
    (∀ (S : Type) [DecidableEq S] (channel : Channel jpaBackend) (conversion : Conversion)
      (db : H2) (clicks : List (Click S)) (click : Click S),
      (sessions channel conversion).Admitted World.Enabled (.start db) (clicks ++ [click]) →
      let before := storeAfter channel conversion db clicks
      let after := storeAfter channel conversion db (clicks ++ [click])
      (∀ key, before.board.Appears after.board key ↔
        ∃ session page title, click = .save session page title ∧ Stale clicks session page ∧
          before.board page.id = none ∧ before.nextId = some key ∧ before.board key = none) ∧
      ∀ session page title, click = .save session page title → before.board page.id = none →
        Stale clicks session page ∧
        ((∃ key, before.nextId = some key ∧ before.board key = none ∧
            after.board = before.board.put key ⟨some title, false⟩) ∨
          ((∀ key, before.nextId = some key → before.board key ≠ none) ∧
            after.board = before.board))) ∧
    ∀ (S : Type) [DecidableEq S] (channel : Channel mongoBackend) (conversion : Conversion)
      (db : MongoDb) (clicks : List (Click S)) (click : Click S),
      (sessions channel conversion).Admitted World.Enabled (.start db) (clicks ++ [click]) →
      let before := storeAfter channel conversion db clicks
      let after := storeAfter channel conversion db (clicks ++ [click])
      (∀ key, before.board.Appears after.board key ↔
        ∃ session page title, click = .save session page title ∧ Stale clicks session page ∧
          before.board page.id = none ∧ key = page.id) ∧
      ∀ session page title, click = .save session page title → before.board page.id = none →
        Stale clicks session page ∧
        after.board = before.board.put page.id ⟨some title, false⟩ := by
  constructor
  · intro S _ channel conversion db clicks click h before after
    constructor
    · intro key
      refine (appears_iff_stale_save channel conversion h).trans ?_
      constructor
      · rintro ⟨session, page, title, hclick, hstale, hgone, htarget⟩
        have hfree := (H2.target_of_none hgone).symm.trans htarget
        exact ⟨session, page, title, hclick, hstale, hgone, H2.freeId_eq_some_iff.mp hfree⟩
      · rintro ⟨session, page, title, hclick, hstale, hgone, hkey⟩
        have hfree := H2.freeId_eq_some_iff.mpr hkey
        exact ⟨session, page, title, hclick, hstale, hgone, (H2.target_of_none hgone).trans hfree⟩
    · rintro session page title rfl hgone
      obtain ⟨hstale, hboard⟩ := stale_save_board channel conversion h hgone
      refine ⟨hstale, ?_⟩
      have htarget : jpaBackend.target before (some page.id) = before.freeId :=
        H2.target_of_none hgone
      rw [htarget] at hboard
      cases hfree : before.freeId with
      | some key =>
        rw [hfree] at hboard
        obtain ⟨hnext, hkey⟩ := H2.freeId_eq_some_iff.mp hfree
        exact .inl ⟨key, hnext, hkey, hboard⟩
      | none =>
        rw [hfree] at hboard
        exact .inr ⟨H2.freeId_eq_none_iff.mp hfree, hboard⟩
  · intro S _ channel conversion db clicks click h before after
    constructor
    · intro key
      refine (appears_iff_stale_save channel conversion h).trans ?_
      constructor
      · rintro ⟨session, page, title, hclick, hstale, hgone, htarget⟩
        exact ⟨session, page, title, hclick, hstale, hgone, (Option.some.inj htarget).symm⟩
      · rintro ⟨session, page, title, hclick, hstale, hgone, rfl⟩
        exact ⟨session, page, title, hclick, hstale, hgone, rfl⟩
    · rintro session page title rfl hgone
      exact stale_save_board channel conversion h hgone

/-! ## 3. Two sessions -/

/-- One session opens the edit page of task 1, then the other one deletes the
task. -/
def openThenDelete : List (Click Bool) :=
  [.list true, .list false, .edit true 1, .delete false 1]

/-- The page that the first session has opened in the JPA demos. -/
def jpaPage : Frontend.Task := ⟨1, some "Write SPIFFE tutorial", false⟩

/-- The page that the first session has opened in the Mongo demo. -/
def mongoPage : Frontend.Task := ⟨1, some "Call my mom", true⟩

namespace SessionLemmas

theorem openThenDelete_admitted_jpa :
    (sessions (directChannel jpaBackend) .decimal).Admitted World.Enabled (.start H2.seeded)
      (openThenDelete ++ [.save true jpaPage "again"]) := by
  refine ⟨trivial, trivial, ?_, ?_, ?_, trivial⟩
  · show (1 : Long) ∈ _
    decide
  · show (1 : Long) ∈ _
    decide
  · show jpaPage ∈ _
    decide

theorem openThenDelete_admitted_mongo :
    (sessions (directChannel mongoBackend) .decimal).Admitted World.Enabled
      (.start MongoDb.seeded) (openThenDelete ++ [.save true mongoPage "again"]) := by
  refine ⟨trivial, trivial, ?_, ?_, ?_, trivial⟩
  · show (1 : Long) ∈ _
    decide
  · show (1 : Long) ∈ _
    decide
  · show mongoPage ∈ _
    decide

end SessionLemmas

open SessionLemmas

/-- What the `Save` of the first session does to the board. -/
theorem stale_save_inserts :
    (storeAfter (directChannel jpaBackend) .decimal H2.seeded
        (openThenDelete ++ [.save true jpaPage "again"])).board =
      (storeAfter (directChannel jpaBackend) .decimal H2.seeded openThenDelete).board.put 1
        ⟨some "again", false⟩ ∧
    (storeAfter (directChannel mongoBackend) .decimal MongoDb.seeded
        (openThenDelete ++ [.save true mongoPage "again"])).board =
      (storeAfter (directChannel mongoBackend) .decimal MongoDb.seeded openThenDelete).board.put 1
        ⟨some "again", false⟩ := by
  constructor
  · obtain ⟨-, ⟨key, hnext, -, hboard⟩ | ⟨hnone, -⟩⟩ := (deleted_task_reappears_iff.1 Bool
      (directChannel jpaBackend) .decimal H2.seeded openThenDelete _
      openThenDelete_admitted_jpa).2 true jpaPage "again" rfl (by decide)
    · cases hnext
      exact hboard
    · exact absurd (hnone 1 (by decide)) (by decide)
  · exact ((deleted_task_reappears_iff.2 Bool (directChannel mongoBackend) .decimal MongoDb.seeded
      openThenDelete _ openThenDelete_admitted_mongo).2 true mongoPage "again" rfl
      (by decide)).2

/-- In both backends the `Save` of the first session brings task 1 back. -/
theorem stale_save_reappears :
    ((sessions (directChannel jpaBackend) .decimal).Admitted World.Enabled (.start H2.seeded)
        (openThenDelete ++ [.save true jpaPage "again"]) ∧
      (storeAfter (directChannel jpaBackend) .decimal H2.seeded openThenDelete).board.Appears
        (storeAfter (directChannel jpaBackend) .decimal H2.seeded
          (openThenDelete ++ [.save true jpaPage "again"])).board 1) ∧
    ((sessions (directChannel mongoBackend) .decimal).Admitted World.Enabled
        (.start MongoDb.seeded) (openThenDelete ++ [.save true mongoPage "again"]) ∧
      (storeAfter (directChannel mongoBackend) .decimal MongoDb.seeded openThenDelete).board.Appears
        (storeAfter (directChannel mongoBackend) .decimal MongoDb.seeded
          (openThenDelete ++ [.save true mongoPage "again"])).board 1) := by
  refine ⟨⟨openThenDelete_admitted_jpa, ?_⟩, openThenDelete_admitted_mongo, ?_⟩
  · exact ⟨by decide, by decide⟩
  · exact ⟨by decide, by decide⟩

end SpiffeTasks
