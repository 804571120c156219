import SpiffeTasks.Browser
import SpiffeTasks.Lib.Texts

/-!
# URLs

The templates of the frontend and `TasksService` write ids into URLs, and the mappings
of the two controllers read them out again.

1. `TasksController.route`, `TaskController.route`: the mappings.
2. `Action.http`, `Request.http`: the URLs that the pages and the service ask for.
3. `route_http`: a request of the service comes to the handler that it is meant for,
   with the same id.
4. `http_browsing`: over every run, a browser that goes by the URLs of the pages does
   and shows what the browser does that knows the handlers.
-/

namespace SpiffeTasks

inductive HttpMethod
  | GET
  | POST
  | DELETE
  deriving DecidableEq

/-- A request as it is sent: its method, the path of its URL, and what goes with it. -/
structure Http (β : Type) where
  method : HttpMethod
  path : String
  body : β

/-- `Long.toString` -/
def longToString (id : Long) : String := String.ofList (Decimal.print id.toInt)

/-- The segments of a path, which a mapping is compared with. -/
def pathSegments (path : String) : List String :=
  (Path.segments path.toList).map String.ofList

/-! ## 1. The mappings -/

/-- The `@GetMapping` and `@PostMapping` of the frontend, with the parameters of the
request. -/
def TasksController.route (conversion : Conversion) (request : Http Params) :
    Option PageRequest :=
  match request.method, pathSegments request.path with
  | .GET, ["tasks"] => some .index
  | .GET, ["tasks", "new"] => some (.newTask request.body)
  | .POST, ["tasks", "new"] => some (.postNew request.body)
  | .GET, ["tasks", "edit", id] => some (.edit (conversion.toLong id))
  | .POST, ["tasks", "edit", id] => some (.postEdit (conversion.toLong id) request.body)
  | .GET, ["tasks", "delete", id] => some (.delete (conversion.toLong id))
  | _, _ => none

/-- The mappings of the backend, with the task in the body of the request. -/
def TaskController.route (conversion : Conversion) (request : Http (Option TaskJson)) :
    Option Request :=
  match request.method, pathSegments request.path with
  | .GET, ["tasks"] => some .getTasks
  | .POST, ["tasks"] => some (.createBook request.body)
  | .GET, ["tasks", taskId] => some (.getTask (conversion.toLong taskId))
  | .DELETE, ["tasks", taskId] => some (.deleteTask (conversion.toLong taskId))
  | _, _ => none

/-! ## 2. The URLs -/

/-- The path of `tasks.service`. -/
def tasksUrl : String := "/tasks"

/-- `String.format` with an id that can be null. -/
def formatId (url : String) (id : Option Long) : String :=
  url ++ "/" ++ id.elim "null" longToString

/-- A request as `TasksService` sends it. -/
def Request.http : Request → Http (Option TaskJson)
  | .getTasks => ⟨.GET, tasksUrl, none⟩
  | .createBook body => ⟨.POST, tasksUrl, body⟩
  | .getTask taskId => ⟨.GET, formatId tasksUrl taskId, none⟩
  | .deleteTask taskId => ⟨.DELETE, formatId tasksUrl taskId, none⟩

/-- A form as it is posted. -/
def Form.http (form : Form) (path : String) (title : String) (button : Button) : Http Params :=
  ⟨.POST, path, (form.type "title" title).inputs ++ [("action", button.value)]⟩

/-- A browser with a page: what it asked for last, and what is shown. A path without a
mapping shows no view of the frontend. -/
structure Tab where
  last : Http Params
  shown : Option View

/-- What an action asks for, by the links of `tasks.html` and the forms of
`addTask.html` and `editTask.html`. -/
def Tab.http (tab : Tab) : Action → Option (Http Params)
  | .list => some ⟨.GET, "/tasks", []⟩
  | .new =>
    match tab.shown with
    | some (.tasks _) => some ⟨.GET, "/tasks/new", []⟩
    | _ => none
  | .edit id =>
    match tab.shown with
    | some (.tasks tasks) =>
      if id ∈ tasks.map (·.id) then some ⟨.GET, formatId "/tasks/edit" (some id), []⟩ else none
    | _ => none
  | .delete id =>
    match tab.shown with
    | some (.tasks tasks) =>
      if id ∈ tasks.map (·.id) then some ⟨.GET, formatId "/tasks/delete" (some id), []⟩ else none
    | _ => none
  | .submit title button =>
    match tab.shown with
    | some (.addTask task) => some ((addTaskForm task).http "/tasks/new" title button)
    | some (.editTask task) =>
      some ((editTaskForm task).http (formatId "/tasks/edit" (some task.id)) title button)
    | _ => none
  | .reload => some tab.last

/-! ## 3. The service -/

/-- The conversion reads an id as it was written. -/
def Conversion.ReadsIds (conversion : Conversion) : Prop :=
  ∀ id, conversion.toLong (longToString id) = some id

namespace RouteLemmas

theorem id_segment (id : Long) : '/' ∉ Decimal.print id.toInt :=
  Decimal.not_mem_print (by decide) (by decide) _

/-- The segments of a path that ends in an id. -/
theorem pathSegments_formatId {url : String} (segments : List (List Char)) (id : Long)
    (hurl : url.toList = Path.join segments)
    (h : ∀ segment, segment ∈ segments → '/' ∉ segment) :
    pathSegments (formatId url (some id)) =
      segments.map String.ofList ++ [longToString id] := by
  have hpath : (formatId url (some id)).toList =
      Path.join (segments ++ [Decimal.print id.toInt]) := by
    show (url ++ "/" ++ longToString id).toList = _
    rw [String.toList_append, String.toList_append, hurl, longToString, String.toList_ofList]
    simp [Path.join]
  have hall : ∀ segment, segment ∈ segments ++ [Decimal.print id.toInt] →
      '/' ∉ segment := by
    intro segment hsegment
    obtain hmem | hmem := List.mem_append.mp hsegment
    · exact h segment hmem
    · rw [List.mem_singleton.mp hmem]
      exact id_segment id
  unfold pathSegments
  rw [hpath, Path.segments_join hall, List.map_append]
  rfl

theorem pathSegments_tasks : pathSegments tasksUrl = ["tasks"] := by decide

theorem pathSegments_task (id : Long) :
    pathSegments (formatId tasksUrl (some id)) = ["tasks", longToString id] :=
  pathSegments_formatId ["tasks".toList] id (by decide) (by decide)

theorem pathSegments_edit (id : Long) :
    pathSegments (formatId "/tasks/edit" (some id)) = ["tasks", "edit", longToString id] :=
  pathSegments_formatId ["tasks".toList, "edit".toList] id (by decide) (by decide)

theorem pathSegments_delete (id : Long) :
    pathSegments (formatId "/tasks/delete" (some id)) = ["tasks", "delete", longToString id] :=
  pathSegments_formatId ["tasks".toList, "delete".toList] id (by decide) (by decide)

end RouteLemmas

open RouteLemmas

/-- What `TasksService` asks for comes to the handler that it is meant for, with the id
and the task that were sent. -/
theorem route_http {conversion : Conversion} (hreads : conversion.ReadsIds) (request : Request)
    (hbound : request.unbound = false) :
    TaskController.route conversion request.http = some request := by
  cases request with
  | getTasks =>
    unfold TaskController.route Request.http
    rw [pathSegments_tasks]
    rfl
  | createBook body =>
    unfold TaskController.route Request.http
    rw [pathSegments_tasks]
    rfl
  | getTask taskId =>
    cases taskId with
    | none => cases hbound
    | some id =>
      unfold TaskController.route Request.http
      rw [pathSegments_task]
      show some (Request.getTask (conversion.toLong (longToString id))) = _
      rw [hreads]
  | deleteTask taskId =>
    cases taskId with
    | none => cases hbound
    | some id =>
      unfold TaskController.route Request.http
      rw [pathSegments_task]
      show some (Request.deleteTask (conversion.toLong (longToString id))) = _
      rw [hreads]

/-- `ClientHttpRequestExecution.execute` of a request that goes by its URL. Where it has
no mapping, the backend answers 404. -/
def sendHttp {σ : Type} (conversion : Conversion) (serve : Request → σ → Response × σ)
    (request : Request) : EStateM Failure σ Response :=
  match TaskController.route conversion request.http with
  | some handled => execute serve handled
  | none => return .errorPage 404

namespace RouteLemmas

/-- The service does by its URLs what it does at the handlers. -/
theorem service_http {σ : Type} {conversion : Conversion} (hreads : conversion.ReadsIds)
    (serve : Request → σ → Response × σ) :
    tasksService (sendHttp conversion serve) = tasksService (execute serve) := by
  have hsend : ∀ request, request.unbound = false →
      exchange (sendHttp conversion serve) request = exchange (execute serve) request := by
    intro request hbound
    unfold exchange sendHttp
    rw [route_http hreads request hbound]
  unfold tasksService
  rw [hsend .getTasks rfl]
  simp only [fun id => hsend (.getTask (some id)) rfl,
    fun json => hsend (.createBook (some json)) rfl,
    fun id => hsend (.deleteTask (some id)) rfl]

end RouteLemmas

/-! ## 4. The browser -/

section Browsing

variable {σ : Type} (service : TasksService σ) (conversion : Conversion)

/-- The page that a request brings up, by its URL. A redirect is followed. -/
def followHttp (request : Http Params) (s : σ) : Tab × σ :=
  match TasksController.route conversion request with
  | none => (⟨request, none⟩, s)
  | some handled =>
    match servePage service conversion handled s with
    | (.redirectTasks, s') =>
      let (view, s'') := servePage service conversion .index s'
      (⟨⟨.GET, "/tasks", []⟩, some view⟩, s'')
    | (view, s') => (⟨request, some view⟩, s')

/-- The browser that goes by the URLs, one action after another. -/
def httpBrowsing : Machine (Tab × σ) Action (Option View) where
  step world action :=
    let next := (world.1.http action).elim world fun request =>
      followHttp service conversion request world.2
    (next.1.shown, next)

/-- The browser that has gone to the list. -/
def openedHttp (s : σ) : Tab × σ := followHttp service conversion ⟨.GET, "/tasks", []⟩ s

/-- The two browsers show the same page over the same store, and the URL of the one is
that of the handler of the other. -/
structure SamePage (world : Tab × σ) (world' : Browser × σ) : Prop where
  last : TasksController.route conversion world.1.last = some world'.1.last
  shown : world.1.shown = some world'.1.shown
  store : world.2 = world'.2

namespace RouteLemmas

variable {conversion}

theorem route_list : TasksController.route conversion ⟨.GET, "/tasks", []⟩ = some .index := by
  unfold TasksController.route
  rw [show pathSegments "/tasks" = ["tasks"] by decide]
  rfl

theorem samePage_follow {backend : Backend σ} (channel : Channel backend)
    {request : Http Params} {handled : PageRequest}
    (h : TasksController.route conversion request = some handled) (s : σ) :
    SamePage conversion (followHttp channel.service conversion request s)
      (follow channel conversion handled s) := by
  unfold followHttp follow
  rw [h]
  dsimp only
  generalize servePage channel.service conversion handled s = response
  obtain ⟨view, s'⟩ := response
  cases view with
  | redirectTasks => exact ⟨route_list, rfl, rfl⟩
  | tasks tasks | addTask task | editTask task | error ex | badRequest => exact ⟨h, rfl, rfl⟩

theorem route_new (method : HttpMethod) (params : Params) :
    TasksController.route conversion ⟨method, "/tasks/new", params⟩ =
      match method with
      | .GET => some (.newTask params)
      | .POST => some (.postNew params)
      | .DELETE => none := by
  unfold TasksController.route
  rw [show pathSegments "/tasks/new" = ["tasks", "new"] by decide]
  cases method with
  | GET | POST | DELETE => rfl

theorem route_edit (hreads : conversion.ReadsIds) (id : Long) :
    TasksController.route conversion ⟨.GET, formatId "/tasks/edit" (some id), []⟩ =
      some (.edit (some id)) := by
  unfold TasksController.route
  rw [pathSegments_edit]
  show some (PageRequest.edit (conversion.toLong (longToString id))) = _
  rw [hreads]

theorem route_postEdit (hreads : conversion.ReadsIds) (id : Long) (params : Params) :
    TasksController.route conversion ⟨.POST, formatId "/tasks/edit" (some id), params⟩ =
      some (.postEdit (some id) params) := by
  unfold TasksController.route
  rw [pathSegments_edit]
  show some (PageRequest.postEdit (conversion.toLong (longToString id)) params) = _
  rw [hreads]

theorem route_delete (hreads : conversion.ReadsIds) (id : Long) :
    TasksController.route conversion ⟨.GET, formatId "/tasks/delete" (some id), []⟩ =
      some (.delete (some id)) := by
  unfold TasksController.route
  rw [pathSegments_delete]
  show some (PageRequest.delete (conversion.toLong (longToString id))) = _
  rw [hreads]

/-- What an action asks for comes to the handler that the browser means. -/
theorem route_action (hreads : conversion.ReadsIds) {world : Tab × σ} {world' : Browser × σ}
    (h : SamePage conversion world world') (action : Action) :
    Option.Rel (fun request handled => TasksController.route conversion request = some handled)
      (world.1.http action) (world'.1.request action) := by
  obtain ⟨⟨last, shown⟩, s⟩ := world
  obtain ⟨⟨last', view⟩, s'⟩ := world'
  obtain ⟨hlast, hshown, -⟩ := h
  change shown = some view at hshown
  subst hshown
  cases action with
  | list => exact .some route_list
  | reload => exact .some hlast
  | new =>
    cases view with
    | tasks tasks => exact .some (route_new .GET [])
    | addTask task | editTask task | redirectTasks | error ex | badRequest => exact .none
  | edit id =>
    cases view with
    | tasks tasks =>
      show Option.Rel _ (if id ∈ tasks.map (·.id) then _ else _)
        (if id ∈ tasks.map (·.id) then _ else _)
      split
      · exact .some (route_edit hreads id)
      · exact .none
    | addTask task | editTask task | redirectTasks | error ex | badRequest => exact .none
  | delete id =>
    cases view with
    | tasks tasks =>
      show Option.Rel _ (if id ∈ tasks.map (·.id) then _ else _)
        (if id ∈ tasks.map (·.id) then _ else _)
      split
      · exact .some (route_delete hreads id)
      · exact .none
    | addTask task | editTask task | redirectTasks | error ex | badRequest => exact .none
  | submit title button =>
    cases view with
    | addTask task => exact .some (route_new .POST _)
    | editTask task => exact .some (route_postEdit hreads task.id _)
    | tasks tasks | redirectTasks | error ex | badRequest => exact .none

theorem run_samePage {backend : Backend σ} (channel : Channel backend)
    (hreads : conversion.ReadsIds) (s : σ) (actions : List Action) :
    SamePage conversion
      ((httpBrowsing channel.service conversion).run (openedHttp channel.service conversion s)
        actions)
      ((browsing channel conversion).run (opened channel conversion s) actions) := by
  refine Machine.run_rel (SamePage conversion) (fun world world' action h => ?_)
    (samePage_follow channel route_list s) actions
  show SamePage conversion
    ((world.1.http action).elim world fun request =>
      followHttp channel.service conversion request world.2)
    ((world'.1.request action).elim world' fun handled =>
      follow channel conversion handled world'.2)
  have haction := route_action hreads h action
  generalize world.1.http action = sent at haction ⊢
  generalize world'.1.request action = meant at haction ⊢
  cases haction with
  | none => exact h
  | some hroute =>
    rw [Option.elim_some, Option.elim_some, ← h.store]
    exact samePage_follow channel hroute world.2

end RouteLemmas

/-- Whatever is clicked, in whatever order: the URLs that the pages and the service ask
for are all mapped, and lead to the pages and the store that the handlers meant by them
lead to, where a `long` is read back from its decimal text. -/
theorem http_browsing (hreads : conversion.ReadsIds) (backend : Backend σ) (s : σ)
    (actions : List Action) :
    let service := tasksService (sendHttp conversion backend.serve)
    let http := (httpBrowsing service conversion).run (openedHttp service conversion s) actions
    let pages := (browsing (directChannel backend) conversion).run
      (opened (directChannel backend) conversion s) actions
    http.1.shown = some pages.1.shown ∧ http.2 = pages.2 := by
  intro service http pages
  have hservice : service = (directChannel backend).service := service_http hreads backend.serve
  have hsame : SamePage conversion http pages := by
    show SamePage conversion ((httpBrowsing service conversion).run
      (openedHttp service conversion s) actions) pages
    rw [hservice]
    exact run_samePage (directChannel backend) hreads s actions
  exact ⟨hsame.shown, hsame.store⟩

end Browsing

/-- Every `long` is read back from the text that is written for it. -/
theorem Conversion.decimal_readsIds : Conversion.decimal.ReadsIds := by
  intro id
  show ((Decimal.parse (String.ofList (Decimal.print id.toInt)).toList).bind _) = _
  rw [String.toList_ofList, Decimal.parse_print]
  show (if Int64.minValue.toInt ≤ id.toInt ∧ id.toInt ≤ Int64.maxValue.toInt then _
    else none : Option Long) = _
  rw [if_pos ⟨Int64.minValue_le_toInt id, Int64.toInt_le id⟩, Int64.ofInt_toInt]

/-- An edit and a deletion in the seeded JPA demo. -/
theorem http_browsing_seeded :
    let actions := [.edit 3, .submit "Call my mom" .save, .delete 1]
    let service := tasksService (sendHttp .decimal jpaBackend.serve)
    let http := (httpBrowsing service .decimal).run (openedHttp service .decimal H2.seeded) actions
    let pages := (browsing (directChannel jpaBackend) .decimal).run
      (opened (directChannel jpaBackend) .decimal H2.seeded) actions
    http.1.shown = some pages.1.shown ∧ http.2 = pages.2 :=
  http_browsing .decimal Conversion.decimal_readsIds jpaBackend H2.seeded _

end SpiffeTasks
