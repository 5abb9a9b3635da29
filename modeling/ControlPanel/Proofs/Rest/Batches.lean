import Mathlib.Data.List.Forall2
import ControlPanel.Proofs.Rest.Bases
import ControlPanel.Rest.Dashboards

/-!
# Batches of calls

What is sent when calls are made one after the other, as a transport that keeps a record of it sees
it (`Transport.recording`), and what becomes of it. Deleting dashboards sends up to the first
failure and no further, refreshing a dashboard sends for every widget whatever fails
(`ApiClient.batches_sent`).
-/

namespace ControlPanel

/-! ## Carrying requests -/

namespace Transport

variable {σ : Type}

def recording (transport : Transport σ) : Transport (σ × List HttpRequest) := fun request s =>
  let (after, answer) := transport request s.1
  ((after, s.2 ++ [request]), answer)

def carry (transport : Transport σ) : List HttpRequest → σ → σ × List (Option Response)
  | [], s => (s, [])
  | request :: rest, s =>
    let (s, answer) := transport request s
    let (s, answers) := carry transport rest s
    (s, answer :: answers)

end Transport

def ApiError.orRead {α : Type} (read : Response → Except ApiError α) :
    Option Response → Except ApiError α
  | none => .error (.request .sending none)
  | some response => read response

namespace Widget

def refreshed (w : Widget) : Except ApiError Members → Widget
  | .ok data => { w with data := some data }
  | .error _ => w

def failure? (w : Widget) : Except ApiError Members → Option (String × ApiError)
  | .ok _ => none
  | .error e => some (w.id, e)

end Widget

namespace Rest

theorem path_widgetData (dashboard widget : String) : (widgetData dashboard widget).path =
    "/api/dashboards/" ++ dashboard ++ "/widgets/" ++ widget ++ "/data" := by
  apply String.toList_inj.mp
  simp [widgetData, Exchange.get, widgetPath, widgetsPath, dashboardPath, dashboardsPath]

theorem dashboards_under (path : String) :
    "/api/dashboards/" ++ path = "/api/" ++ ("dashboards/" ++ path) := by
  rw [← String.append_assoc]
  rfl

theorem deleteDashboard_under (id : String) : ∃ path, (deleteDashboard id).path = "/api/" ++ path :=
  ⟨_, dashboards_under id⟩

theorem widgetData_under (dashboard widget : String) :
    ∃ path, (widgetData dashboard widget).path = "/api/" ++ path := by
  simp only [path_widgetData, String.append_assoc]
  exact ⟨_, dashboards_under _⟩

end Rest

namespace ApiClient

variable {σ α : Type} (c : ApiClient) (transport : Transport σ)

def canSend : Bool := (Address.ofText? (c.base ++ "/api/")).isSome && c.authorization?.isSome

/-- The client's request with a method for a path under its base, without a body. -/
structure Makes (method : Method) (path : String) (request : HttpRequest) : Prop where
  method : request.method = method
  address : Address.ofText? (c.base ++ path) = some request.address
  authorization : c.authorization? = some request.authorization
  body : request.body = none

variable {c}

theorem exists_request (able : c.canSend = true) {e : Exchange α}
    (under : ∃ path, e.path = "/api/" ++ path) (bare : e.body = none) :
    ∃ request, c.request? e = some request ∧ c.Makes e.method e.path request := by
  obtain ⟨path, under⟩ := under
  obtain ⟨based, shown⟩ := Bool.and_eq_true_iff.mp able
  have reads := Address.ofText?_isSome c.base path ""
  rw [String.append_empty, based, ← under] at reads
  obtain ⟨address, read⟩ := Option.isSome_iff_exists.mp reads
  obtain ⟨authorization, shown⟩ := Option.isSome_iff_exists.mp shown
  exact ⟨⟨e.method, address, authorization, e.body⟩, by simp [request?, read, shown],
    rfl, read, shown, bare⟩

theorem request?_eq_none (unable : c.canSend = false) {e : Exchange α}
    (under : ∃ path, e.path = "/api/" ++ path) : c.request? e = none := by
  obtain ⟨path, under⟩ := under
  have reads := Address.ofText?_isSome c.base path ""
  rw [String.append_empty, ← under] at reads
  cases read : Address.ofText? (c.base ++ e.path) with
  | none => simp [request?, read]
  | some address =>
    rw [read] at reads
    rw [canSend, ← reads, Option.isSome_some, Bool.true_and] at unable
    simp [request?, read, Option.isNone_iff_eq_none.mp (Option.isSome_eq_false_iff.mp unable)]

theorem exists_send_recording (able : c.canSend = true) {e : Exchange α}
    (under : ∃ path, e.path = "/api/" ++ path) (bare : e.body = none) :
    ∃ request, c.Makes e.method e.path request ∧ ∀ s log,
      c.send transport.recording e (s, log) =
        (((transport request s).1, log ++ [request]),
          ApiError.orRead e.read (transport request s).2) := by
  obtain ⟨request, built, makes⟩ := exists_request able under bare
  refine ⟨request, makes, fun s log => ?_⟩
  cases answered : transport request s with
  | mk after answer =>
    cases answer <;> simp [send, built, answered, Transport.recording, ApiError.orRead]

theorem send_of_unable (unable : c.canSend = false) {e : Exchange α}
    (under : ∃ path, e.path = "/api/" ++ path) (s : σ) :
    c.send transport e s = (s, .error (.request .building none)) := by
  simp only [send, request?_eq_none unable under]

/-! ## Deleting -/

/-- The deletions that are made, the requests sent for them and the answers, and how it ends: all
succeed, or the last one that is made fails. -/
theorem deleteDashboards_sends (able : c.canSend = true) (ids : List String) (s : σ)
    (log : List HttpRequest) : ∃ made sent after answers,
    List.Forall₂ (fun id => c.Makes .delete ("/api/dashboards/" ++ id)) made sent ∧
    transport.carry sent s = (after, answers) ∧
    (made = ids ∧ answers.map (ApiError.orRead Response.verdict) = ids.map (fun _ => .ok ()) ∧
        c.deleteDashboards transport.recording ids (s, log) = ((after, log ++ sent), .ok ()) ∨
      ∃ done id rest fault, made = done ++ [id] ∧ ids = made ++ rest ∧
        answers.map (ApiError.orRead Response.verdict) =
          done.map (fun _ => .ok ()) ++ [.error fault] ∧
        c.deleteDashboards transport.recording ids (s, log) =
          ((after, log ++ sent), .error fault)) := by
  induction ids generalizing s log with
  | nil => exact ⟨[], [], s, [], .nil, rfl, .inl ⟨rfl, rfl, by simp [deleteDashboards]⟩⟩
  | cons id rest ih =>
    obtain ⟨request, makes, sends⟩ := exists_send_recording transport able
      (Rest.deleteDashboard_under id) rfl
    have first := sends s log
    change _ = (_, ApiError.orRead Response.verdict _) at first
    cases outcome : ApiError.orRead Response.verdict (transport request s).2 with
    | error fault =>
      rw [outcome] at first
      refine ⟨[id], [request], _, [(transport request s).2], .cons makes .nil, rfl, .inr ?_⟩
      refine ⟨[], id, rest, fault, rfl, rfl, ?_, ?_⟩
      · rw [List.map_singleton, outcome]
        rfl
      · rw [deleteDashboards, first]
    | ok value =>
      cases value
      rw [outcome] at first
      have next : c.deleteDashboards transport.recording (id :: rest) (s, log) =
          c.deleteDashboards transport.recording rest
            ((transport request s).1, log ++ [request]) := by
        rw [deleteDashboards, first]
      obtain ⟨made, sent, after, answers, each, carried, ends⟩ :=
        ih (transport request s).1 (log ++ [request])
      rw [List.append_assoc, List.singleton_append, ← next] at ends
      refine ⟨id :: made, request :: sent, after, (transport request s).2 :: answers,
        .cons makes each, ?_, ?_⟩
      · simp only [Transport.carry, carried]
      · rw [List.map_cons, outcome]
        rcases ends with ⟨rfl, all, ends⟩ | ⟨done, last, later, fault, rfl, rfl, all, ends⟩
        · exact .inl ⟨rfl, congrArg (_ :: ·) all, ends⟩
        · exact .inr ⟨id :: done, last, later, fault, rfl, rfl, congrArg (_ :: ·) all, ends⟩

/-! ## Refreshing -/

/-- A call is made for every widget, and the outcome of each is all that matters for it. -/
theorem refreshWidgets_sends (able : c.canSend = true) (dashboard : String) (ws : List Widget)
    (s : σ) (log : List HttpRequest) : ∃ sent after answers outcomes,
    List.Forall₂ (fun w => c.Makes .get
      ("/api/dashboards/" ++ dashboard ++ "/widgets/" ++ w.id ++ "/data")) ws sent ∧
    transport.carry sent s = (after, answers) ∧
    outcomes = answers.map (ApiError.orRead (Response.payload .jsonMap)) ∧
    c.refreshWidgets transport.recording dashboard ws (s, log) =
      ((after, log ++ sent), List.zipWith Widget.refreshed ws outcomes,
        (List.zipWith Widget.failure? ws outcomes).filterMap id) := by
  induction ws generalizing s log with
  | nil => exact ⟨[], s, [], [], .nil, rfl, rfl, by simp [refreshWidgets]⟩
  | cons w rest ih =>
    obtain ⟨request, makes, sends⟩ := exists_send_recording transport able
      (Rest.widgetData_under dashboard w.id) rfl
    rw [Rest.path_widgetData] at makes
    have first := sends s log
    change _ = (_, ApiError.orRead (Response.payload .jsonMap) _) at first
    obtain ⟨sent, after, answers, outcomes, each, carried, rfl, ends⟩ :=
      ih (transport request s).1 (log ++ [request])
    refine ⟨request :: sent, after, (transport request s).2 :: answers, _, .cons makes each, ?_,
      rfl, ?_⟩
    · simp only [Transport.carry, carried]
    · rw [refreshWidgets, fetchWidgetData, first, List.map_cons]
      cases ApiError.orRead (Response.payload .jsonMap) (transport request s).2 <;>
        simp [ends, Widget.refreshed, Widget.failure?]

theorem refreshWidgets_of_unable (unable : c.canSend = false) (dashboard : String)
    (ws : List Widget) (s : σ) : c.refreshWidgets transport dashboard ws s =
      (s, ws, ws.map fun w => (w.id, .request .building none)) := by
  induction ws with
  | nil => rfl
  | cons w rest ih =>
    have unsent := send_of_unable transport unable (Rest.widgetData_under dashboard w.id) s
    simp only [refreshWidgets, fetchWidgetData, unsent, ih, List.map_cons, Option.toList_some,
      List.map_nil, List.singleton_append]

variable (c)

/-- Deleting sends a request for each dashboard up to the first for which it fails, and answers with
that failure. Refreshing sends a request for each widget, gives data to those for which it succeeds,
and answers with the failures of the others. A client that can send nothing fails each time. -/
theorem batches_sent (s : σ) (log : List HttpRequest) :
    (c.canSend = true →
      (∀ ids : List String, ∃ made sent after answers,
        List.Forall₂ (fun id => c.Makes .delete ("/api/dashboards/" ++ id)) made sent ∧
        transport.carry sent s = (after, answers) ∧
        (made = ids ∧ answers.map (ApiError.orRead Response.verdict) = ids.map (fun _ => .ok ()) ∧
            c.deleteDashboards transport.recording ids (s, log) = ((after, log ++ sent), .ok ()) ∨
          ∃ done id rest fault, made = done ++ [id] ∧ ids = made ++ rest ∧
            answers.map (ApiError.orRead Response.verdict) =
              done.map (fun _ => .ok ()) ++ [.error fault] ∧
            c.deleteDashboards transport.recording ids (s, log) =
              ((after, log ++ sent), .error fault))) ∧
      ∀ d : Dashboard, ∃ sent after answers outcomes,
        List.Forall₂ (fun w => c.Makes .get
          ("/api/dashboards/" ++ d.id ++ "/widgets/" ++ w.id ++ "/data")) d.widgets sent ∧
        transport.carry sent s = (after, answers) ∧
        outcomes = answers.map (ApiError.orRead (Response.payload .jsonMap)) ∧
        c.refreshDashboard transport.recording d (s, log) =
          ((after, log ++ sent),
            { d with widgets := List.zipWith Widget.refreshed d.widgets outcomes },
            (List.zipWith Widget.failure? d.widgets outcomes).filterMap id)) ∧
    (c.canSend = false →
      (∀ ids : List String, c.deleteDashboards transport.recording ids (s, log) =
        ((s, log), if ids = [] then .ok () else .error (.request .building none))) ∧
      ∀ d : Dashboard, c.refreshDashboard transport.recording d (s, log) =
        ((s, log), d, d.widgets.map fun w => (w.id, .request .building none))) := by
  refine ⟨fun able => ⟨fun ids => deleteDashboards_sends transport able ids s log, fun d => ?_⟩,
    fun unable => ⟨fun ids => ?_, fun d => ?_⟩⟩
  · obtain ⟨sent, after, answers, outcomes, each, carried, same, ends⟩ :=
      refreshWidgets_sends transport able d.id d.widgets s log
    exact ⟨sent, after, answers, outcomes, each, carried, same, by rw [refreshDashboard, ends]⟩
  · cases ids with
    | nil => rfl
    | cons id rest =>
      rw [deleteDashboards, send_of_unable _ unable (Rest.deleteDashboard_under id)]
      rfl
  · rw [refreshDashboard, refreshWidgets_of_unable _ unable]

def loopback : ApiClient := .ofBase "http://localhost:8000"

def prepared : Transport (List (Option Response)) := fun _ answers =>
  (answers.tail, answers.headD none)

def shown (request : HttpRequest) : Method × String := (request.method, request.address.target)

def pair : Dashboard where
  id := "d"
  name := "Pair"
  description := none
  owner := "owner"
  widgets := [.ofKind "v" .text "" ⟨0, 0, 1, 1⟩, .ofKind "w" .text "" ⟨1, 0, 1, 1⟩]
  layout := ⟨.default, .auto, []⟩
  isPublic := false
  createdAt := ⟨0, 0⟩
  updatedAt := ⟨0, 0⟩

/-- The second of three deletions is refused, and the first of two widgets gets no answer. -/
theorem batches_sent_midway :
    let answers := [some ⟨204, "", .whole []⟩, some ⟨404, "", .whole []⟩, some ⟨204, "", .whole []⟩]
    let data : Response := ⟨200, "", .whole ("\x7b\"data\":\x7b\x7d\x7d".toUTF8.toList)⟩
    loopback.canSend = true ∧
      (∃ after sent fault,
        loopback.deleteDashboards prepared.recording ["a", "b", "c"] (answers, []) =
          ((after, sent), .error fault) ∧
        sent.map shown = [(.delete, "/api/dashboards/a"), (.delete, "/api/dashboards/b")]) ∧
      ∃ after sent ws failures,
        loopback.refreshDashboard prepared.recording pair ([none, some data], []) =
          ((after, sent), { pair with widgets := ws }, failures) ∧
        sent.map shown = [(.get, "/api/dashboards/d/widgets/v/data"),
          (.get, "/api/dashboards/d/widgets/w/data")] ∧
        ws.map (·.data.isSome) = [false, true] ∧ failures.map Prod.fst = ["v"] := by
  intro answers data
  have able : loopback.canSend = true := by decide +kernel
  refine ⟨able, ?deleted, ?refreshed⟩
  case deleted =>
    obtain ⟨deletes, _⟩ := (batches_sent loopback prepared answers []).1 able
    have known :
        let ended := loopback.deleteDashboards prepared.recording ["a", "b", "c"] (answers, [])
        ended.2.isOk = false ∧
          ended.1.2.map shown =
            [(.delete, "/api/dashboards/a"), (.delete, "/api/dashboards/b")] := by
      decide +kernel
    obtain ⟨_, sent, after, _, _, _, ends⟩ := deletes ["a", "b", "c"]
    rcases ends with ⟨_, _, ends⟩ | ⟨_, _, _, fault, _, _, _, ends⟩
    · rw [ends] at known
      cases known.1
    · rw [ends] at known
      exact ⟨after, sent, fault, ends, known.2⟩
  case refreshed =>
    have known :
        let ended := loopback.refreshDashboard prepared.recording pair ([none, some data], [])
        ended.1.2.map shown = [(.get, "/api/dashboards/d/widgets/v/data"),
            (.get, "/api/dashboards/d/widgets/w/data")] ∧
          ended.2.1.widgets.map (·.data.isSome) = [false, true] ∧
          ended.2.2.map Prod.fst = ["v"] := by decide +kernel
    obtain ⟨_, refreshes⟩ := (batches_sent loopback prepared [none, some data] []).1 able
    obtain ⟨sent, after, _, outcomes, _, _, _, ends⟩ := refreshes pair
    rw [ends] at known
    exact ⟨after, sent, _, _, ends, known⟩

end ApiClient

end ControlPanel
