import ControlPanel.Proofs.Dashboard.Edit
import ControlPanel.Proofs.Rest.Targets
import ControlPanel.Rest.Dashboards

/-!
# Which calls share a path

The paths of the calls about one dashboard are put together from texts, so a dashboard whose id
holds a slash can stand in the place of another one's layout or widget. `ResourceCall.kept_apart`
tells which calls have one method and one path: calls of one operation on the same dashboard and
widget, and those of which the one swallows the other. Ids that are sent as they stand, and hold
no slash, are kept apart by what arrives at the backend.
-/

namespace ControlPanel

inductive ResourceCall where
  | get (dashboard : String)
  | update (dashboard : String) (input : DashboardChange)
  | delete (dashboard : String)
  | duplicate (dashboard : String) (name : Option String)
  | saveLayout (d : Dashboard)
  | addWidget (d : Dashboard) (input : NewWidget)
  | updateWidget (d : Dashboard) (widget : String) (input : WidgetChange)
  | removeWidget (dashboard widget : String)
  | widgetData (dashboard widget : String)

inductive ResourceCall.Operation where
  | get
  | update
  | delete
  | duplicate
  | saveLayout
  | addWidget
  | updateWidget
  | removeWidget
  | widgetData
  deriving DecidableEq

namespace ResourceCall

namespace Operation

def method : Operation → Method
  | get | widgetData => .get
  | duplicate | addWidget => .post
  | update | saveLayout | updateWidget => .put
  | delete | removeWidget => .delete

def letter? : Operation → Option Char
  | get | update | delete => none
  | duplicate => some 'd'
  | saveLayout => some 'l'
  | addWidget | updateWidget | removeWidget | widgetData => some 'w'

theorem eq_of_letter? {o o' : Operation} (method : o.method = o'.method)
    (letter : o.letter? = o'.letter?) : o = o' := by
  cases o <;> cases o' <;> first | rfl | cases method <;> cases letter

end Operation

def Answer : ResourceCall → Type
  | get .. | update .. | duplicate .. | saveLayout .. => Dashboard
  | addWidget .. | updateWidget .. => Widget
  | delete .. | removeWidget .. => Unit
  | widgetData .. => Members

def exchange : (a : ResourceCall) → Except Refusal (Exchange a.Answer)
  | get id => .ok (Rest.getDashboard id)
  | update id input => Rest.updateDashboard id input
  | delete id => .ok (Rest.deleteDashboard id)
  | duplicate id name => .ok (Rest.duplicateDashboard id name)
  | saveLayout d => Rest.saveLayout d
  | addWidget d input => Rest.addWidget d input
  | updateWidget d widget input => Rest.updateWidget d widget input
  | removeWidget id widget => .ok (Rest.removeWidget id widget)
  | widgetData id widget => .ok (Rest.widgetData id widget)

def operation : ResourceCall → Operation
  | get .. => .get
  | update .. => .update
  | delete .. => .delete
  | duplicate .. => .duplicate
  | saveLayout .. => .saveLayout
  | addWidget .. => .addWidget
  | updateWidget .. => .updateWidget
  | removeWidget .. => .removeWidget
  | widgetData .. => .widgetData

def dashboard : ResourceCall → String
  | get id | update id _ | delete id | duplicate id _ | removeWidget id _ | widgetData id _ => id
  | saveLayout d | addWidget d _ | updateWidget d .. => d.id

def widget? : ResourceCall → Option String
  | updateWidget _ widget _ | removeWidget _ widget | widgetData _ widget => some widget
  | _ => none

def rest : ResourceCall → String
  | get .. | update .. | delete .. => ""
  | duplicate .. => "/duplicate"
  | saveLayout .. => "/layout"
  | addWidget .. => "/widgets"
  | updateWidget _ widget _ | removeWidget _ widget => "/widgets/" ++ widget
  | widgetData _ widget => "/widgets/" ++ widget ++ "/data"

def path (a : ResourceCall) : String := Rest.dashboardPath a.dashboard ++ a.rest

variable {a b : ResourceCall}

theorem widgetPath_eq (dashboard widget : String) :
    Rest.widgetPath dashboard widget = Rest.dashboardPath dashboard ++ ("/widgets/" ++ widget) := by
  have joined : "/widgets" ++ ("/" ++ widget) = "/widgets/" ++ widget := by
    rw [← String.append_assoc]
    rfl
  rw [Rest.widgetPath, Rest.widgetsPath, String.append_assoc, String.append_assoc, joined]

theorem exchange_spec {e : Exchange a.Answer} (accepted : a.exchange = .ok e) :
    e.method = a.operation.method ∧ e.path = a.path := by
  cases a with
  | get | delete =>
    cases accepted
    exact ⟨rfl, String.append_empty.symm⟩
  | duplicate =>
    cases accepted
    exact ⟨rfl, rfl⟩
  | update id input =>
    obtain ⟨_, _, rest⟩ := bind_eq_ok_iff.mp accepted
    cases rest
    exact ⟨rfl, String.append_empty.symm⟩
  | saveLayout d =>
    change Rest.saveLayout d = .ok e at accepted
    unfold Rest.saveLayout at accepted
    split at accepted
    · cases accepted
      exact ⟨rfl, rfl⟩
    · cases accepted
  | addWidget d input =>
    obtain ⟨_, _, rest⟩ := bind_eq_ok_iff.mp accepted
    cases rest
    exact ⟨rfl, rfl⟩
  | updateWidget d widget input =>
    change Rest.updateWidget d widget input = .ok e at accepted
    unfold Rest.updateWidget at accepted
    split at accepted
    · cases accepted
    · obtain ⟨_, _, rest⟩ := bind_eq_ok_iff.mp accepted
      cases rest
      exact ⟨rfl, widgetPath_eq d.id widget⟩
  | removeWidget id widget =>
    cases accepted
    exact ⟨rfl, widgetPath_eq id widget⟩
  | widgetData id widget =>
    cases accepted
    refine ⟨rfl, ?_⟩
    change Rest.widgetPath id widget ++ "/data" = _
    rw [widgetPath_eq, String.append_assoc]
    rfl

/-! ## Equal paths -/

theorem rest_letter? (a : ResourceCall) : a.rest.toList[1]? = a.operation.letter? := by
  cases a <;> simp [rest, operation, Operation.letter?]

structure Alike (a b : ResourceCall) : Prop where
  operation : a.operation = b.operation
  dashboard : a.dashboard = b.dashboard
  widget : a.widget? = b.widget?

/-- The dashboard of the second call is the first one's with the beginning of what follows it. -/
structure Swallows (a b : ResourceCall) (more : String) : Prop where
  method : a.operation.method = b.operation.method
  nonempty : more ≠ ""
  dashboard : b.dashboard = a.dashboard ++ more
  rest : a.rest = more ++ b.rest

theorem alike_of_rest (method : a.operation.method = b.operation.method)
    (dashboard : a.dashboard = b.dashboard) (rest : a.rest = b.rest) : Alike a b := by
  have operation : a.operation = b.operation := by
    refine Operation.eq_of_letter? method ?_
    rw [← rest_letter?, ← rest_letter?, rest]
  refine ⟨operation, dashboard, ?_⟩
  cases a <;> cases b <;> first | rfl | cases operation
  · exact congrArg some ((String.append_right_inj _).mp rest)
  · exact congrArg some ((String.append_right_inj _).mp rest)
  · exact congrArg some ((String.append_right_inj _).mp ((String.append_left_inj _).mp rest))

theorem Alike.rest (alike : Alike a b) : a.rest = b.rest := by
  obtain ⟨operation, -, widget⟩ := alike
  cases a <;> cases b <;> first | rfl | cases operation
  · exact congrArg ("/widgets/" ++ ·) (Option.some.inj widget)
  · exact congrArg ("/widgets/" ++ ·) (Option.some.inj widget)
  · exact congrArg ("/widgets/" ++ · ++ "/data") (Option.some.inj widget)

theorem path_eq_path_iff : a.path = b.path ↔ a.dashboard ++ a.rest = b.dashboard ++ b.rest := by
  simp only [path, Rest.dashboardPath, String.append_assoc, String.append_right_inj]

theorem append_eq_append_iff {s t s' t' : String} : s ++ t = s' ++ t' ↔
    (∃ more, s' = s ++ more ∧ t = more ++ t') ∨ ∃ more, s = s' ++ more ∧ t' = more ++ t := by
  have text {u v x y : String} : (∃ cs, u.toList = v.toList ++ cs ∧ x.toList = cs ++ y.toList) ↔
      ∃ more, u = v ++ more ∧ x = more ++ y := by
    constructor
    · rintro ⟨cs, left, right⟩
      refine ⟨String.ofList cs, String.toList_inj.mp ?_, String.toList_inj.mp ?_⟩
      · rw [left, String.toList_append, String.toList_ofList]
      · rw [right, String.toList_append, String.toList_ofList]
    · rintro ⟨more, rfl, rfl⟩
      exact ⟨more.toList, String.toList_append, String.toList_append⟩
  rw [← text, ← text, ← List.append_eq_append_iff, ← String.toList_append, ← String.toList_append,
    String.toList_inj]

/-- Two calls have one method and one path if they are alike or one swallows the other. -/
theorem same_path_iff : a.operation.method = b.operation.method ∧ a.path = b.path ↔
    Alike a b ∨ (∃ more, Swallows a b more) ∨ ∃ more, Swallows b a more := by
  rw [path_eq_path_iff, append_eq_append_iff]
  constructor
  · rintro ⟨method, ⟨more, dashboard, rest⟩ | ⟨more, dashboard, rest⟩⟩
    · by_cases empty : more = ""
      · subst empty
        rw [String.append_empty] at dashboard
        rw [String.empty_append] at rest
        exact .inl (alike_of_rest method dashboard.symm rest)
      · exact .inr (.inl ⟨more, method, empty, dashboard, rest⟩)
    · by_cases empty : more = ""
      · subst empty
        rw [String.append_empty] at dashboard
        rw [String.empty_append] at rest
        exact .inl (alike_of_rest method dashboard rest.symm)
      · exact .inr (.inr ⟨more, method.symm, empty, dashboard, rest⟩)
  · rintro (alike | ⟨more, swallows⟩ | ⟨more, swallows⟩)
    · refine ⟨congrArg Operation.method alike.operation, .inl ⟨"", ?_, ?_⟩⟩
      · rw [alike.dashboard, String.append_empty]
      · rw [alike.rest, String.empty_append]
    · exact ⟨swallows.method, .inl ⟨more, swallows.dashboard, swallows.rest⟩⟩
    · exact ⟨swallows.method.symm, .inr ⟨more, swallows.dashboard, swallows.rest⟩⟩

/-- Only the layout and the widgets of a dashboard have paths that another dashboard can have. -/
theorem Swallows.operation {more : String} (swallows : Swallows a b more) :
    a.operation ∈ [.saveLayout, .updateWidget, .removeWidget, .widgetData] := by
  obtain ⟨method, nonempty, -, rest⟩ := swallows
  have different (same : b.rest = a.rest) : False := by
    rw [same] at rest
    exact nonempty ((String.append_left_inj a.rest).mp (rest.symm.trans String.empty_append.symm))
  have last := congrArg (·.toList.getLast?) rest
  cases a with
  | saveLayout | updateWidget | removeWidget | widgetData => simp [ResourceCall.operation]
  | get | update | delete => exact absurd (String.append_eq_empty_iff.mp rest.symm).1 nonempty
  | duplicate | addWidget =>
    cases b with
    | duplicate | addWidget =>
      first | exact (different rfl).elim | simp [ResourceCall.rest] at last
    | _ => cases method

theorem rest_head? (a : ResourceCall) : ∀ c ∈ a.rest.toList.head?, c = '/' := by
  cases a <;> simp [rest]

theorem Swallows.slash {more : String} (swallows : Swallows a b more) :
    '/' ∈ b.dashboard.toList := by
  obtain ⟨-, nonempty, dashboard, rest⟩ := swallows
  cases text : more.toList with
  | nil => exact absurd (String.toList_eq_nil_iff.mp text) nonempty
  | cons c cs =>
    have slash : c = '/' := a.rest_head? c (by rw [rest, String.toList_append, text]; rfl)
    rw [dashboard, String.toList_append, text, slash]
    simp

/-! ## What arrives -/

/-- The ids of the call are sent as they stand. -/
structure IsPlain (a : ResourceCall) : Prop where
  dashboard : Address.IsSegment a.dashboard
  widget : ∀ widget ∈ a.widget?, Address.IsSegment widget

def parts (a : ResourceCall) : List String :=
  "api" :: "dashboards" :: a.dashboard :: match a with
    | get .. | update .. | delete .. => []
    | duplicate .. => ["duplicate"]
    | saveLayout .. => ["layout"]
    | addWidget .. => ["widgets"]
    | updateWidget _ widget _ | removeWidget _ widget => ["widgets", widget]
    | widgetData _ widget => ["widgets", widget, "data"]

theorem parts_ne_nil (a : ResourceCall) : a.parts ≠ [] := List.cons_ne_nil _ _

theorem path_eq_pathOf (a : ResourceCall) : a.path = Address.pathOf a.parts := by
  apply String.toList_inj.mp
  cases a <;> simp [path, rest, parts, Rest.dashboardPath, Rest.dashboardsPath, Address.pathOf,
    String.intercalate_cons_cons]

theorem isSegment_fixed : ∀ part ∈ ["api", "dashboards", "duplicate", "layout", "widgets", "data"],
    Address.IsSegment part := by
  have fixed : ∀ part ∈ ["api", "dashboards", "duplicate", "layout", "widgets", "data"],
      (∀ c ∈ part.toList, Address.isPlain c = true) ∧
        Address.dots? part.toList ≠ some 1 ∧ Address.dots? part.toList ≠ some 2 := by
    simp [Address.isPlain, Address.dots?, Address.isSlash, Address.pathSpecials]
  intro part listed
  obtain ⟨plain, here, up⟩ := fixed part listed
  exact ⟨plain, here, up⟩

theorem IsPlain.parts (plain : IsPlain a) : ∀ part ∈ a.parts, Address.IsSegment part := by
  have fixed := isSegment_fixed
  obtain ⟨dashboard, widget⟩ := plain
  cases a <;> simp_all [ResourceCall.parts, ResourceCall.dashboard, widget?]

theorem request?_spec {α : Type} {c : ApiClient} {e : Exchange α} {r : HttpRequest}
    (made : c.request? e = some r) :
    r.method = e.method ∧ Address.ofText? (c.base ++ e.path) = some r.address := by
  simp only [ApiClient.request?, Option.bind_eq_bind, Option.bind_eq_some_iff] at made
  obtain ⟨address, read, authorization, _, same⟩ := made
  cases same
  exact ⟨rfl, read⟩

theorem path_eq_of_target {c : ApiClient} {e : Exchange a.Answer} {e' : Exchange b.Answer}
    {r r' : HttpRequest} (usable : Address.IsBase c.base) (plain : IsPlain a) (plain' : IsPlain b)
    (path : e.path = a.path) (path' : e'.path = b.path) (made : c.request? e = some r)
    (made' : c.request? e' = some r') (targets : r.address.target = r'.address.target) :
    a.path = b.path := by
  obtain ⟨authority, stem, stands⟩ := Address.ofText?_path usable
  have read := (request?_spec made).2
  have read' := (request?_spec made').2
  rw [path, path_eq_pathOf, stands _ a.parts_ne_nil plain.parts] at read
  rw [path', path_eq_pathOf, stands _ b.parts_ne_nil plain'.parts] at read'
  rw [← Option.some.inj read, ← Option.some.inj read'] at targets
  rw [path_eq_pathOf, path_eq_pathOf]
  exact (String.append_right_inj stem).mp targets

theorem IsPlain.not_swallows {more : String} (plain : IsPlain b) : ¬ Swallows a b more :=
  fun swallows => absurd (plain.dashboard.not_slash swallows.slash) (by decide)

theorem kept_apart {e : Exchange a.Answer} {e' : Exchange b.Answer} (accepted : a.exchange = .ok e)
    (accepted' : b.exchange = .ok e') :
    (e.method = e'.method ∧ e.path = e'.path ↔
      Alike a b ∨ (∃ more, Swallows a b more) ∨ ∃ more, Swallows b a more) ∧
    (∀ {x y : ResourceCall} {more : String}, Swallows x y more →
      x.operation ∈ [.saveLayout, .updateWidget, .removeWidget, .widgetData] ∧
        '/' ∈ y.dashboard.toList) ∧
    ∀ {c : ApiClient} {r r' : HttpRequest}, Address.IsBase c.base → IsPlain a → IsPlain b →
      c.request? e = some r → c.request? e' = some r' →
      r.method = r'.method → r.address.target = r'.address.target → Alike a b := by
  obtain ⟨method, path⟩ := exchange_spec accepted
  obtain ⟨method', path'⟩ := exchange_spec accepted'
  refine ⟨?_, fun swallows => ⟨swallows.operation, swallows.slash⟩, ?_⟩
  · rw [method, method', path, path']
    exact same_path_iff
  · intro c r r' usable plain plain' made made' methods targets
    rw [(request?_spec made).1, (request?_spec made').1, method, method'] at methods
    have paths := path_eq_of_target usable plain plain' path path' made made' targets
    rcases same_path_iff.mp ⟨methods, paths⟩ with alike | ⟨more, swallows⟩ | ⟨more, swallows⟩
    · exact alike
    · exact absurd swallows plain'.not_swallows
    · exact absurd swallows plain.not_swallows

theorem kept_apart_first_dashboard :
    let whole := Rest.deleteDashboard "d1/widgets/w1"
    let part := Rest.removeWidget "d1" "w1"
    (part.method = whole.method ∧ part.path = whole.path) ∧ '/' ∈ "d1/widgets/w1".toList ∧
      Alike (.duplicate "d1" none) (.duplicate "d1" (some "Copy")) := by
  intro whole part
  have swallows : Swallows (.removeWidget "d1" "w1") (.delete "d1/widgets/w1") "/widgets/w1" :=
    ⟨rfl, by decide, rfl, rfl⟩
  let c := ApiClient.ofBase "http://localhost:8000"
  have base : c.base = "http://localhost:8000" := by decide +kernel
  have usable : Address.IsBase c.base := by
    rw [base]
    refine ⟨Option.isSome_iff_exists.mp (by decide +kernel), ?_⟩
    simp [Address.isEdge]
  have id : Address.IsSegment "d1" := by
    constructor <;> simp [Address.isPlain, Address.dots?, Address.isSlash, Address.pathSpecials]
  have plain (name : Option String) : IsPlain (.duplicate "d1" name) :=
    ⟨id, fun _ none => by cases none⟩
  obtain ⟨r, made⟩ := Option.isSome_iff_exists.mp
    (show (c.request? (Rest.duplicateDashboard "d1" none)).isSome = true by decide +kernel)
  obtain ⟨r', made'⟩ := Option.isSome_iff_exists.mp
    (show (c.request? (Rest.duplicateDashboard "d1" (some "Copy"))).isSome = true by
      decide +kernel)
  have address : some r.address = some r'.address :=
    (request?_spec made).2.symm.trans (request?_spec made').2
  obtain ⟨same, alone, -⟩ := kept_apart (a := .removeWidget "d1" "w1")
    (b := .delete "d1/widgets/w1") rfl rfl
  obtain ⟨-, -, arrives⟩ := kept_apart (a := .duplicate "d1" none)
    (b := .duplicate "d1" (some "Copy")) rfl rfl
  refine ⟨same.mpr (.inr (.inl ⟨_, swallows⟩)), (alone swallows).2, ?_⟩
  exact arrives usable (plain none) (plain (some "Copy")) made made'
    ((request?_spec made).1.trans (request?_spec made').1.symm)
    (congrArg Address.target (Option.some.inj address))

/-- A dashboard with a widget of another one for its id. -/
theorem not_kept_apart : ¬ ∀ (c : ApiClient) (a b : ResourceCall) (e : Exchange a.Answer)
    (e' : Exchange b.Answer) (r r' : HttpRequest), a.exchange = .ok e → b.exchange = .ok e' →
    c.request? e = some r → c.request? e' = some r' → e.method = e'.method → e.path = e'.path →
    r.method = r'.method → r.address.target = r'.address.target → Alike a b := by
  intro apart
  obtain ⟨r, made⟩ := Option.isSome_iff_exists.mp
    (show ((ApiClient.ofBase "http://localhost:8000").request?
      (Rest.deleteDashboard "d1/widgets/w1")).isSome = true by decide +kernel)
  have alike := apart (ApiClient.ofBase "http://localhost:8000") (.delete "d1/widgets/w1")
    (.removeWidget "d1" "w1") _ _ r r rfl rfl made made rfl rfl rfl rfl
  cases alike.operation

end ResourceCall

end ControlPanel
