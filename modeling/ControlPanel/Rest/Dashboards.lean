import ControlPanel.Dashboard.Consistency
import ControlPanel.Dashboard.Request
import ControlPanel.Rest.Client

/-!
# Calls about dashboards

What is sent to read and change dashboards and their widgets. Calls that carry positions or
configurations are checked before, and a refused one sends nothing. The calls about many
dashboards or widgets send one request after the other.
-/

namespace ControlPanel

namespace Rest

/-! ## Paths -/

def dashboardsPath : String := "/api/dashboards"

def dashboardPath (id : String) : String := dashboardsPath ++ "/" ++ id

def widgetsPath (dashboard : String) : String := dashboardPath dashboard ++ "/widgets"

def widgetPath (dashboard widget : String) : String := widgetsPath dashboard ++ "/" ++ widget

/-! ## Dashboards -/

def listDashboards : Exchange (List Dashboard) := .get dashboardsPath (.list Dashboard.decoder)

def getDashboard (id : String) : Exchange Dashboard := .get (dashboardPath id) Dashboard.decoder

def refuseEntries (layout : Layout) : Except Refusal Unit :=
  if layout.entries.isEmpty then .ok ()
  else .error (.invalid (.layoutWithoutWidgets (layout.entries.map LayoutEntry.id)))

/-- Creates a dashboard. It has no widgets yet, so its layout must not place any. -/
def createDashboard (input : NewDashboard) : Except Refusal (Exchange Dashboard) := do
  LengthLimit.refuse input.faults
  if let some layout := input.layout then refuseEntries layout
  return .post dashboardsPath input.encode Dashboard.decoder

def updateDashboard (id : String) (input : DashboardChange) :
    Except Refusal (Exchange Dashboard) := do
  LengthLimit.refuse input.faults
  return .put (dashboardPath id) input.encode Dashboard.decoder

def deleteDashboard (id : String) : Exchange Unit := .delete (dashboardPath id)

def duplicateDashboard (id : String) (name : Option String) : Exchange Dashboard :=
  .post (dashboardPath id ++ "/duplicate") (.ofMembers (Json.member? "name" .string name))
    Dashboard.decoder

def saveLayout (d : Dashboard) : Except Refusal (Exchange Dashboard) :=
  if d.issues.isEmpty then
    .ok (.put (dashboardPath d.id ++ "/layout") d.layout.encode Dashboard.decoder)
  else .error (.invalid (.inconsistent d.id d.issues))

/-! ## Widgets -/

def addWidget (d : Dashboard) (input : NewWidget) : Except Refusal (Exchange Widget) := do
  input.check d.layout.grid
  return .post (widgetsPath d.id) input.encode Widget.decoder

def updateWidget (d : Dashboard) (widget : String) (input : WidgetChange) :
    Except Refusal (Exchange Widget) :=
  match d.widget? widget with
  | none => .error (.widgetNotFound widget)
  | some w => do
    input.check w.kind d.layout.grid
    return .put (widgetPath d.id widget) input.encode Widget.decoder

def removeWidget (dashboard widget : String) : Exchange Unit :=
  .delete (widgetPath dashboard widget)

def widgetData (dashboard widget : String) : Exchange Members :=
  .get (widgetPath dashboard widget ++ "/data") .jsonMap

end Rest

namespace ApiClient

variable {σ : Type}

/-- Deletes dashboards in order, up to the first failure. -/
def deleteDashboards (c : ApiClient) (transport : Transport σ) :
    List String → σ → σ × Except ApiError Unit
  | [], s => (s, .ok ())
  | id :: rest, s => match c.send transport (Rest.deleteDashboard id) s with
    | (s, .ok ()) => deleteDashboards c transport rest s
    | (s, .error e) => (s, .error e)

/-- Fetches the data of a widget; if that fails, the widget stays as it is. -/
def fetchWidgetData (c : ApiClient) (transport : Transport σ) (dashboard : String) (w : Widget)
    (s : σ) : σ × Widget × Option ApiError :=
  match c.send transport (Rest.widgetData dashboard w.id) s with
  | (s, .ok data) => (s, { w with data := some data }, none)
  | (s, .error e) => (s, w, some e)

/-- Fetches the data of widgets, one after the other; the failures are listed with the ids. -/
def refreshWidgets (c : ApiClient) (transport : Transport σ) (dashboard : String) :
    List Widget → σ → σ × List Widget × List (String × ApiError)
  | [], s => (s, [], [])
  | w :: rest, s =>
    let (s, w', failure) := c.fetchWidgetData transport dashboard w s
    let (s, rest', failures) := refreshWidgets c transport dashboard rest s
    (s, w' :: rest', failure.toList.map (fun e => (w.id, e)) ++ failures)

def refreshDashboard (c : ApiClient) (transport : Transport σ) (d : Dashboard) (s : σ) :
    σ × Dashboard × List (String × ApiError) :=
  let (s, widgets, failures) := c.refreshWidgets transport d.id d.widgets s
  (s, { d with widgets }, failures)

end ApiClient

end ControlPanel
