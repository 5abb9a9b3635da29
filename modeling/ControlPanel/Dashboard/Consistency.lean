import ControlPanel.Dashboard.Basic

/-!
# Consistency of a dashboard

`Dashboard.issues` lists every way in which the widgets and the layout of a dashboard disagree:
first those of the widgets, in their order, then the layout entries that belong to no widget.
`Dashboard.syncLayout` rebuilds the layout from the widgets.
-/

namespace ControlPanel

namespace Dashboard

def entryIssues (l : Layout) (w : Widget) : List LayoutIssue :=
  match l.entry? w.id with
  | none => [.missingLayoutEntry w.id]
  | some entry => if entry.position = w.position then [] else [.positionMismatch w.id]

def widgetIssues (l : Layout) (w : Widget) : List LayoutIssue :=
  entryIssues l w ++ if l.grid.fits w.position then [] else [.outOfBounds w.id]

/-- What is wrong with some widgets, where the ids met before are repeated ones. -/
def widgetsIssues (l : Layout) (seen : List String) : List Widget → List LayoutIssue
  | [] => []
  | w :: rest =>
    if w.id ∈ seen then .duplicateWidget w.id :: widgetsIssues l seen rest
    else widgetIssues l w ++ widgetsIssues l (w.id :: seen) rest

def orphanIssues (d : Dashboard) : List LayoutIssue :=
  (d.layout.entries.filter fun entry => (d.widget? entry.id).isNone).map fun entry =>
    .orphanLayoutEntry entry.id

def issues (d : Dashboard) : List LayoutIssue :=
  widgetsIssues d.layout [] d.widgets ++ d.orphanIssues

/-- The layout entries of the widgets, in their order, and no others. -/
def syncLayout (d : Dashboard) : Dashboard :=
  { d with layout := { d.layout with entries := d.widgets.map LayoutEntry.ofWidget } }

end Dashboard

end ControlPanel
