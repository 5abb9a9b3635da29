import ControlPanel.Dashboard.Basic
import ControlPanel.Widget.Config

/-!
# Editing a dashboard

Adding, moving, configuring and removing widgets. An edit that is refused gives no dashboard, so
nothing is changed by it; one that succeeds keeps the widgets and the layout in step. Where an id
is repeated, the first widget and the first entry with it are meant.
-/

namespace ControlPanel

namespace Dashboard

def modifyFirst {α : Type} (p : α → Bool) (f : α → α) : List α → List α
  | [] => []
  | a :: rest => if p a then f a :: rest else a :: modifyFirst p f rest

def requireWidget (d : Dashboard) (id : String) : Except Refusal Widget :=
  match d.widget? id with
  | some w => .ok w
  | none => .error (.widgetNotFound id)

def addWidget (d : Dashboard) (w : Widget) : Except Refusal Dashboard := do
  if (d.widget? w.id).isSome then .error (.widgetExists w.id d.id)
  d.layout.grid.validate w.position
  w.kind.validateConfig w.config
  return { d with
    widgets := d.widgets ++ [w]
    layout := { d.layout with entries := d.layout.entries ++ [.ofWidget w] } }

/-- Sets the position of the entry with an id, or appends one. -/
def setEntry (entries : List LayoutEntry) (id : String) (position : Position) :
    List LayoutEntry :=
  if entries.any (·.id = id) then
    modifyFirst (·.id = id) (fun entry => { entry with position }) entries
  else entries ++ [⟨id, position⟩]

def setPosition (d : Dashboard) (id : String) (position : Position) : Except Refusal Dashboard := do
  d.layout.grid.validate position
  let _ ← d.requireWidget id
  return { d with
    widgets := modifyFirst (·.id = id) (fun w => { w with position }) d.widgets
    layout := { d.layout with entries := setEntry d.layout.entries id position } }

def moveWidget (d : Dashboard) (id : String) (x y : UInt32) : Except Refusal Dashboard := do
  let w ← d.requireWidget id
  d.setPosition id ⟨x, y, w.position.width, w.position.height⟩

def resizeWidget (d : Dashboard) (id : String) (width height : UInt32) :
    Except Refusal Dashboard := do
  let w ← d.requireWidget id
  d.setPosition id ⟨w.position.x, w.position.y, width, height⟩

def updateConfig (d : Dashboard) (id : String) (config : Members) : Except Refusal Dashboard := do
  let w ← d.requireWidget id
  w.kind.validateConfig config
  return { d with widgets := modifyFirst (·.id = id) (fun w => { w with config }) d.widgets }

/-- Removes a widget and every layout entry with its id, and gives the widget. -/
def removeWidget (d : Dashboard) (id : String) : Except Refusal (Dashboard × Widget) := do
  let w ← d.requireWidget id
  return ({ d with
    widgets := d.widgets.eraseP (·.id = id)
    layout := { d.layout with entries := d.layout.entries.filter (·.id ≠ id) } }, w)

end Dashboard

end ControlPanel
