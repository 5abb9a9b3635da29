import ControlPanel.Dashboard.Consistency
import ControlPanel.Dashboard.Placement

/-!
# Editing in place

The edits as they are carried out on a dashboard that is kept: one check after the other, then a
change of one list after the other. A refusal ends an edit where it comes up, and what has been
changed before it stays changed.
-/

namespace ControlPanel

namespace Dashboard

def requireUnused (d : Dashboard) (id : String) : Except Refusal Unit :=
  if (d.widget? id).isSome then .error (.widgetExists id d.id) else .ok ()

def requireFree (d : Dashboard) (size : UInt32 × UInt32) : Except Refusal Position :=
  match d.nextFree size.1 size.2 with
  | none => .error (.noFreeSlot size.1 size.2 d.id)
  | some position => .ok position

def requireLast (d : Dashboard) : Except Refusal Widget :=
  match d.widgets.getLast? with
  | none => .error .nothingAdded
  | some w => .ok w

/-- Checks and changes on one dashboard, one after the other. -/
abbrev InPlace (α : Type) := ExceptT Refusal (StateM Dashboard) α

namespace InPlace

/-- The answer, and the dashboard that is left also by a refusal. -/
def on {α : Type} (x : InPlace α) (d : Dashboard) : Except Refusal α × Dashboard :=
  StateT.run (ExceptT.run x) d

/-- Looks at the dashboard as it is now. -/
def check {α : Type} (test : Dashboard → Except Refusal α) : InPlace α :=
  ExceptT.mk do return test (← get)

def changeWidgets (f : List Widget → List Widget) : InPlace Unit :=
  modify fun d => { d with widgets := f d.widgets }

def changeEntries (f : List LayoutEntry → List LayoutEntry) : InPlace Unit :=
  modify fun d => { d with layout := { d.layout with entries := f d.layout.entries } }

def addWidget (w : Widget) : InPlace Unit := do
  check fun d => d.requireUnused w.id
  check fun d => d.layout.grid.validate w.position
  check fun _ => w.kind.validateConfig w.config
  changeEntries fun entries => entries ++ [.ofWidget w]
  changeWidgets fun widgets => widgets ++ [w]

def setPosition (id : String) (position : Position) : InPlace Unit := do
  check fun d => d.layout.grid.validate position
  let _ ← check fun d => d.requireWidget id
  changeWidgets (modifyFirst (·.id = id) fun w => { w with position })
  changeEntries fun entries => setEntry entries id position

def moveWidget (id : String) (x y : UInt32) : InPlace Unit := do
  let w ← check fun d => d.requireWidget id
  setPosition id ⟨x, y, w.position.width, w.position.height⟩

def resizeWidget (id : String) (width height : UInt32) : InPlace Unit := do
  let w ← check fun d => d.requireWidget id
  setPosition id ⟨w.position.x, w.position.y, width, height⟩

def updateConfig (id : String) (config : Members) : InPlace Unit := do
  let w ← check fun d => d.requireWidget id
  check fun _ => w.kind.validateConfig config
  changeWidgets (modifyFirst (·.id = id) fun w => { w with config })

def removeWidget (id : String) : InPlace Widget := do
  let w ← check fun d => d.requireWidget id
  changeEntries fun entries => entries.filter (·.id ≠ id)
  changeWidgets fun widgets => widgets.eraseP (·.id = id)
  return w

/-- Places a new widget. It is looked up at the end, so there could still be a refusal when it has
been added. -/
def placeNew (id : String) (kind : WidgetKind) (title : String) : InPlace Widget := do
  let position ← check fun d => d.requireFree kind.defaultSize
  addWidget (.ofKind id kind title position)
  check fun d => d.requireLast

def syncLayout : InPlace Unit := modify Dashboard.syncLayout

end InPlace

end Dashboard

end ControlPanel
