import ControlPanel.Dashboard.Edit

/-!
# Placing new widgets

A new widget goes to the first free place of its default size, looking through the rows from the
top and each row from the left.
-/

namespace ControlPanel

namespace Dashboard

def isFree (d : Dashboard) (p : Position) : Bool :=
  !d.widgets.any fun w => w.position.overlaps p

/-- The first of `count` columns from `x` on at which a rectangle of the given size in row `y` is
free. -/
def freeInRow (d : Dashboard) (width height : UInt32) (y : Nat) :
    (x count : Nat) → Option Position
  | _, 0 => none
  | x, count + 1 =>
    let candidate : Position := ⟨.ofNat x, .ofNat y, width, height⟩
    if d.isFree candidate then some candidate else freeInRow d width height y (x + 1) count

/-- The first of `count` rows from `y` on with a free place among its first `columns` columns. -/
def freeInRows (d : Dashboard) (width height : UInt32) (columns : Nat) :
    (y count : Nat) → Option Position
  | _, 0 => none
  | y, count + 1 =>
    match d.freeInRow width height y 0 columns with
    | some p => some p
    | none => freeInRows d width height columns (y + 1) count

def nextFree (d : Dashboard) (width height : UInt32) : Option Position :=
  let grid := d.layout.grid
  if width = 0 ∨ height = 0 ∨ grid.columns < width ∨ grid.rows < height then none
  else
    d.freeInRows width height (grid.columns.toNat - width.toNat + 1) 0
      (grid.rows.toNat - height.toNat + 1)

/-- Adds a new widget of a kind at the first free place of the default size of the kind. The id
is given by the caller and must be new. -/
def placeNew (d : Dashboard) (id : String) (kind : WidgetKind) (title : String) :
    Except Refusal (Dashboard × Widget) := do
  let (width, height) := kind.defaultSize
  match d.nextFree width height with
  | none => .error (.noFreeSlot width height d.id)
  | some position =>
    let w := Widget.ofKind id kind title position
    return (← d.addWidget w, w)

end Dashboard

end ControlPanel
