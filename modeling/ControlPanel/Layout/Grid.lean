import ControlPanel.Layout.Position
import ControlPanel.Refusal

/-!
# The grid

The cells on which widgets are placed: how many there are, which positions lie inside, and how
many pixels a position covers.
-/

namespace ControlPanel

/-- A grid of cells; the sizes of a cell and of the gap between cells are in pixels. -/
structure Grid where
  columns : UInt32
  rows : UInt32
  cellWidth : UInt32
  cellHeight : UInt32
  gap : UInt32
  deriving DecidableEq, Repr

namespace Grid

def default : Grid := ⟨12, 8, 100, 80, 10⟩

/-- The position has a cell and lies inside the grid. -/
def fits (g : Grid) (p : Position) : Bool :=
  1 ≤ p.width && 1 ≤ p.height && p.right ≤ g.columns && p.bottom ≤ g.rows

def validate (g : Grid) (p : Position) : Except Refusal Unit :=
  if p.width < 1 ∨ p.height < 1 then .error (.invalid (.noSize p.width p.height))
  else if g.columns < p.right then .error (.invalid (.tooWide p.x p.right g.columns))
  else if g.rows < p.bottom then .error (.invalid (.tooHigh p.y p.bottom g.rows))
  else .ok ()

theorem validate_eq_ok_iff (g : Grid) (p : Position) : g.validate p = .ok () ↔ g.fits p = true := by
  simp only [validate, fits, Bool.and_eq_true, decide_eq_true_eq]
  repeat' split
  all_goals grind

/-- The pixels of some cells in a row with the gaps between them. -/
def span (g : Grid) (cells cell : UInt32) : UInt32 :=
  Layout.clampedAdd (Layout.clampedMul cells cell)
    (Layout.clampedMul (if cells = 0 then 0 else cells - 1) g.gap)

def pixelSize (g : Grid) (p : Position) : UInt32 × UInt32 :=
  (g.span p.width g.cellWidth, g.span p.height g.cellHeight)

def encode (g : Grid) : Json :=
  .ofMembers [("columns", .nat g.columns.toNat), ("rows", .nat g.rows.toNat),
    ("cell_width", .nat g.cellWidth.toNat), ("cell_height", .nat g.cellHeight.toNat),
    ("gap", .nat g.gap.toNat)]

def record : Json.Record Grid :=
  Grid.mk <$> .field "columns" Layout.wordDecoder <*> .field "rows" Layout.wordDecoder
    <*> .field "cell_width" Layout.wordDecoder <*> .field "cell_height" Layout.wordDecoder
    <*> .defaulted "gap" 0 Layout.wordDecoder

def decoder : Json.Decoder Grid := record.decoder "struct GridConfig"

end Grid

end ControlPanel
