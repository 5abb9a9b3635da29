import ControlPanel.Json.Decoder

/-!
# Positions on the grid

A position is a rectangle of grid cells: a top-left cell and a size. The coordinates are 32-bit
words, and the far edges stop at the largest word instead of wrapping.
-/

namespace ControlPanel

namespace Layout

def maxCoordinate : Nat := UInt32.size - 1

/-- The sum, or the largest coordinate where the sum exceeds it. -/
def clampedAdd (a b : UInt32) : UInt32 := .ofNat (min (a.toNat + b.toNat) maxCoordinate)

def clampedMul (a b : UInt32) : UInt32 := .ofNat (min (a.toNat * b.toNat) maxCoordinate)

def wordDecoder : Json.Decoder UInt32 := .map UInt32.ofNat .natural32

end Layout

structure Position where
  x : UInt32
  y : UInt32
  width : UInt32
  height : UInt32
  deriving DecidableEq, Repr

namespace Position

/-- The first column to the right of the rectangle. -/
def right (p : Position) : UInt32 := Layout.clampedAdd p.x p.width

/-- The first row below the rectangle. -/
def bottom (p : Position) : UInt32 := Layout.clampedAdd p.y p.height

/-- The two rectangles share a cell. -/
def overlaps (p q : Position) : Bool :=
  p.x < q.right && q.x < p.right && p.y < q.bottom && q.y < p.bottom

def encode (p : Position) : Json :=
  .ofMembers [("x", .nat p.x.toNat), ("y", .nat p.y.toNat), ("width", .nat p.width.toNat),
    ("height", .nat p.height.toNat)]

def record : Json.Record Position :=
  Position.mk <$> .field "x" Layout.wordDecoder <*> .field "y" Layout.wordDecoder
    <*> .field "width" Layout.wordDecoder <*> .field "height" Layout.wordDecoder

def decoder : Json.Decoder Position := record.decoder "struct WidgetPosition"

end Position

end ControlPanel
