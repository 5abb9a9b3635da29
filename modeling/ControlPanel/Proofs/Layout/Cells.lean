import ControlPanel.Layout.Grid

/-!
# The cells of positions

A position covers cells of the plane, as many as its size says; no coordinate is cut off here. Two
positions have a cell in common if they cross and both have cells (`Position.meets_iff`). The
overlap test tells whether they cross, but does not ask whether they have cells, and does not see
positions that begin at the largest coordinate (`Position.overlaps_exact`). So it is right about
positions that have cells, of which one lies inside a grid (`Position.overlaps_iff_meets`).
-/

namespace ControlPanel

namespace Layout

theorem toNat_le_maxCoordinate (n : UInt32) : n.toNat ≤ maxCoordinate :=
  Nat.le_of_lt_succ n.toNat_lt_size

theorem toNat_clampedAdd (a b : UInt32) :
    (clampedAdd a b).toNat = min (a.toNat + b.toNat) maxCoordinate := by
  rw [clampedAdd]
  apply UInt32.toNat_ofNat_of_lt'
  simp only [maxCoordinate, UInt32.size]
  omega

theorem lt_clampedAdd_iff (a b c : UInt32) :
    a < clampedAdd b c ↔ a.toNat < b.toNat + c.toNat ∧ a.toNat < maxCoordinate := by
  rw [UInt32.lt_iff_toNat_lt, toNat_clampedAdd, Nat.lt_min]

end Layout

namespace Position

def Covers (p : Position) (column row : Nat) : Prop :=
  (p.x.toNat ≤ column ∧ column < p.x.toNat + p.width.toNat) ∧
    p.y.toNat ≤ row ∧ row < p.y.toNat + p.height.toNat

def Meets (p q : Position) : Prop := ∃ column row, p.Covers column row ∧ q.Covers column row

structure Sized (p : Position) : Prop where
  width : 1 ≤ p.width.toNat
  height : 1 ≤ p.height.toNat

/-- Each of two positions begins before the other one ends. A position without cells can do so as
well, if it lies inside the other one. -/
structure Crosses (p q : Position) : Prop where
  columns : p.x.toNat < q.x.toNat + q.width.toNat ∧ q.x.toNat < p.x.toNat + p.width.toNat
  rows : p.y.toNat < q.y.toNat + q.height.toNat ∧ q.y.toNat < p.y.toNat + p.height.toNat

structure InReach (p : Position) : Prop where
  column : p.x.toNat < Layout.maxCoordinate
  row : p.y.toNat < Layout.maxCoordinate

variable {p q : Position}

theorem meets_iff : p.Meets q ↔ p.Crosses q ∧ p.Sized ∧ q.Sized := by
  constructor
  · rintro ⟨column, row, ⟨columns, rows⟩, columns', rows'⟩
    refine ⟨⟨?_, ?_⟩, ⟨?_, ?_⟩, ⟨?_, ?_⟩⟩ <;> omega
  · rintro ⟨⟨columns, rows⟩, ⟨width, height⟩, ⟨width', height'⟩⟩
    -- the cell where the later columns and the later rows begin
    refine ⟨max p.x.toNat q.x.toNat, max p.y.toNat q.y.toNat, ?_, ?_⟩
    · constructor <;> omega
    · constructor <;> omega

theorem overlaps_iff : p.overlaps q = true ↔ p.Crosses q ∧ p.InReach ∧ q.InReach := by
  simp only [overlaps, right, bottom, Bool.and_eq_true, decide_eq_true_eq,
    Layout.lt_clampedAdd_iff]
  constructor
  · rintro ⟨⟨⟨⟨left, far⟩, left', far'⟩, top, low⟩, top', low'⟩
    exact ⟨⟨⟨left, left'⟩, top, top'⟩, ⟨far, low⟩, ⟨far', low'⟩⟩
  · rintro ⟨⟨⟨left, left'⟩, top, top'⟩, ⟨far, low⟩, ⟨far', low'⟩⟩
    exact ⟨⟨⟨⟨left, far⟩, left', far'⟩, top, low⟩, top', low'⟩

/-- What the overlap test tells, and the two ways in which it can be wrong about common cells. -/
theorem overlaps_exact (p q : Position) :
    (p.overlaps q = true ↔ p.Crosses q ∧ p.InReach ∧ q.InReach) ∧
      (p.overlaps q = true ∧ ¬ p.Meets q ↔
        p.Crosses q ∧ (p.InReach ∧ q.InReach) ∧ ¬ (p.Sized ∧ q.Sized)) ∧
      (p.overlaps q = false ∧ p.Meets q ↔
        p.Crosses q ∧ ¬ (p.InReach ∧ q.InReach) ∧ p.Sized ∧ q.Sized) := by
  refine ⟨overlaps_iff, ?_, ?_⟩
  · rw [overlaps_iff, meets_iff]
    constructor
    · rintro ⟨⟨crosses, reach⟩, apart⟩
      exact ⟨crosses, reach, fun sized => apart ⟨crosses, sized⟩⟩
    · rintro ⟨crosses, reach, flat⟩
      exact ⟨⟨crosses, reach⟩, fun ⟨_, sized⟩ => flat sized⟩
  · rw [← Bool.not_eq_true, overlaps_iff, meets_iff]
    constructor
    · rintro ⟨unseen, crosses, sized⟩
      exact ⟨crosses, fun reach => unseen ⟨crosses, reach⟩, sized⟩
    · rintro ⟨crosses, beyond, sized⟩
      exact ⟨fun ⟨_, reach⟩ => beyond reach, crosses, sized⟩

/-- A position without cells inside another one, and a position with its only cell in the last
column. -/
theorem overlaps_not_meets :
    let line : Position := ⟨1, 0, 0, 1⟩
    let strip : Position := ⟨0, 0, 3, 1⟩
    let rim : Position := ⟨4294967295, 0, 1, 1⟩
    (line.overlaps strip = true ∧ ¬ line.Meets strip) ∧
      rim.overlaps rim = false ∧ rim.Meets rim := by
  refine ⟨⟨by decide, fun meets => ?_⟩, by decide, ?_⟩
  · exact absurd (meets_iff.mp meets).2.1.width (by decide)
  · have sized : Sized ⟨4294967295, 0, 1, 1⟩ := ⟨by decide, by decide⟩
    exact meets_iff.mpr ⟨⟨by decide, by decide⟩, sized, sized⟩

end Position

namespace Grid

structure Holds (g : Grid) (p : Position) : Prop where
  columns : p.x.toNat + p.width.toNat ≤ g.columns.toNat
  rows : p.y.toNat + p.height.toNat ≤ g.rows.toNat

theorem sized_of_fits {g : Grid} {p : Position} (fits : g.fits p = true) : p.Sized := by
  simp only [Grid.fits, Bool.and_eq_true, decide_eq_true_eq, and_assoc,
    UInt32.le_iff_toNat_le] at fits
  exact ⟨fits.1, fits.2.1⟩

end Grid

theorem Position.Crosses.inReach {g : Grid} {p q : Position} (crosses : p.Crosses q)
    (sized : q.Sized) (holds : g.Holds q) : p.InReach ∧ q.InReach := by
  obtain ⟨columns, rows⟩ := crosses
  obtain ⟨width, height⟩ := sized
  obtain ⟨inside, below⟩ := holds
  have right := Layout.toNat_le_maxCoordinate g.columns
  have bottom := Layout.toNat_le_maxCoordinate g.rows
  refine ⟨⟨?_, ?_⟩, ⟨?_, ?_⟩⟩ <;> omega

theorem Position.overlaps_iff_meets {g : Grid} {p q : Position} (sized : p.Sized)
    (sized' : q.Sized) (holds : g.Holds q) : p.overlaps q = true ↔ p.Meets q := by
  rw [overlaps_iff, meets_iff]
  constructor
  · rintro ⟨crosses, _⟩
    exact ⟨crosses, sized, sized'⟩
  · rintro ⟨crosses, _⟩
    exact ⟨crosses, crosses.inReach sized' holds⟩

end ControlPanel
