import ControlPanel.Proofs.Layout.Cells

/-!
# Which positions fit a grid

The far edges of a position are cut off at the largest coordinate, and a position that is cut off
fits a grid that reaches so far. `Grid.fits_exact`: the two tests agree, they let pass the positions
that lie inside or are cut off in this way, and the grids on which they are exact.
-/

namespace ControlPanel

theorem Layout.clampedAdd_le_iff (a b c : UInt32) :
    clampedAdd a b ≤ c ↔ a.toNat + b.toNat ≤ c.toNat ∨ c.toNat = maxCoordinate := by
  have bound := c.toNat_lt_size
  rw [UInt32.le_iff_toNat_le, toNat_clampedAdd]
  simp only [maxCoordinate, UInt32.size] at bound ⊢
  omega

namespace Grid

/-- The position ends inside the grid, or the grid has as many columns or rows as there can be. -/
structure Admits (g : Grid) (p : Position) : Prop where
  columns : p.x.toNat + p.width.toNat ≤ g.columns.toNat ∨ g.columns.toNat = Layout.maxCoordinate
  rows : p.y.toNat + p.height.toNat ≤ g.rows.toNat ∨ g.rows.toNat = Layout.maxCoordinate

variable {g : Grid} {p : Position}

theorem fits_iff_admits : g.fits p = true ↔ p.Sized ∧ g.Admits p := by
  simp only [fits, Position.right, Position.bottom, Bool.and_eq_true, decide_eq_true_eq,
    Layout.clampedAdd_le_iff, and_assoc]
  constructor
  · rintro ⟨width, height, columns, rows⟩
    exact ⟨⟨width, height⟩, columns, rows⟩
  · rintro ⟨⟨width, height⟩, columns, rows⟩
    exact ⟨width, height, columns, rows⟩

/-- The grid is smaller than the coordinates, or no position fits it because it has no cell. -/
def IsExact (g : Grid) : Prop :=
  (g.columns.toNat < Layout.maxCoordinate ∨ g.rows.toNat = 0) ∧
    (g.rows.toNat < Layout.maxCoordinate ∨ g.columns.toNat = 0)

theorem IsExact.holds (exact : g.IsExact) (sized : p.Sized) (admits : g.Admits p) : g.Holds p := by
  obtain ⟨width, height⟩ := sized
  obtain ⟨columns, rows⟩ := admits
  obtain ⟨left, right⟩ := exact
  have : 0 < Layout.maxCoordinate := by decide
  constructor <;> omega

theorem eq_max_of_not_lt {n : UInt32} (atLeast : ¬ n.toNat < Layout.maxCoordinate) :
    n.toNat = Layout.maxCoordinate :=
  Nat.le_antisymm (Layout.toNat_le_maxCoordinate n) (Nat.not_lt.mp atLeast)

theorem isExact_of_fits_imp_holds (agree : ∀ p, g.fits p = true → g.Holds p) : g.IsExact := by
  have beyond (n : UInt32) : ¬ (4294967295 : UInt32).toNat + (1 : UInt32).toNat ≤ n.toNat :=
    Nat.not_le.mpr n.toNat_lt_size
  have within {n : UInt32} (some : n.toNat ≠ 0) :
      (0 : UInt32).toNat + (1 : UInt32).toNat ≤ n.toNat := Nat.pos_of_ne_zero some
  -- otherwise the cell to the right of the grid, or the one below it, fits
  refine ⟨Decidable.byContradiction fun wide => ?_, Decidable.byContradiction fun high => ?_⟩
  · obtain ⟨columns, rows⟩ := not_or.mp wide
    have cut : g.fits ⟨4294967295, 0, 1, 1⟩ = true := fits_iff_admits.mpr
      ⟨⟨Nat.le_refl 1, Nat.le_refl 1⟩, .inr (eq_max_of_not_lt columns), .inl (within rows)⟩
    exact beyond _ (agree _ cut).columns
  · obtain ⟨rows, columns⟩ := not_or.mp high
    have cut : g.fits ⟨0, 4294967295, 1, 1⟩ = true := fits_iff_admits.mpr
      ⟨⟨Nat.le_refl 1, Nat.le_refl 1⟩, .inl (within columns), .inr (eq_max_of_not_lt rows)⟩
    exact beyond _ (agree _ cut).rows

theorem fits_exact (g : Grid) :
    (∀ p, g.fits p = true ↔ g.validate p = .ok ()) ∧
      (∀ p, g.fits p = true ↔ p.Sized ∧ g.Admits p) ∧
      ((∀ p, g.fits p = true ↔ p.Sized ∧ g.Holds p) ↔ g.IsExact) := by
  refine ⟨fun p => (validate_eq_ok_iff g p).symm, fun p => fits_iff_admits, ?_, ?_⟩
  · intro agree
    exact isExact_of_fits_imp_holds fun p fits => ((agree p).mp fits).2
  · intro exact p
    rw [fits_iff_admits]
    refine and_congr_right fun sized => ⟨fun admits => exact.holds sized admits, ?_⟩
    rintro ⟨columns, rows⟩
    exact ⟨.inl columns, .inl rows⟩

/-- The widget has its only cell to the right of the widest grid there can be. -/
theorem fits_beyond :
    let g : Grid := ⟨4294967295, 1, 100, 80, 10⟩
    let p : Position := ⟨4294967295, 0, 1, 1⟩
    g.fits p = true ∧ g.validate p = .ok () ∧ ¬ g.Holds p := by
  refine ⟨by decide, rfl, fun holds => ?_⟩
  exact absurd holds.columns (by decide)

end Grid

end ControlPanel
