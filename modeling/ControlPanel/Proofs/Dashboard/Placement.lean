import ControlPanel.Proofs.Dashboard.Invariants
import ControlPanel.Proofs.Layout.Cells

/-!
# Free places

The search for a free place goes through all places of a size on the grid, row by row
(`Dashboard.nextFree_eq_find?`), so it finds the first one in which no widget has a cell if there is
one (`Dashboard.nextFree_first`). Widgets that are placed in this way, and only configured and
removed otherwise, never have a cell in common (`Dashboard.course_packed`).
-/

namespace ControlPanel

namespace Position

def Precedes (p q : Position) : Prop := p.y < q.y ∨ p.y = q.y ∧ p.x < q.x

end Position

namespace Grid

def row (width height : UInt32) (columns y : Nat) : List Position :=
  (List.range' 0 columns).map fun x => ⟨.ofNat x, .ofNat y, width, height⟩

def places (g : Grid) (width height : UInt32) : List Position :=
  if width = 0 ∨ height = 0 ∨ g.columns < width ∨ g.rows < height then []
  else (List.range' 0 (g.rows.toNat - height.toNat + 1)).flatMap
    (row width height (g.columns.toNat - width.toNat + 1))

variable {g : Grid} {width height : UInt32}

theorem mem_row_iff {columns y : Nat} {p : Position} : p ∈ row width height columns y ↔
    ∃ x < columns, p = ⟨.ofNat x, .ofNat y, width, height⟩ := by
  simp only [row, List.mem_map, List.mem_range'_1, Nat.zero_le, true_and, Nat.zero_add, eq_comm]

theorem size_fits_iff : ¬ (width = 0 ∨ height = 0 ∨ g.columns < width ∨ g.rows < height) ↔
    (1 ≤ width.toNat ∧ width.toNat ≤ g.columns.toNat) ∧
      1 ≤ height.toNat ∧ height.toNat ≤ g.rows.toNat := by
  simp only [← UInt32.toNat_inj, UInt32.lt_iff_toNat_lt, UInt32.toNat_zero]
  omega

theorem mem_places_iff {p : Position} : p ∈ g.places width height ↔
    p.width = width ∧ p.height = height ∧ p.Sized ∧ g.Holds p := by
  have columns := g.columns.toNat_lt_size
  have rows := g.rows.toNat_lt_size
  unfold places
  split
  · rename_i unfit
    simp only [List.not_mem_nil, false_iff]
    rintro ⟨rfl, rfl, ⟨_, _⟩, _, _⟩
    refine absurd unfit (size_fits_iff.mpr ?_)
    omega
  · rename_i fit
    obtain ⟨⟨_, _⟩, _, _⟩ := size_fits_iff.mp fit
    simp only [List.mem_flatMap, List.mem_range'_1, mem_row_iff]
    constructor
    · rintro ⟨y, ⟨_, _⟩, x, _, rfl⟩
      have left : (UInt32.ofNat x).toNat = x := UInt32.toNat_ofNat_of_lt' (by omega)
      have top : (UInt32.ofNat y).toNat = y := UInt32.toNat_ofNat_of_lt' (by omega)
      refine ⟨rfl, rfl, ⟨by assumption, by assumption⟩, ?_, ?_⟩
      · change (UInt32.ofNat x).toNat + width.toNat ≤ _
        omega
      · change (UInt32.ofNat y).toNat + height.toNat ≤ _
        omega
    · rintro ⟨rfl, rfl, -, _, _⟩
      refine ⟨p.y.toNat, by omega, p.x.toNat, by omega, ?_⟩
      simp

theorem pairwise_places : (g.places width height).Pairwise Position.Precedes := by
  have columns := g.columns.toNat_lt_size
  have rows := g.rows.toNat_lt_size
  unfold places
  split
  · exact .nil
  · rename_i fit
    obtain ⟨⟨_, _⟩, _, _⟩ := size_fits_iff.mp fit
    have mono {a b : Nat} (less : a < b) (bound : b < UInt32.size) :
        UInt32.ofNat a < UInt32.ofNat b := by
      rw [UInt32.lt_iff_toNat_lt, UInt32.toNat_ofNat_of_lt' bound,
        UInt32.toNat_ofNat_of_lt' (Nat.lt_trans less bound)]
      exact less
    refine List.pairwise_flatMap.mpr ⟨fun y _ => ?_, ?_⟩
    · refine List.pairwise_map.mpr (List.Pairwise.imp_of_mem ?_ List.pairwise_lt_range')
      intro x x' _ listed less
      have bound := (List.mem_range'_1.mp listed).2
      exact .inr ⟨rfl, mono less (by omega)⟩
    · refine List.Pairwise.imp_of_mem ?_ List.pairwise_lt_range'
      intro y y' _ listed less p own q other
      have bound := (List.mem_range'_1.mp listed).2
      obtain ⟨x, _, rfl⟩ := mem_row_iff.mp own
      obtain ⟨x', _, rfl⟩ := mem_row_iff.mp other
      exact .inl (mono less (by omega))

end Grid

theorem eq_or_of_find?_eq_some {α : Type} {R : α → α → Prop} {p : α → Bool} {l : List α} {a b : α}
    (sorted : l.Pairwise R) (found : l.find? p = some a) (listed : b ∈ l) (good : p b = true) :
    a = b ∨ R a b := by
  induction l with
  | nil => cases listed
  | cons c l ih =>
    obtain ⟨first, sorted⟩ := List.pairwise_cons.mp sorted
    by_cases here : p c = true
    · rw [List.find?_cons_of_pos here] at found
      cases found
      exact (List.mem_cons.mp listed).imp Eq.symm (first b)
    · rw [List.find?_cons_of_neg here] at found
      rcases List.mem_cons.mp listed with rfl | listed
      · exact absurd good here
      · exact ih sorted found listed

/-- An edit that leaves it to the dashboard where its widgets are. -/
def Edit.isAutomatic : Edit → Bool
  | placeNew .. | remove _ | updateConfig .. | sync => true
  | add _ | move .. | resize .. | setPosition .. => false

namespace Dashboard

/-! ## The search -/

section Search

variable {d : Dashboard} {width height : UInt32}

theorem freeInRow_eq_find? (y x count : Nat) : d.freeInRow width height y x count =
    ((List.range' x count).map fun x => ⟨.ofNat x, .ofNat y, width, height⟩).find? d.isFree := by
  induction count generalizing x with
  | zero => rfl
  | succ count ih =>
    rw [freeInRow, List.range'_succ, List.map_cons, List.find?_cons, ih]
    split <;> simp_all

theorem freeInRows_eq_find? (columns y count : Nat) :
    d.freeInRows width height columns y count =
      ((List.range' y count).flatMap (Grid.row width height columns)).find? d.isFree := by
  induction count generalizing y with
  | zero => rfl
  | succ count ih =>
    have first : (Grid.row width height columns y).find? d.isFree =
        d.freeInRow width height y 0 columns := (freeInRow_eq_find? y 0 columns).symm
    rw [freeInRows, List.range'_succ, List.flatMap_cons, List.find?_append, first, ih]
    cases d.freeInRow width height y 0 columns <;> rfl

theorem nextFree_eq_find? (d : Dashboard) (width height : UInt32) :
    d.nextFree width height = (d.layout.grid.places width height).find? d.isFree := by
  simp only [nextFree, Grid.places]
  split
  · rfl
  · exact freeInRows_eq_find? ..

structure Vacant (d : Dashboard) (width height : UInt32) (p : Position) : Prop where
  width : p.width = width
  height : p.height = height
  sized : p.Sized
  inside : d.layout.grid.Holds p
  free : ∀ w ∈ d.widgets, ¬ w.position.Meets p

theorem vacant_iff (sized : ∀ w ∈ d.widgets, w.position.Sized) {p : Position} :
    d.Vacant width height p ↔ p ∈ d.layout.grid.places width height ∧ d.isFree p = true := by
  have free (own : p.Sized) (inside : d.layout.grid.Holds p) :
      d.isFree p = true ↔ ∀ w ∈ d.widgets, ¬ w.position.Meets p := by
    simp only [isFree, Bool.not_eq_true', List.any_eq_false]
    refine forall₂_congr fun w listed => ?_
    rw [Position.overlaps_iff_meets (sized w listed) own inside]
  rw [Grid.mem_places_iff]
  constructor
  · intro vacant
    exact ⟨⟨vacant.width, vacant.height, vacant.sized, vacant.inside⟩,
      (free vacant.sized vacant.inside).mpr vacant.free⟩
  · rintro ⟨⟨own, own', sized', inside⟩, untouched⟩
    exact ⟨own, own', sized', inside, (free sized' inside).mp untouched⟩

theorem vacant_of_nextFree (sized : ∀ w ∈ d.widgets, w.position.Sized) {p : Position}
    (found : d.nextFree width height = some p) : d.Vacant width height p := by
  rw [nextFree_eq_find?] at found
  exact (vacant_iff sized).mpr ⟨List.mem_of_find?_eq_some found, List.find?_some found⟩

/-- A place is found if and only if there is a vacant one, and it is the first of them. -/
theorem nextFree_first (d : Dashboard)
    (fit : ∀ w ∈ d.widgets, d.layout.grid.fits w.position = true) (width height : UInt32) :
    ((d.nextFree width height).isSome = true ↔ ∃ p, d.Vacant width height p) ∧
      ∀ p, d.nextFree width height = some p → d.Vacant width height p ∧
        ∀ q, d.Vacant width height q → p.y < q.y ∨ p.y = q.y ∧ p.x ≤ q.x := by
  have sized (w : Widget) (listed : w ∈ d.widgets) : w.position.Sized :=
    Grid.sized_of_fits (fit w listed)
  refine ⟨?_, fun p found => ⟨vacant_of_nextFree sized found, fun q vacant => ?_⟩⟩
  · rw [nextFree_eq_find?, List.find?_isSome]
    simp only [vacant_iff sized]
  · obtain ⟨listed, free⟩ := (vacant_iff sized).mp vacant
    rw [nextFree_eq_find?] at found
    rcases eq_or_of_find?_eq_some Grid.pairwise_places found listed free with rfl | earlier
    · exact .inr ⟨rfl, UInt32.le_refl _⟩
    · exact earlier.imp_right fun ⟨same, less⟩ => ⟨same, UInt32.le_of_lt less⟩

def rimBoard : Dashboard :=
  { noteBoard with
    widgets := [.ofKind "rim" .text "Rim" ⟨4294967295, 0, 2, 1⟩]
    layout := ⟨⟨4294967295, 2, 100, 80, 10⟩, .auto, []⟩ }

theorem nextFree_first_rimBoard :
    (∀ w ∈ rimBoard.widgets, rimBoard.layout.grid.fits w.position = true) ∧
      rimBoard.nextFree 4294967295 1 = some ⟨0, 0, 4294967295, 1⟩ ∧
      rimBoard.Vacant 4294967295 1 ⟨0, 0, 4294967295, 1⟩ := by
  have fit : ∀ w ∈ rimBoard.widgets, rimBoard.layout.grid.fits w.position = true := by
    decide +kernel
  have found : rimBoard.nextFree 4294967295 1 = some ⟨0, 0, 4294967295, 1⟩ := by decide +kernel
  exact ⟨fit, found, ((nextFree_first rimBoard fit 4294967295 1).2 _ found).1⟩

end Search

/-! ## Runs of placements -/

def positions (d : Dashboard) : List Position := d.widgets.map Widget.position

structure Packed (d : Dashboard) : Prop where
  apart : d.positions.Pairwise fun p q => ¬ p.Meets q
  sized : ∀ p ∈ d.positions, p.Sized
  inside : ∀ p ∈ d.positions, d.layout.grid.Holds p

variable {d d' : Dashboard} {id title : String} {kind : WidgetKind} {w : Widget}

theorem nextFree_of_placeNew (placed : d.placeNew id kind title = .ok (d', w)) :
    d.nextFree kind.defaultSize.1 kind.defaultSize.2 = some w.position ∧
      d.addWidget w = .ok d' := by
  obtain ⟨_, found, rfl, added⟩ := placeNew_eq_ok_iff.mp placed
  exact ⟨found, added⟩

theorem Packed.placeNew (packed : d.Packed) (placed : d.placeNew id kind title = .ok (d', w)) :
    d'.Packed := by
  obtain ⟨found, added⟩ := nextFree_of_placeNew placed
  obtain ⟨_, rfl⟩ := addWidget_eq_ok_iff.mp added
  have vacant := vacant_of_nextFree
    (fun v listed => packed.sized _ (List.mem_map_of_mem listed)) found
  have both {P : Position → Prop} (others : ∀ p ∈ d.positions, P p) (own : P w.position) :
      ∀ p ∈ (d.widgets ++ [w]).map Widget.position, P p := by
    simp only [List.map_append, List.map_singleton, List.forall_mem_append,
      List.forall_mem_singleton]
    exact ⟨others, own⟩
  refine ⟨?_, both packed.sized vacant.sized, both packed.inside vacant.inside⟩
  rw [positions, List.map_append]
  refine List.pairwise_append.mpr ⟨packed.apart, List.pairwise_singleton .., ?_⟩
  rintro p listed _ (_ | ⟨_, ⟨⟩⟩)
  obtain ⟨v, there, rfl⟩ := List.mem_map.mp listed
  exact vacant.free v there

theorem Packed.sublist (packed : d.Packed) (fewer : d'.positions.Sublist d.positions)
    (same : d'.layout.grid = d.layout.grid) : d'.Packed where
  apart := packed.apart.sublist fewer
  sized p listed := packed.sized p (fewer.subset listed)
  inside p listed := same ▸ packed.inside p (fewer.subset listed)

theorem positions_updateConfig {config : Members} (accepted : d.updateConfig id config = .ok d') :
    d'.positions = d.positions ∧ d'.layout.grid = d.layout.grid := by
  simp only [updateConfig, bind_eq_ok_iff] at accepted
  obtain ⟨_, _, _, _, made⟩ := accepted
  cases made
  exact ⟨map_modifyFirst_of_eq fun _ => rfl, rfl⟩

theorem positions_removeWidget (accepted : d.removeWidget id = .ok (d', w)) :
    d'.positions.Sublist d.positions ∧ d'.layout.grid = d.layout.grid := by
  simp only [removeWidget, bind_eq_ok_iff] at accepted
  obtain ⟨_, _, made⟩ := accepted
  cases made
  exact ⟨List.eraseP_sublist.map _, rfl⟩

theorem Packed.attempt {e : Edit} (packed : d.Packed) (automatic : e.isAutomatic = true)
    (accepted : d.attempt e = .ok d') : d'.Packed ∧ d'.layout.grid = d.layout.grid := by
  cases e with
  | placeNew id kind title =>
    obtain ⟨_, placed, rfl⟩ := map_eq_ok_iff.mp accepted
    refine ⟨packed.placeNew placed, ?_⟩
    obtain ⟨_, added⟩ := nextFree_of_placeNew placed
    obtain ⟨_, made⟩ := addWidget_eq_ok_iff.mp added
    rw [made]
  | remove id =>
    obtain ⟨_, removed, rfl⟩ := map_eq_ok_iff.mp accepted
    obtain ⟨fewer, same⟩ := positions_removeWidget removed
    exact ⟨packed.sublist fewer same, same⟩
  | updateConfig id config =>
    obtain ⟨kept, same⟩ := positions_updateConfig accepted
    exact ⟨packed.sublist (kept ▸ .refl _) same, same⟩
  | sync =>
    cases accepted
    exact ⟨packed.sublist (.refl _) rfl, rfl⟩
  | add | move | resize | setPosition => cases automatic

/-- On a dashboard that was empty at first, widgets that are placed automatically never share a
cell, and they lie inside the grid. -/
theorem course_packed (d : Dashboard) (empty : d.widgets = []) (edits : List Edit)
    (automatic : ∀ e ∈ edits, e.isAutomatic = true) : ∀ d' ∈ d.course edits,
      d'.layout.grid = d.layout.grid ∧
      (d'.widgets.Pairwise fun v w => ¬ ∃ column row,
        v.position.Covers column row ∧ w.position.Covers column row) ∧
      ∀ w ∈ d'.widgets, d.layout.grid.Holds w.position := by
  have start : d.Packed := by
    constructor <;> simp [positions, empty]
  have keeps : ∀ e ∈ edits, ∀ d' : Dashboard, d'.Packed ∧ d'.layout.grid = d.layout.grid →
      (d'.after e).Packed ∧ (d'.after e).layout.grid = d.layout.grid := by
    intro e listed d' ⟨packed, same⟩
    unfold after
    split
    · rename_i accepted
      obtain ⟨packed, still⟩ := packed.attempt (automatic e listed) accepted
      exact ⟨packed, still.trans same⟩
    · exact ⟨packed, same⟩
  intro d' listed
  obtain ⟨packed, same⟩ := course_kept keeps ⟨start, rfl⟩ d' listed
  exact ⟨same, List.pairwise_map.mp packed.apart, fun w there =>
    same ▸ packed.inside _ (List.mem_map_of_mem there)⟩

def shuffle : List Edit :=
  [.placeNew "load" .chart "Load", .placeNew "jobs" .metric "Jobs", .remove "load",
    .placeNew "note" .text "Note", .placeNew "jobs" .metric "Jobs", .sync]

theorem course_packed_shuffle :
    let d : Dashboard := { noteBoard with widgets := [], layout := ⟨.default, .auto, []⟩ }
    d.widgets = [] ∧ (∀ e ∈ shuffle, e.isAutomatic = true) ∧
      (d.course shuffle).map (fun d' => d'.widgets.length) = [0, 1, 2, 1, 2, 2, 2] ∧
      ∀ d' ∈ d.course shuffle, ∀ w ∈ d'.widgets, Grid.default.Holds w.position := by
  intro d
  have automatic : ∀ e ∈ shuffle, e.isAutomatic = true := by simp [shuffle, Edit.isAutomatic]
  refine ⟨rfl, automatic, by decide +kernel, fun d' listed => ?_⟩
  exact (course_packed d rfl shuffle automatic d' listed).2.2

end Dashboard

end ControlPanel
