import ControlPanel.Proofs.Dashboard.InPlace
import ControlPanel.Proofs.Dashboard.Placement
import ControlPanel.Proofs.Layout.Bounds

/-!
# Which new widgets are placed

A new widget begins at the first free place of its kind's size and with its kind's default
configuration. The place always fits, but the default configuration of a table has no columns,
and then it is no configuration of a table. `Dashboard.placeNew_placed`: a new widget is placed if
and only if there is a free place and the widget is no table, and what has become of the dashboard.
-/

namespace ControlPanel

theorem WidgetKind.validateConfig_defaultConfig (kind : WidgetKind) :
    kind.validateConfig kind.defaultConfig =
      if kind = .table then .error (.invalid .noColumns) else .ok () := by
  cases kind <;> rfl

namespace Dashboard

variable {d : Dashboard}

theorem fits_of_nextFree {width height : UInt32} {p : Position}
    (found : d.nextFree width height = some p) : d.layout.grid.fits p = true := by
  rw [nextFree_eq_find?] at found
  obtain ⟨_, _, sized, holds⟩ := Grid.mem_places_iff.mp (List.mem_of_find?_eq_some found)
  exact Grid.fits_iff_admits.mpr ⟨sized, .inl holds.columns, .inl holds.rows⟩

def withNew (d : Dashboard) (id : String) (kind : WidgetKind) (title : String)
    (position : Position) : Dashboard :=
  { d with
    widgets := d.widgets ++ [⟨id, kind, title, kind.defaultConfig, none, position⟩]
    layout := { d.layout with entries := d.layout.entries ++ [⟨id, position⟩] } }

section PlaceNew

variable {id title : String} {kind : WidgetKind} {position : Position}

theorem addWidget_ofKind (fresh : id ∉ d.widgets.map Widget.id)
    (fits : d.layout.grid.fits position = true) :
    d.addWidget (.ofKind id kind title position) =
      (kind.validateConfig kind.defaultConfig).map fun _ => d.withNew id kind title position := by
  rw [← widget?_isSome_iff] at fresh
  rw [addWidget, Widget.ofKind, if_neg fresh, (Grid.validate_eq_ok_iff _ _).mpr fits]
  rfl

theorem on_placeNew_of_none (full : d.nextFree kind.defaultSize.1 kind.defaultSize.2 = none) :
    (InPlace.placeNew id kind title).on d =
      (.error (.noFreeSlot kind.defaultSize.1 kind.defaultSize.2 d.id), d) := by
  rw [InPlace.on_placeNew]
  simp only [placeNew, full]
  rfl

theorem on_placeNew_of_some (fresh : id ∉ d.widgets.map Widget.id)
    (found : d.nextFree kind.defaultSize.1 kind.defaultSize.2 = some position) :
    (InPlace.placeNew id kind title).on d =
      if kind = .table then (.error (.invalid .noColumns), d)
      else (.ok (.ofKind id kind title position), d.withNew id kind title position) := by
  rw [InPlace.on_placeNew]
  simp only [placeNew, found]
  rw [addWidget_ofKind fresh (fits_of_nextFree found), kind.validateConfig_defaultConfig]
  split <;> rfl

theorem placeNew_placed (d : Dashboard) (id title : String) (kind : WidgetKind)
    (fresh : id ∉ d.widgets.map Widget.id) :
    ((∃ w d', (InPlace.placeNew id kind title).on d = (.ok w, d')) ↔
      kind ≠ .table ∧ (d.nextFree kind.defaultSize.1 kind.defaultSize.2).isSome = true) ∧
    (∀ w d', (InPlace.placeNew id kind title).on d = (.ok w, d') →
      ∃ position, d.nextFree kind.defaultSize.1 kind.defaultSize.2 = some position ∧
        w = ⟨id, kind, title, kind.defaultConfig, none, position⟩ ∧
        d' = d.withNew id kind title position) ∧
    ∀ refusal d', (InPlace.placeNew id kind title).on d = (.error refusal, d') → d' = d ∧
      (refusal = .noFreeSlot kind.defaultSize.1 kind.defaultSize.2 d.id ∨
        kind = .table ∧ refusal = .invalid .noColumns) := by
  cases found : d.nextFree kind.defaultSize.1 kind.defaultSize.2 with
  | none =>
    rw [on_placeNew_of_none found]
    refine ⟨by simp, by simp, ?_⟩
    rintro _ _ ⟨⟩
    exact ⟨rfl, .inl rfl⟩
  | some position =>
    rw [on_placeNew_of_some fresh found]
    by_cases table : kind = .table
    · rw [if_pos table]
      refine ⟨by simp [table], by simp, ?_⟩
      rintro _ _ ⟨⟩
      exact ⟨rfl, .inr ⟨table, rfl⟩⟩
    · rw [if_neg table]
      refine ⟨by simp [table], ?_, by simp⟩
      rintro _ _ ⟨⟩
      exact ⟨position, rfl, rfl, rfl⟩

theorem placeNew_placed_noteBoard :
    "load" ∉ noteBoard.widgets.map Widget.id ∧
      (InPlace.placeNew "load" .chart "Load").on noteBoard =
        (.ok (.ofKind "load" .chart "Load" ⟨4, 0, 6, 4⟩),
          noteBoard.withNew "load" .chart "Load" ⟨4, 0, 6, 4⟩) ∧
      ((InPlace.placeNew "load" .table "Load").on noteBoard).2 = noteBoard := by
  have fresh : "load" ∉ noteBoard.widgets.map Widget.id := by decide
  have found : noteBoard.nextFree WidgetKind.chart.defaultSize.1 WidgetKind.chart.defaultSize.2 =
      some ⟨4, 0, 6, 4⟩ := by decide +kernel
  refine ⟨fresh, ?_, ?_⟩
  · obtain ⟨placed, made, -⟩ := placeNew_placed noteBoard "load" "Load" .chart fresh
    obtain ⟨w, d', run⟩ := placed.mpr ⟨by decide, by rw [found]; rfl⟩
    obtain ⟨position, found', rfl, rfl⟩ := made w d' run
    cases found.symm.trans found'
    exact run
  · exact ((placeNew_placed noteBoard "load" "Load" .table fresh).2.2 _ _ rfl).1

/-- There is a free place for a table, but no table is placed. -/
theorem placeNew_refuses_table :
    (∀ w ∈ noteBoard.widgets, noteBoard.layout.grid.fits w.position = true) ∧
      "jobs" ∉ noteBoard.widgets.map Widget.id ∧
      (noteBoard.nextFree WidgetKind.table.defaultSize.1 WidgetKind.table.defaultSize.2).isSome =
        true ∧
      ((InPlace.placeNew "jobs" .table "Jobs").on noteBoard).1 = .error (.invalid .noColumns) := by
  refine ⟨by decide, by decide, by decide +kernel, rfl⟩

end PlaceNew

end Dashboard

end ControlPanel
