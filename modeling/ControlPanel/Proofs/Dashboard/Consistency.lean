import ControlPanel.Dashboard.Consistency

/-!
# What an empty list of issues means

`Dashboard.issues_eq_nil_iff`: a dashboard has no issues if and only if its widgets have different
ids and fit the grid, the first layout entry with the id of a widget has the position of the
widget, and every layout entry has the id of some widget.
-/

namespace ControlPanel

namespace Dashboard

def places (d : Dashboard) : List LayoutEntry := d.widgets.map LayoutEntry.ofWidget

/-- The entries of a layout agree with the places of the widgets. Of entries with the same id only
the first one counts. -/
structure Agree (grid : Grid) (places entries : List LayoutEntry) : Prop where
  distinct : (places.map LayoutEntry.id).Nodup
  fits : ∀ p ∈ places, grid.fits p.position = true
  placed : ∀ p ∈ places, entries.find? (·.id = p.id) = some p
  owned : ∀ e ∈ entries, e.id ∈ places.map LayoutEntry.id

def Consistent (d : Dashboard) : Prop := Agree d.layout.grid d.places d.layout.entries

theorem map_id_places (d : Dashboard) :
    d.places.map LayoutEntry.id = d.widgets.map Widget.id := by
  simp [places, Function.comp_def, LayoutEntry.ofWidget]

theorem entryIssues_eq_nil_iff (l : Layout) (w : Widget) :
    entryIssues l w = [] ↔ l.entry? w.id = some (.ofWidget w) := by
  unfold entryIssues
  cases found : l.entry? w.id with
  | none => simp
  | some entry =>
    have same : entry.id = w.id := by simpa using List.find?_some found
    cases entry
    simp_all [LayoutEntry.ofWidget]

theorem widgetIssues_eq_nil_iff (l : Layout) (w : Widget) :
    widgetIssues l w = [] ↔
      l.entry? w.id = some (.ofWidget w) ∧ l.grid.fits w.position = true := by
  simp [widgetIssues, entryIssues_eq_nil_iff]

theorem widgetsIssues_eq_nil_iff (l : Layout) (seen : List String) (ws : List Widget) :
    widgetsIssues l seen ws = [] ↔
      (ws.map Widget.id).Nodup ∧ (∀ w ∈ ws, w.id ∉ seen) ∧ ∀ w ∈ ws, widgetIssues l w = [] := by
  induction ws generalizing seen with
  | nil => simp [widgetsIssues]
  | cons w ws ih =>
    unfold widgetsIssues
    split
    · simp_all
    · rw [List.append_eq_nil_iff, ih]
      simp only [List.map_cons, List.nodup_cons, List.mem_cons, List.mem_map]
      grind

theorem widget?_isSome_iff (d : Dashboard) (id : String) :
    (d.widget? id).isSome = true ↔ id ∈ d.widgets.map Widget.id := by
  simp [widget?]

theorem orphanIssues_eq_nil_iff (d : Dashboard) :
    d.orphanIssues = [] ↔ ∀ e ∈ d.layout.entries, e.id ∈ d.widgets.map Widget.id := by
  simp only [orphanIssues, List.map_eq_nil_iff, List.filter_eq_nil_iff,
    ← widget?_isSome_iff, Option.isNone_iff_eq_none, Option.isSome_iff_ne_none, ne_eq]

theorem issues_eq_nil_iff (d : Dashboard) : d.issues = [] ↔ d.Consistent := by
  rw [issues, List.append_eq_nil_iff, widgetsIssues_eq_nil_iff, orphanIssues_eq_nil_iff]
  simp only [widgetIssues_eq_nil_iff, ← map_id_places]
  constructor
  · rintro ⟨⟨distinct, _, good⟩, owned⟩
    refine ⟨distinct, ?_, ?_, owned⟩ <;> intro p mem <;>
      obtain ⟨w, widget, rfl⟩ := List.mem_map.mp mem
    · exact (good w widget).2
    · exact (good w widget).1
  · intro h
    refine ⟨⟨h.distinct, by simp, fun w mem => ?_⟩, h.owned⟩
    have place : LayoutEntry.ofWidget w ∈ d.places := List.mem_map_of_mem mem
    exact ⟨h.placed _ place, h.fits _ place⟩

end Dashboard

end ControlPanel
