import ControlPanel.Proofs.Dashboard.Correspondence
import ControlPanel.Proofs.Dashboard.InPlace

/-!
# What the list of issues tells

A widget whose id was met before is listed as a repeated one and not looked at any further, and of
the layout entries with the id of a widget only the first one is compared with it. So how often each
issue is listed depends on the first widget and the first entry with an id
(`Dashboard.issues_thorough`), and all that is wrong is listed of ids that are not repeated.
`Dashboard.syncLayout_exact`: when the layout has been rebuilt, of the old issues those are left
that have nothing to do with it.
-/

namespace ControlPanel

namespace Dashboard

/-! ## The issues of widgets -/

section Widgets

variable {l : Layout} {w : Widget} {ws : List Widget} {seen : List String} {id : String}
  {i : LayoutIssue}

theorem mem_widgetIssues_iff : i ∈ widgetIssues l w ↔
    i = .missingLayoutEntry w.id ∧ l.entry? w.id = none ∨
      i = .positionMismatch w.id ∧ (∃ e ∈ l.entry? w.id, e.position ≠ w.position) ∨
      i = .outOfBounds w.id ∧ l.grid.fits w.position = false := by
  simp only [widgetIssues, entryIssues]
  cases l.entry? w.id with
  | none => cases l.grid.fits w.position <;> simp
  | some e =>
    by_cases same : e.position = w.position <;> cases l.grid.fits w.position <;> simp [same]

theorem nodup_widgetIssues : (widgetIssues l w).Nodup := by
  simp only [widgetIssues, entryIssues]
  cases l.entry? w.id with
  | none => cases l.grid.fits w.position <;> simp
  | some e =>
    by_cases same : e.position = w.position <;> cases l.grid.fits w.position <;> simp [same]

theorem count_widgetIssues :
    (widgetIssues l w).count i = if i ∈ widgetIssues l w then 1 else 0 :=
  nodup_widgetIssues.count

theorem id_of_mem_widgetIssues (listed : i ∈ widgetIssues l w) : i.id = w.id := by
  rcases mem_widgetIssues_iff.mp listed with ⟨rfl, -⟩ | ⟨rfl, -⟩ | ⟨rfl, -⟩ <;> rfl

theorem count_duplicate_widgetsIssues : (widgetsIssues l seen ws).count (.duplicateWidget id) =
    (ws.map Widget.id).count id - if id ∈ seen then 0 else 1 := by
  induction ws generalizing seen with
  | nil => simp [widgetsIssues]
  | cons w ws ih =>
    have unlisted : (widgetIssues l w).count (.duplicateWidget id) = 0 := by
      simp [count_widgetIssues, mem_widgetIssues_iff]
    rw [widgetsIssues, List.map_cons, List.count_cons]
    by_cases same : w.id = id
    · subst same
      split <;> simp [*]
    · split <;> simp [ih, unlisted, same, Ne.symm same]

/-- Any other issue is listed if the first widget with its id has it. -/
theorem count_widgetsIssues (other : i ≠ .duplicateWidget i.id) :
    (widgetsIssues l seen ws).count i =
      if i.id ∉ seen ∧ ∃ w ∈ ws.find? (fun v : Widget => v.id = i.id), i ∈ widgetIssues l w
        then 1 else 0 := by
  induction ws generalizing seen with
  | nil => simp [widgetsIssues]
  | cons w ws ih =>
    have unequal : LayoutIssue.duplicateWidget w.id ≠ i := by
      rintro rfl
      exact other rfl
    rw [widgetsIssues]
    by_cases same : w.id = i.id
    · rw [List.find?_cons_of_pos (by simpa using same)]
      split
      · rw [List.count_cons_of_ne unequal, ih]
        simp_all
      · rw [List.count_append, ih, count_widgetIssues]
        simp_all
    · rw [List.find?_cons_of_neg (by simpa using same)]
      split
      · rw [List.count_cons_of_ne unequal, ih]
      · have unlisted : i ∉ widgetIssues l w := mt id_of_mem_widgetIssues (Ne.symm same)
        rw [List.count_append, ih, count_widgetIssues]
        simp [unlisted, Ne.symm same]

end Widgets

/-! ## How often an issue is listed -/

section Counts

variable {d : Dashboard} {id : String} {i : LayoutIssue}

theorem count_orphanIssues : d.orphanIssues.count (.orphanLayoutEntry id) =
    if id ∈ d.widgets.map Widget.id then 0
    else (d.layout.entries.map LayoutEntry.id).count id := by
  simp only [← widget?_isSome_iff, orphanIssues, List.count_eq_countP, List.countP_map,
    List.countP_filter]
  split
  · apply List.countP_eq_zero.mpr
    rintro e -
    simp only [Function.comp_apply, Bool.and_eq_true, beq_iff_eq,
      LayoutIssue.orphanLayoutEntry.injEq]
    rintro ⟨rfl, missing⟩
    simp_all
  · rename_i missing
    apply List.countP_congr
    rintro e -
    simp only [Function.comp_apply, Bool.and_eq_true, beq_iff_eq,
      LayoutIssue.orphanLayoutEntry.injEq, and_iff_left_iff_imp]
    rintro rfl
    simpa using missing

theorem count_orphanIssues_of_ne (other : i ≠ .orphanLayoutEntry i.id) :
    d.orphanIssues.count i = 0 := by
  apply List.count_eq_zero.mpr
  intro listed
  obtain ⟨e, -, rfl⟩ := List.mem_map.mp listed
  exact other rfl

theorem count_issues_of_widget {P : Widget → Prop} [DecidablePred P] (own : i.id = id)
    (other : i ≠ .duplicateWidget id) (other' : i ≠ .orphanLayoutEntry id)
    (wrong : ∀ w, w.id = id → (i ∈ widgetIssues d.layout w ↔ P w)) :
    d.issues.count i = if ∃ w ∈ d.widget? id, P w then 1 else 0 := by
  subst own
  rw [issues, List.count_append, count_widgetsIssues other, count_orphanIssues_of_ne other']
  apply if_congr _ rfl rfl
  simp only [List.not_mem_nil, not_false_eq_true, true_and]
  apply exists_congr
  intro w
  apply and_congr_right
  intro found
  exact wrong w (by simpa using List.find?_some found)

theorem count_duplicateWidget (d : Dashboard) (id : String) :
    d.issues.count (.duplicateWidget id) = (d.widgets.map Widget.id).count id - 1 := by
  rw [issues, List.count_append, count_duplicate_widgetsIssues,
    count_orphanIssues_of_ne (by simp)]
  simp

theorem count_missingLayoutEntry (d : Dashboard) (id : String) :
    d.issues.count (.missingLayoutEntry id) =
      if id ∈ d.widgets.map Widget.id ∧ id ∉ d.layout.entries.map LayoutEntry.id
        then 1 else 0 := by
  rw [count_issues_of_widget (P := fun _ => id ∉ d.layout.entries.map LayoutEntry.id) rfl
    (by simp) (by simp)]
  · apply if_congr _ rfl rfl
    rw [← widget?_isSome_iff, Option.isSome_iff_exists]
    exact exists_and_right
  · rintro w rfl
    rw [mem_ids_iff_find?, ← Layout.entry?]
    simp [mem_widgetIssues_iff]

theorem count_orphanLayoutEntry (d : Dashboard) (id : String) :
    d.issues.count (.orphanLayoutEntry id) =
      if id ∈ d.widgets.map Widget.id then 0
      else (d.layout.entries.map LayoutEntry.id).count id := by
  rw [issues, List.count_append, count_orphanIssues, count_widgetsIssues (by simp)]
  simp [mem_widgetIssues_iff]

theorem count_outOfBounds (d : Dashboard) (id : String) :
    d.issues.count (.outOfBounds id) =
      if ∃ w ∈ d.widget? id, d.layout.grid.fits w.position = false then 1 else 0 := by
  apply count_issues_of_widget rfl (by simp) (by simp)
  rintro w rfl
  simp [mem_widgetIssues_iff]

theorem count_positionMismatch (d : Dashboard) (id : String) :
    d.issues.count (.positionMismatch id) =
      if ∃ w ∈ d.widget? id, ∃ e ∈ d.layout.entry? id, e.position ≠ w.position
        then 1 else 0 := by
  apply count_issues_of_widget rfl (by simp) (by simp)
  rintro w rfl
  simp [mem_widgetIssues_iff]

theorem mem_issues_iff {P : Prop} [Decidable P]
    (counted : d.issues.count i = if P then 1 else 0) : i ∈ d.issues ↔ P := by
  rw [← List.count_pos_iff, counted]
  split <;> simp [*]

end Counts

/-! ## What is listed, and what is not -/

def Strays (d : Dashboard) (id : String) : Prop :=
  ∃ w ∈ d.widgets, w.id = id ∧ d.layout.grid.fits w.position = false

def Differs (d : Dashboard) (id : String) : Prop :=
  ∃ w ∈ d.widgets, ∃ e ∈ d.layout.entries, w.id = id ∧ e.id = id ∧ e.position ≠ w.position

section Listed

variable {d : Dashboard} {id : String}

instance : Decidable (d.Strays id) := inferInstanceAs (Decidable (∃ w ∈ d.widgets, _))

instance : Decidable (d.Differs id) :=
  inferInstanceAs (Decidable (∃ w ∈ d.widgets, ∃ e ∈ d.layout.entries, _))

theorem mem_outOfBounds_iff (once : (d.widgets.map Widget.id).count id ≤ 1) :
    .outOfBounds id ∈ d.issues ↔ d.Strays id := by
  rw [mem_issues_iff (d.count_outOfBounds id)]
  simp only [widget?, mem_find?_iff once, and_assoc]
  rfl

theorem mem_positionMismatch_iff (once : (d.widgets.map Widget.id).count id ≤ 1)
    (once' : (d.layout.entries.map LayoutEntry.id).count id ≤ 1) :
    .positionMismatch id ∈ d.issues ↔ d.Differs id := by
  rw [mem_issues_iff (d.count_positionMismatch id)]
  simp only [widget?, mem_find?_iff once, Layout.entry?, mem_find?_iff once']
  constructor
  · rintro ⟨w, ⟨listed, own⟩, e, ⟨listed', own'⟩, apart⟩
    exact ⟨w, listed, e, listed', own, own', apart⟩
  · rintro ⟨w, listed, e, listed', own, own', apart⟩
    exact ⟨w, ⟨listed, own⟩, e, ⟨listed', own'⟩, apart⟩

/-- How often each issue of an id is listed. That a widget does not fit, or has another position
than an entry, is told of the first ones, and so of all if the id is not repeated. -/
theorem issues_thorough (d : Dashboard) (id : String) :
    d.issues.count (.duplicateWidget id) = (d.widgets.map Widget.id).count id - 1 ∧
    d.issues.count (.missingLayoutEntry id) =
      (if id ∈ d.widgets.map Widget.id ∧ id ∉ d.layout.entries.map LayoutEntry.id
        then 1 else 0) ∧
    d.issues.count (.orphanLayoutEntry id) =
      (if id ∈ d.widgets.map Widget.id then 0
        else (d.layout.entries.map LayoutEntry.id).count id) ∧
    d.issues.count (.outOfBounds id) =
      (if ∃ w ∈ d.widget? id, d.layout.grid.fits w.position = false then 1 else 0) ∧
    d.issues.count (.positionMismatch id) =
      (if ∃ w ∈ d.widget? id, ∃ e ∈ d.layout.entry? id, e.position ≠ w.position
        then 1 else 0) ∧
    ((d.widgets.map Widget.id).count id ≤ 1 →
      (.outOfBounds id ∈ d.issues ↔ d.Strays id) ∧
      ((d.layout.entries.map LayoutEntry.id).count id ≤ 1 →
        (.positionMismatch id ∈ d.issues ↔ d.Differs id))) := by
  refine ⟨d.count_duplicateWidget id, d.count_missingLayoutEntry id,
    d.count_orphanLayoutEntry id, d.count_outOfBounds id, d.count_positionMismatch id, ?_⟩
  intro once
  exact ⟨mem_outOfBounds_iff once, mem_positionMismatch_iff once⟩

def twinBoard : Dashboard :=
  { noteBoard with
    widgets := [.ofKind "note" .text "Note" ⟨0, 0, 4, 2⟩,
      .ofKind "note" .text "Draft" ⟨12, 0, 4, 2⟩, .ofKind "load" .chart "Load" ⟨6, 6, 6, 4⟩]
    layout := ⟨.default, .auto, [⟨"note", ⟨0, 0, 4, 2⟩⟩, ⟨"load", ⟨6, 0, 6, 4⟩⟩]⟩ }

theorem issues_thorough_twinBoard :
    (twinBoard.widgets.map Widget.id).count "load" ≤ 1 ∧
      (twinBoard.layout.entries.map LayoutEntry.id).count "load" ≤ 1 ∧
      .outOfBounds "load" ∈ twinBoard.issues ∧ .positionMismatch "load" ∈ twinBoard.issues ∧
      twinBoard.issues.count (.duplicateWidget "note") = 1 := by
  have once : (twinBoard.widgets.map Widget.id).count "load" ≤ 1 := by decide
  have once' : (twinBoard.layout.entries.map LayoutEntry.id).count "load" ≤ 1 := by decide
  obtain ⟨strays, differs⟩ := (issues_thorough twinBoard "load").2.2.2.2.2 once
  refine ⟨once, once', strays.mpr (by decide), (differs once').mpr (by decide), ?_⟩
  exact (issues_thorough twinBoard "note").1

/-- What is wrong with a second widget or a second entry is not listed. -/
theorem issues_twinBoard :
    (twinBoard.Strays "note" ∧ .outOfBounds "note" ∉ twinBoard.issues) ∧
      (twinBoard.Differs "note" ∧ .positionMismatch "note" ∉ twinBoard.issues) ∧
      crowdedBoard.Differs "note" ∧ .positionMismatch "note" ∉ crowdedBoard.issues := by
  decide

end Listed

/-! ## Rebuilding the layout -/

end Dashboard

def LayoutIssue.isOfWidget : LayoutIssue → Bool
  | duplicateWidget _ | outOfBounds _ => true
  | missingLayoutEntry _ | orphanLayoutEntry _ | positionMismatch _ => false

namespace Dashboard

section Synced

variable {l l' : Layout} {w : Widget} {ws : List Widget} {seen : List String} {d : Dashboard}

theorem filter_entryIssues : (entryIssues l w).filter LayoutIssue.isOfWidget = [] := by
  unfold entryIssues
  cases l.entry? w.id with
  | none => rfl
  | some e => by_cases same : e.position = w.position <;> simp [same, LayoutIssue.isOfWidget]

theorem filter_widgetIssues (grid : l'.grid = l.grid)
    (placed : l'.entry? w.id = some (.ofWidget w)) :
    (widgetIssues l w).filter LayoutIssue.isOfWidget = widgetIssues l' w := by
  rw [widgetIssues, widgetIssues, (entryIssues_eq_nil_iff l' w).mpr placed, List.filter_append,
    filter_entryIssues, grid]
  cases l.grid.fits w.position <;> rfl

theorem filter_widgetsIssues (grid : l'.grid = l.grid)
    (placed : ∀ w, ws.find? (fun v => v.id = w.id) = some w → w.id ∉ seen →
      l'.entry? w.id = some (.ofWidget w)) :
    (widgetsIssues l seen ws).filter LayoutIssue.isOfWidget = widgetsIssues l' seen ws := by
  induction ws generalizing seen with
  | nil => rfl
  | cons w ws ih =>
    have later {v : Widget} (other : v.id ≠ w.id) (found : ws.find? (·.id = v.id) = some v) :
        (w :: ws).find? (·.id = v.id) = some v := by
      rwa [List.find?_cons_of_neg (by simpa using other.symm)]
    unfold widgetsIssues
    split
    · rename_i repeated
      rw [List.filter_cons_of_pos rfl, ih]
      intro v found fresh
      have other : v.id ≠ w.id := fun same => fresh (same ▸ repeated)
      exact placed v (later other found) fresh
    · rename_i fresh
      have first : l'.entry? w.id = some (.ofWidget w) :=
        placed w (List.find?_cons_of_pos (by simp)) fresh
      rw [List.filter_append, filter_widgetIssues grid first, ih]
      intro v found unseen
      obtain ⟨other, unseen⟩ := List.ne_and_not_mem_of_not_mem_cons unseen
      exact placed v (later other found) unseen

theorem filter_orphanIssues : d.orphanIssues.filter LayoutIssue.isOfWidget = [] := by
  apply List.filter_eq_nil_iff.mpr
  intro i listed
  obtain ⟨e, -, rfl⟩ := List.mem_map.mp listed
  exact Bool.false_ne_true

theorem entry?_syncLayout (first : d.widget? w.id = some w) :
    d.syncLayout.layout.entry? w.id = some (.ofWidget w) := by
  have lookup : d.syncLayout.layout.entry? w.id = (d.widget? w.id).map LayoutEntry.ofWidget :=
    List.find?_map
  rw [lookup, first]
  rfl

theorem orphanIssues_syncLayout : d.syncLayout.orphanIssues = [] := by
  rw [orphanIssues_eq_nil_iff]
  intro e listed
  obtain ⟨w, widget, rfl⟩ := List.mem_map.mp listed
  exact List.mem_map_of_mem widget

theorem issues_syncLayout : d.syncLayout.issues = d.issues.filter LayoutIssue.isOfWidget := by
  have widgets : (widgetsIssues d.layout [] d.widgets).filter LayoutIssue.isOfWidget =
      widgetsIssues d.syncLayout.layout [] d.widgets := by
    have grid : d.syncLayout.layout.grid = d.layout.grid := rfl
    apply filter_widgetsIssues grid
    intro w first _
    exact entry?_syncLayout first
  rw [issues, issues, List.filter_append, widgets, filter_orphanIssues, orphanIssues_syncLayout]
  rfl

theorem syncLayout_exact (d : Dashboard) :
    InPlace.syncLayout.on d = (.ok (), d.syncLayout) ∧
      d.syncLayout.issues = d.issues.filter LayoutIssue.isOfWidget ∧
      d.syncLayout = { d with layout := { d.layout with entries := d.places } } ∧
      d.syncLayout.syncLayout = d.syncLayout ∧
      ∀ entries : List LayoutEntry,
        ({ d with layout := { d.layout with entries } } : Dashboard).syncLayout = d.syncLayout :=
  ⟨rfl, issues_syncLayout, rfl, rfl, fun _ => rfl⟩

example :
    twinBoard.issues = [.duplicateWidget "note", .positionMismatch "load", .outOfBounds "load"] ∧
      twinBoard.syncLayout.issues = [.duplicateWidget "note", .outOfBounds "load"] := by
  decide

end Synced

end Dashboard

end ControlPanel
