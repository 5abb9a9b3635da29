import ControlPanel.Proofs.Dashboard.Change

/-!
# Edits of different widgets commute

Two edits of different widgets touch different items of both lists, and neither looks at what the
other one touches. So on a consistent dashboard it does not matter which comes first
(`Dashboard.perform_comm`). Without layout entries it does: those that are missing are appended in
the order of the edits.
-/

namespace ControlPanel

theorem differs_of_ne {α : Type} {id : α → String} {a b : String} (differ : a ≠ b) (item : α) :
    decide (id item = a) = true → ¬ decide (id item = b) = true := by
  simp only [decide_eq_true_eq]
  rintro rfl
  exact differ

namespace Change

variable {a b : String} {es : List LayoutEntry}

theorem widget_differs (differ : a ≠ b) (c : Change) (w : Widget) (own : decide (w.id = a) = true) :
    ∀ w' ∈ c.widget w, ¬ decide (w'.id = b) = true := by
  intro w' made
  rw [id_of_mem_widget made]
  exact differs_of_ne differ w own

theorem mem_ids_entries (differ : a ≠ b) (listed : a ∈ es.map LayoutEntry.id) (c : Change) :
    a ∈ (c.entries b es).map LayoutEntry.id := by
  obtain ⟨e, mem, rfl⟩ := List.mem_map.mp listed
  have other : e ∈ es.filter (·.id ≠ b) := List.mem_filter.mpr ⟨mem, by simpa using differ⟩
  rw [← c.filter_entries_self] at other
  exact List.mem_map_of_mem (List.mem_filter.mp other).1

theorem entries_position_of_mem (listed : a ∈ es.map LayoutEntry.id) (p : Position) :
    (position p).entries a es =
      alterFirst (·.id = a) (fun e => some { e with position := p }) es := by
  rw [entries, Dashboard.setEntry_of_mem listed, Dashboard.modifyFirst_eq_alterFirst]

theorem entries_position_position (differ : a ≠ b) (listed : a ∈ es.map LayoutEntry.id)
    (listed' : b ∈ es.map LayoutEntry.id) (p p' : Position) :
    (position p).entries a ((position p').entries b es) =
      (position p').entries b ((position p).entries a es) := by
  rw [entries_position_of_mem (mem_ids_entries differ listed (position p')),
    entries_position_of_mem (mem_ids_entries differ.symm listed' (position p)),
    entries_position_of_mem listed, entries_position_of_mem listed']
  apply alterFirst_comm
  · exact differs_of_ne differ
  · rintro e own _ ⟨⟩
    exact differs_of_ne differ e own
  · rintro e own _ ⟨⟩
    exact differs_of_ne differ.symm e own

theorem entries_position_removal (differ : a ≠ b) (listed : a ∈ es.map LayoutEntry.id)
    (p : Position) : (position p).entries a (removal.entries b es) =
      removal.entries b ((position p).entries a es) := by
  rw [entries_position_of_mem listed,
    entries_position_of_mem (mem_ids_entries differ listed removal)]
  have kept (e : LayoutEntry) (own : decide (e.id = a) = true) : decide (e.id ≠ b) = true := by
    simpa using differs_of_ne differ e own
  refine (filter_alterFirst_of_kept kept ?_).symm
  rintro e own _ ⟨⟩
  exact kept e own

theorem entries_comm (differ : a ≠ b) (listed : a ∈ es.map LayoutEntry.id)
    (listed' : b ∈ es.map LayoutEntry.id) (c c' : Change) :
    c.entries a (c'.entries b es) = c'.entries b (c.entries a es) := by
  -- two appended entries would stay in the order of the edits: that both are listed is needed here
  match c, c' with
  | config _, _ | _, config _ => rfl
  | position p, position p' => exact entries_position_position differ listed listed' p p'
  | position p, removal => exact entries_position_removal differ listed p
  | removal, position p => exact (entries_position_removal differ.symm listed' p).symm
  | removal, removal => simp only [entries, List.filter_filter, Bool.and_comm]

end Change

namespace Dashboard

variable {d : Dashboard} {e : Edit} {a b : String}

theorem widget?_alter_of_ne (differ : a ≠ b) (c : Change) :
    (d.alter b c).widget? a = d.widget? a :=
  find?_alterFirst_of_disjoint (differs_of_ne differ.symm) (c.widget_differs differ.symm)

theorem alter_comm (differ : a ≠ b) (listed : a ∈ d.layout.entries.map LayoutEntry.id)
    (listed' : b ∈ d.layout.entries.map LayoutEntry.id) (c c' : Change) :
    (d.alter b c').alter a c = (d.alter a c).alter b c' := by
  have widgets : ((d.alter b c').alter a c).widgets = ((d.alter a c).alter b c').widgets :=
    alterFirst_comm (differs_of_ne differ) (c.widget_differs differ)
      (c'.widget_differs differ.symm)
  have entries := Change.entries_comm differ listed listed' c c'
  simp only [alter] at widgets ⊢
  rw [widgets, entries]

theorem listed_of_found (consistent : d.issues = []) {w : Widget} (found : d.widget? a = some w) :
    a ∈ d.layout.entries.map LayoutEntry.id := by
  have agree : d.Consistent := (issues_eq_nil_iff d).mp consistent
  refine (Agree.mem_ids_iff agree).mpr ?_
  rw [map_id_places]
  exact mem_ids_of_widget? found

/-- The effect of an edit on the dashboards with a given first widget of an id: none, or a change
of that widget if there is one. -/
def Effect (id : String) (found : Option Widget) (f : Dashboard → Dashboard) : Prop :=
  (∀ d, f d = d) ∨ ∃ w c, found = some w ∧ ∀ d, f d = d.alter id c

theorem perform_effect (meant : e.target? = some a) (grid : Grid) (found : Option Widget) :
    ∃ r f, Effect a found f ∧ ∀ d : Dashboard, d.layout.grid = grid → d.widget? a = found →
      e.perform.on d = (r, f d) := by
  simp only [on_perform]
  obtain ⟨refusal, refused⟩ | ⟨w, c, owned, -, done⟩ := respond_local meant grid found
  · refine ⟨.error refusal, fun d => d, .inl fun _ => rfl, fun d same same' => ?_⟩
    rw [refused d same same']
    rfl
  · refine ⟨.ok (c.answer w), fun d => d.alter a c, .inr ⟨w, c, owned, fun _ => rfl⟩,
      fun d same same' => ?_⟩
    rw [done d same same']
    rfl

theorem Effect.unseen {found : Option Widget} {f : Dashboard → Dashboard}
    (effect : Effect b found f) (differ : a ≠ b) (d : Dashboard) :
    (f d).layout.grid = d.layout.grid ∧ (f d).widget? a = d.widget? a := by
  obtain idle | ⟨w, c, _, alters⟩ := effect
  · rw [idle]
    exact ⟨rfl, rfl⟩
  · rw [alters]
    exact ⟨rfl, widget?_alter_of_ne differ c⟩

theorem Effect.comm {f g : Dashboard → Dashboard} (effect : Effect a (d.widget? a) f)
    (effect' : Effect b (d.widget? b) g) (differ : a ≠ b) (consistent : d.issues = []) :
    f (g d) = g (f d) := by
  obtain idle | ⟨w, c, found, alters⟩ := effect
  · rw [idle, idle]
  · obtain idle | ⟨w', c', found', alters'⟩ := effect'
    · rw [idle, idle]
    · rw [alters, alters, alters', alters']
      exact alter_comm differ (listed_of_found consistent found)
        (listed_of_found consistent found') c c'

theorem perform_comm (d : Dashboard) (consistent : d.issues = []) {A B : Edit} {a b : String}
    (onA : A.target? = some a) (onB : B.target? = some b) (differ : a ≠ b) :
    (A.perform.on (B.perform.on d).2).2 = (B.perform.on (A.perform.on d).2).2 ∧
      (A.perform.on (B.perform.on d).2).1 = (A.perform.on d).1 ∧
      (B.perform.on (A.perform.on d).2).1 = (B.perform.on d).1 := by
  obtain ⟨r, f, effect, runA⟩ := perform_effect onA d.layout.grid (d.widget? a)
  obtain ⟨r', g, effect', runB⟩ := perform_effect onB d.layout.grid (d.widget? b)
  -- neither edit changes what the other one looks at, so each does the same in both orders
  obtain ⟨gridA, widgetA⟩ := effect'.unseen differ d
  obtain ⟨gridB, widgetB⟩ := effect.unseen differ.symm d
  rw [runA d rfl rfl, runB d rfl rfl, runA (g d) gridA widgetA, runB (f d) gridB widgetB]
  exact ⟨effect.comm effect' differ consistent, rfl, rfl⟩

def pairBoard : Dashboard :=
  { noteBoard with
    widgets := [.ofKind "note" .text "Note" ⟨0, 0, 4, 2⟩, .ofKind "load" .chart "Load" ⟨4, 0, 6, 4⟩]
    layout := ⟨.default, .auto, [⟨"load", ⟨4, 0, 6, 4⟩⟩, ⟨"note", ⟨0, 0, 4, 2⟩⟩]⟩ }

theorem perform_comm_pairBoard :
    let move : Edit := .move "note" 0 6
    let remove : Edit := .remove "load"
    pairBoard.issues = [] ∧ move.target? = some "note" ∧ remove.target? = some "load" ∧
      "note" ≠ "load" ∧
      (move.perform.on (remove.perform.on pairBoard).2).2.positions = [⟨0, 6, 4, 2⟩] ∧
      (move.perform.on (remove.perform.on pairBoard).2).2 =
        (remove.perform.on (move.perform.on pairBoard).2).2 ∧
      (remove.perform.on (move.perform.on pairBoard).2).1 =
        .ok (some (.ofKind "load" .chart "Load" ⟨4, 0, 6, 4⟩)) := by
  intro move remove
  have consistent : pairBoard.issues = [] := by decide
  have differ : "note" ≠ "load" := by decide
  obtain ⟨same, -, answered⟩ :=
    perform_comm pairBoard consistent (A := move) (B := remove) rfl rfl differ
  exact ⟨consistent, rfl, rfl, differ, rfl, same, answered.trans rfl⟩

example :
    let bare : Dashboard := { pairBoard with layout := ⟨.default, .auto, []⟩ }
    let first := bare.history [.move "note" 0 6, .move "load" 6 0]
    let second := bare.history [.move "load" 6 0, .move "note" 0 6]
    first.getLast?.map (·.layout.entries.map LayoutEntry.id) = some ["note", "load"] ∧
      second.getLast?.map (·.layout.entries.map LayoutEntry.id) = some ["load", "note"] := by
  decide

end Dashboard

end ControlPanel
