import ControlPanel.Proofs.Dashboard.InPlace
import ControlPanel.Proofs.Dashboard.Placement

/-!
# What an edit leaves alone

Every edit of a widget makes one `Change`: of the first widget with its id, and of the layout
entries with that id. Which change it makes, and whether it is refused, depends on the grid and on
that widget alone (`Dashboard.respond_local`). `Dashboard.perform_framed`: whatever the dashboard
is, an edit that is refused leaves it as it was, and one that is accepted leaves alone all but the
widget that is meant and the entries with its id.
-/

namespace ControlPanel

inductive Change where
  | position (position : Position)
  | config (config : Members)
  | removal

namespace Change

def widget (w : Widget) : Change → Option Widget
  | position p => some { w with position := p }
  | config values => some { w with config := values }
  | removal => none

def entries (id : String) (es : List LayoutEntry) : Change → List LayoutEntry
  | position p => Dashboard.setEntry es id p
  | config _ => es
  | removal => es.filter (·.id ≠ id)

def check (grid : Grid) (w : Widget) : Change → Except Refusal Unit
  | position p => grid.validate p
  | config values => w.kind.validateConfig values
  | removal => .ok ()

def answer (w : Widget) : Change → Option Widget
  | position _ | config _ => none
  | removal => some w

theorem id_of_mem_widget {c : Change} {w w' : Widget} (made : w' ∈ c.widget w) : w'.id = w.id := by
  cases c with
  | position | config =>
    cases made
    rfl
  | removal => cases made

theorem filter_entries_self (c : Change) {id : String} {es : List LayoutEntry} :
    (c.entries id es).filter (·.id ≠ id) = es.filter (·.id ≠ id) := by
  cases c with
  | position p =>
    rw [entries, Dashboard.setEntry]
    split
    · rw [Dashboard.modifyFirst_eq_alterFirst]
      apply filter_alterFirst_of_dropped
      · simp
      · simp
    · simp
  | config => rfl
  | removal => simp [entries]

end Change

namespace Edit

def target? : Edit → Option String
  | move id .. | resize id .. | setPosition id _ | updateConfig id _ | remove id => some id
  | add _ | placeNew .. | sync => none

def subject? : Edit → Option String
  | add w => some w.id
  | placeNew id .. => some id
  | e => e.target?

def change? (w : Widget) : Edit → Option Change
  | move _ x y => some (.position ⟨x, y, w.position.width, w.position.height⟩)
  | resize _ width height => some (.position ⟨w.position.x, w.position.y, width, height⟩)
  | setPosition _ position => some (.position position)
  | updateConfig _ config => some (.config config)
  | remove _ => some .removal
  | add _ | placeNew .. | sync => none

theorem exists_change? {e : Edit} {id : String} (meant : e.target? = some id) (w : Widget) :
    ∃ c, e.change? w = some c := by
  cases e with
  | add | placeNew | sync => cases meant
  | move | resize | setPosition | updateConfig | remove => exact ⟨_, rfl⟩

inductive Rewrites : Edit → List Widget → List Widget → Option Widget → Prop
  | add (w : Widget) (widgets : List Widget) : Rewrites (.add w) widgets (widgets ++ [w]) none
  | placeNew (id : String) (kind : WidgetKind) (title : String) (position : Position)
      (widgets : List Widget) :
      Rewrites (.placeNew id kind title) widgets (widgets ++ [.ofKind id kind title position])
        (some (.ofKind id kind title position))
  | change {e : Edit} {c : Change} (front : List Widget) (w : Widget) (rest : List Widget)
      (meant : e.target? = some w.id) (first : ∀ v ∈ front, v.id ≠ w.id)
      (made : e.change? w = some c) :
      Rewrites e (front ++ w :: rest) (front ++ (c.widget w).toList ++ rest) (c.answer w)

end Edit

namespace Dashboard

variable {d d' : Dashboard} {e : Edit} {id : String}

def alter (d : Dashboard) (id : String) (c : Change) : Dashboard :=
  { d with
    widgets := alterFirst (·.id = id) (c.widget ·) d.widgets
    layout := { d.layout with entries := c.entries id d.layout.entries } }

section Respond

variable {w : Widget} {c : Change}

theorem requireWidget_of_none (missing : d.widget? id = none) :
    d.requireWidget id = .error (.widgetNotFound id) := by
  rw [requireWidget, missing]

theorem setPosition_of_found (found : d.widget? id = some w) (position : Position) :
    d.setPosition id position =
      (d.layout.grid.validate position).map fun _ => d.alter id (.position position) := by
  rw [setPosition, (requireWidget_eq_ok_iff d id w).mpr found, alter]
  cases d.layout.grid.validate position with
  | error refusal => rfl
  | ok =>
    simp only [Change.widget, ← modifyFirst_eq_alterFirst]
    rfl

theorem updateConfig_of_found (found : d.widget? id = some w) (config : Members) :
    d.updateConfig id config =
      (w.kind.validateConfig config).map fun _ => d.alter id (.config config) := by
  rw [updateConfig, (requireWidget_eq_ok_iff d id w).mpr found, alter]
  simp only [Change.widget, ← modifyFirst_eq_alterFirst]
  rfl

theorem removeWidget_of_found (found : d.widget? id = some w) :
    d.removeWidget id = .ok (d.alter id .removal, w) := by
  rw [removeWidget, (requireWidget_eq_ok_iff d id w).mpr found, alter]
  simp only [Change.widget, ← eraseP_eq_alterFirst]
  rfl

theorem respond_of_found (meant : e.target? = some id) (found : d.widget? id = some w)
    (made : e.change? w = some c) :
    d.respond e = (c.check d.layout.grid w).map fun _ => (d.alter id c, c.answer w) := by
  have twice {x : Except Refusal Unit} {made : Dashboard} :
      (x.map fun _ => made).map (fun d' => (d', none)) =
        x.map fun _ => (made, (none : Option Widget)) := by cases x <;> rfl
  have owner := (requireWidget_eq_ok_iff d id w).mpr found
  cases e with
  | add | placeNew | sync => cases meant
  | setPosition id position =>
    cases meant
    cases made
    rw [respond, setPosition_of_found found]
    exact twice
  | move id x y =>
    cases meant
    cases made
    rw [respond, moveWidget, owner]
    exact (congrArg (Except.map _) (setPosition_of_found found _)).trans twice
  | resize id width height =>
    cases meant
    cases made
    rw [respond, resizeWidget, owner]
    exact (congrArg (Except.map _) (setPosition_of_found found _)).trans twice
  | updateConfig id config =>
    cases meant
    cases made
    rw [respond, updateConfig_of_found found]
    exact twice
  | remove id =>
    cases meant
    cases made
    rw [respond, removeWidget_of_found found]
    rfl

theorem respond_of_missing (meant : e.target? = some id) (grid : Grid) :
    ∃ refusal, ∀ d : Dashboard, d.layout.grid = grid → d.widget? id = none →
      d.respond e = .error refusal := by
  cases e with
  | add | placeNew | sync => cases meant
  | setPosition id position =>
    cases meant
    -- the position is looked at before the widget is looked for
    cases valid : grid.validate position with
    | error refusal =>
      refine ⟨refusal, ?_⟩
      rintro d rfl -
      rw [respond, setPosition, valid]
      rfl
    | ok =>
      refine ⟨.widgetNotFound id, ?_⟩
      rintro d rfl missing
      rw [respond, setPosition, valid, requireWidget_of_none missing]
      rfl
  | move | resize | updateConfig | remove =>
    cases meant
    refine ⟨.widgetNotFound id, fun d _ missing => ?_⟩
    simp only [respond, moveWidget, resizeWidget, updateConfig, removeWidget,
      requireWidget_of_none missing]
    rfl

/-- An edit of a widget looks at the grid and at the first widget with the id, and at nothing
else, to tell what is to be done. -/
theorem respond_local (meant : e.target? = some id) (grid : Grid) (found : Option Widget) :
    (∃ refusal, ∀ d : Dashboard, d.layout.grid = grid → d.widget? id = found →
      d.respond e = .error refusal) ∨
    ∃ w c, found = some w ∧ e.change? w = some c ∧
      ∀ d : Dashboard, d.layout.grid = grid → d.widget? id = found →
        d.respond e = .ok (d.alter id c, c.answer w) := by
  cases found with
  | none => exact .inl (respond_of_missing meant grid)
  | some w =>
    obtain ⟨c, made⟩ := Edit.exists_change? meant w
    cases checked : c.check grid w with
    | error refusal =>
      refine .inl ⟨refusal, ?_⟩
      rintro d rfl found
      rw [respond_of_found meant found made, checked]
      rfl
    | ok =>
      refine .inr ⟨w, c, rfl, made, ?_⟩
      rintro d rfl found
      rw [respond_of_found meant found made, checked]
      rfl

end Respond

/-- All of a dashboard but its widgets and the layout entries with an id is the same. -/
structure Framed (id : String) (d d' : Dashboard) : Prop where
  rest : d' = { d with
    widgets := d'.widgets
    layout := { d.layout with entries := d'.layout.entries } }
  entries : d'.layout.entries.filter (·.id ≠ id) = d.layout.entries.filter (·.id ≠ id)

theorem framed_alter (d : Dashboard) (id : String) (c : Change) : d.Framed id (d.alter id c) :=
  ⟨rfl, c.filter_entries_self⟩

theorem rewrites_alter {w : Widget} {c : Change} (meant : e.target? = some id)
    (found : d.widget? id = some w) (made : e.change? w = some c) :
    e.Rewrites d.widgets (d.alter id c).widgets (c.answer w) := by
  obtain ⟨owner, front, rest, split, first⟩ := List.find?_eq_some_iff_append.mp found
  simp only [decide_eq_true_eq] at owner
  subst owner
  rw [alter, split, alterFirst_append_cons (by simpa using first) (by simp)]
  exact .change front w rest meant (by simpa using first) made

theorem framed_addWidget {w : Widget} (accepted : d.addWidget w = .ok d') :
    d.Framed w.id d' ∧ d'.widgets = d.widgets ++ [w] := by
  obtain ⟨_, rfl⟩ := addWidget_eq_ok_iff.mp accepted
  refine ⟨⟨rfl, ?_⟩, rfl⟩
  simp [LayoutEntry.ofWidget]

theorem framed_respond {answer : Option Widget} (subject : e.subject? = some id)
    (accepted : d.respond e = .ok (d', answer)) :
    d.Framed id d' ∧ e.Rewrites d.widgets d'.widgets answer := by
  cases e with
  | sync => cases subject
  | add w =>
    cases subject
    obtain ⟨_, added, made⟩ := map_eq_ok_iff.mp accepted
    cases made
    obtain ⟨framed, widgets⟩ := framed_addWidget added
    exact ⟨framed, widgets ▸ .add w d.widgets⟩
  | placeNew id kind title =>
    cases subject
    obtain ⟨⟨_, w⟩, placed, made⟩ := map_eq_ok_iff.mp accepted
    cases made
    obtain ⟨position, _, rfl, added⟩ := placeNew_eq_ok_iff.mp placed
    obtain ⟨framed, widgets⟩ := framed_addWidget added
    exact ⟨framed, widgets ▸ .placeNew id kind title position d.widgets⟩
  | move | resize | setPosition | updateConfig | remove =>
    simp only [Edit.subject?] at subject
    obtain ⟨refusal, refused⟩ | ⟨w, c, found, made, done⟩ :=
      respond_local subject d.layout.grid (d.widget? id)
    · cases accepted.symm.trans (refused d rfl rfl)
    · cases accepted.symm.trans (done d rfl rfl)
      exact ⟨framed_alter d id c, rewrites_alter subject found made⟩

theorem perform_framed (d : Dashboard) {e : Edit} {id : String} (subject : e.subject? = some id) :
    (∀ refusal d', e.perform.on d = (.error refusal, d') → d' = d) ∧
      ∀ answer d', e.perform.on d = (.ok answer, d') →
        d.Framed id d' ∧ e.Rewrites d.widgets d'.widgets answer := by
  simp only [on_perform, commit_eq_error_iff, commit_eq_ok_iff]
  constructor
  · rintro refusal d' ⟨-, same⟩
    exact same
  · intro answer d' accepted
    exact framed_respond subject accepted

def tornBoard : Dashboard :=
  { noteBoard with
    widgets := [.ofKind "load" .chart "Load" ⟨0, 0, 6, 4⟩, .ofKind "note" .text "Note" ⟨6, 0, 4, 2⟩,
      .ofKind "note" .text "Draft" ⟨0, 4, 4, 2⟩]
    layout := ⟨.default, .auto, [⟨"ghost", ⟨0, 0, 1, 1⟩⟩, ⟨"note", ⟨0, 0, 4, 2⟩⟩]⟩ }

theorem perform_framed_tornBoard :
    let inside : Edit := .move "note" 8 6
    let beyond : Edit := .move "note" 9 6
    inside.subject? = some "note" ∧ beyond.subject? = some "note" ∧
      (∃ d', inside.perform.on tornBoard = (.ok none, d') ∧
        d'.positions = [⟨0, 0, 6, 4⟩, ⟨8, 6, 4, 2⟩, ⟨0, 4, 4, 2⟩] ∧
        tornBoard.Framed "note" d' ∧ inside.Rewrites tornBoard.widgets d'.widgets none) ∧
      ∃ refusal d', beyond.perform.on tornBoard = (.error refusal, d') ∧ d' = tornBoard := by
  intro inside beyond
  refine ⟨rfl, rfl, ⟨_, rfl, rfl, ?_⟩, ⟨_, _, rfl, ?_⟩⟩
  · exact (perform_framed tornBoard (e := inside) rfl).2 _ _ rfl
  · exact (perform_framed tornBoard (e := beyond) rfl).1 _ _ rfl

end Dashboard

end ControlPanel
