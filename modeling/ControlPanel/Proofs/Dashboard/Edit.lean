import ControlPanel.Dashboard.Placement
import ControlPanel.Proofs.Dashboard.Consistency
import ControlPanel.Proofs.Dashboard.FirstMatch

/-!
# What an edit does

All edits of a dashboard as one type, so that a run of edits is a list. An edit that is accepted
makes one of five changes (`Dashboard.Changed`), and `Dashboard.attempt_changed` says under which
conditions; what holds of every change holds of every run.
-/

namespace ControlPanel

theorem bind_eq_ok_iff {ε α β : Type} {x : Except ε α} {f : α → Except ε β} {b : β} :
    (x >>= f) = .ok b ↔ ∃ a, x = .ok a ∧ f a = .ok b := by
  cases x <;> simp [bind, Except.bind]

theorem map_eq_ok_iff {ε α β : Type} {x : Except ε α} {f : α → β} {b : β} :
    x.map f = .ok b ↔ ∃ a, x = .ok a ∧ f a = b := by
  cases x <;> simp [Except.map]

/-- An edit of a dashboard. The id of a new widget is given by the caller. -/
inductive Edit where
  | add (widget : Widget)
  | move (id : String) (x y : UInt32)
  | resize (id : String) (width height : UInt32)
  | setPosition (id : String) (position : Position)
  | updateConfig (id : String) (config : Members)
  | remove (id : String)
  | placeNew (id : String) (kind : WidgetKind) (title : String)
  | sync

namespace Dashboard

/-! ## The five changes -/

inductive Changed (d : Dashboard) : Dashboard → Prop
  | added (w : Widget) (fresh : w.id ∉ d.widgets.map Widget.id)
      (fits : d.layout.grid.fits w.position = true)
      (usable : w.kind.validateConfig w.config = .ok ()) :
      Changed d { d with
        widgets := d.widgets ++ [w]
        layout := { d.layout with entries := d.layout.entries ++ [.ofWidget w] } }
  | positioned (id : String) (position : Position) (present : id ∈ d.widgets.map Widget.id)
      (fits : d.layout.grid.fits position = true) :
      Changed d { d with
        widgets := modifyFirst (·.id = id) (fun w => { w with position }) d.widgets
        layout := { d.layout with entries := setEntry d.layout.entries id position } }
  | configured (id : String) (config : Members) (w : Widget) (found : d.widget? id = some w)
      (usable : w.kind.validateConfig config = .ok ()) :
      Changed d { d with
        widgets := modifyFirst (·.id = id) (fun w => { w with config }) d.widgets }
  | removed (id : String) :
      Changed d { d with
        widgets := d.widgets.eraseP (·.id = id)
        layout := { d.layout with entries := d.layout.entries.filter (·.id ≠ id) } }
  | synced : Changed d d.syncLayout

theorem requireWidget_eq_ok_iff (d : Dashboard) (id : String) (w : Widget) :
    d.requireWidget id = .ok w ↔ d.widget? id = some w := by
  unfold requireWidget
  cases d.widget? id <;> simp

theorem mem_ids_of_widget? {d : Dashboard} {id : String} {w : Widget}
    (found : d.widget? id = some w) : id ∈ d.widgets.map Widget.id := by
  refine List.mem_map.mpr ⟨w, List.mem_of_find?_eq_some found, ?_⟩
  simpa using List.find?_some found

theorem addWidget_eq_ok_iff {d d' : Dashboard} {w : Widget} : d.addWidget w = .ok d' ↔
    (w.id ∉ d.widgets.map Widget.id ∧ d.layout.grid.fits w.position = true ∧
      w.kind.validateConfig w.config = .ok ()) ∧
      d' = { d with
        widgets := d.widgets ++ [w]
        layout := { d.layout with entries := d.layout.entries ++ [.ofWidget w] } } := by
  rw [← widget?_isSome_iff, ← Grid.validate_eq_ok_iff, addWidget]
  split
  · rename_i present
    constructor
    · rintro ⟨⟩
    · exact fun made => absurd present made.1.1
  · rename_i absent
    simp only [bind_eq_ok_iff]
    constructor
    · rintro ⟨_, valid, _, usable, made⟩
      cases made
      exact ⟨⟨absent, valid, usable⟩, rfl⟩
    · rintro ⟨⟨_, valid, usable⟩, rfl⟩
      exact ⟨_, valid, _, usable, rfl⟩

theorem addWidget_changed {d d' : Dashboard} {w : Widget} (accepted : d.addWidget w = .ok d') :
    Changed d d' := by
  obtain ⟨⟨fresh, fits, usable⟩, rfl⟩ := addWidget_eq_ok_iff.mp accepted
  exact .added w fresh fits usable

theorem setPosition_changed {d d' : Dashboard} {id : String} {position : Position}
    (accepted : d.setPosition id position = .ok d') : Changed d d' := by
  simp only [setPosition, bind_eq_ok_iff, requireWidget_eq_ok_iff] at accepted
  obtain ⟨_, valid, w, found, made⟩ := accepted
  cases made
  exact .positioned id position (mem_ids_of_widget? found)
    ((Grid.validate_eq_ok_iff _ _).mp valid)

theorem updateConfig_changed {d d' : Dashboard} {id : String} {config : Members}
    (accepted : d.updateConfig id config = .ok d') : Changed d d' := by
  simp only [updateConfig, bind_eq_ok_iff, requireWidget_eq_ok_iff] at accepted
  obtain ⟨w, found, _, usable, made⟩ := accepted
  cases made
  exact .configured id config w found usable

theorem removeWidget_changed {d d' : Dashboard} {id : String} {w : Widget}
    (accepted : d.removeWidget id = .ok (d', w)) : Changed d d' := by
  simp only [removeWidget, bind_eq_ok_iff] at accepted
  obtain ⟨_, _, made⟩ := accepted
  cases made
  exact .removed id

theorem placeNew_eq_ok_iff {d d' : Dashboard} {id title : String} {kind : WidgetKind}
    {w : Widget} : d.placeNew id kind title = .ok (d', w) ↔
      ∃ position, d.nextFree kind.defaultSize.1 kind.defaultSize.2 = some position ∧
        w = .ofKind id kind title position ∧ d.addWidget w = .ok d' := by
  simp only [placeNew]
  split
  · rename_i none
    simp [none]
  · rename_i position found
    simp only [found, Option.some.injEq, bind_eq_ok_iff]
    constructor
    · rintro ⟨added, adding, made⟩
      cases made
      exact ⟨position, rfl, rfl, adding⟩
    · rintro ⟨_, rfl, rfl, adding⟩
      exact ⟨d', adding, rfl⟩

theorem placeNew_changed {d d' : Dashboard} {id title : String} {kind : WidgetKind} {w : Widget}
    (accepted : d.placeNew id kind title = .ok (d', w)) : Changed d d' := by
  obtain ⟨_, _, _, added⟩ := placeNew_eq_ok_iff.mp accepted
  exact addWidget_changed added

/-! ## Runs of edits -/

def attempt (d : Dashboard) : Edit → Except Refusal Dashboard
  | .add w => d.addWidget w
  | .move id x y => d.moveWidget id x y
  | .resize id width height => d.resizeWidget id width height
  | .setPosition id position => d.setPosition id position
  | .updateConfig id config => d.updateConfig id config
  | .remove id => (d.removeWidget id).map Prod.fst
  | .placeNew id kind title => (d.placeNew id kind title).map Prod.fst
  | .sync => .ok d.syncLayout

def after (d : Dashboard) (e : Edit) : Dashboard :=
  match d.attempt e with
  | .ok d' => d'
  | .error _ => d

def history (d : Dashboard) : List Edit → List Dashboard
  | [] => []
  | e :: edits => d.after e :: history (d.after e) edits

theorem attempt_changed {d d' : Dashboard} {e : Edit} (accepted : d.attempt e = .ok d') :
    Changed d d' := by
  cases e with
  | add w => exact addWidget_changed accepted
  | move id x y =>
    simp only [attempt, moveWidget, bind_eq_ok_iff] at accepted
    obtain ⟨_, _, positioned⟩ := accepted
    exact setPosition_changed positioned
  | resize id width height =>
    simp only [attempt, resizeWidget, bind_eq_ok_iff] at accepted
    obtain ⟨_, _, positioned⟩ := accepted
    exact setPosition_changed positioned
  | setPosition id position => exact setPosition_changed accepted
  | updateConfig id config => exact updateConfig_changed accepted
  | remove id =>
    obtain ⟨_, removed, rfl⟩ := map_eq_ok_iff.mp accepted
    exact removeWidget_changed removed
  | placeNew id kind title =>
    obtain ⟨_, placed, rfl⟩ := map_eq_ok_iff.mp accepted
    exact placeNew_changed placed
  | sync =>
    cases accepted
    exact .synced

theorem after_eq_or_changed (d : Dashboard) (e : Edit) : d.after e = d ∨ Changed d (d.after e) := by
  unfold after
  split
  · rename_i accepted
    exact .inr (attempt_changed accepted)
  · exact .inl rfl

theorem history_kept {P : Dashboard → Prop} {edits : List Edit} {d : Dashboard}
    (kept : ∀ e ∈ edits, ∀ d, P d → P (d.after e)) (start : P d) :
    ∀ d' ∈ d.history edits, P d' := by
  induction edits generalizing d with
  | nil => simp [history]
  | cons e edits ih =>
    obtain ⟨first, kept⟩ := List.forall_mem_cons.mp kept
    intro d' mem
    rcases List.mem_cons.mp mem with rfl | mem
    · exact first d start
    · exact ih kept (first d start) d' mem

theorem history_invariant {P : Dashboard → Prop} (kept : ∀ d d', P d → Changed d d' → P d')
    {d : Dashboard} (start : P d) (edits : List Edit) : ∀ d' ∈ d.history edits, P d' := by
  refine history_kept (fun e _ d holds => ?_) start
  rcases d.after_eq_or_changed e with same | changed
  · rwa [same]
  · exact kept d _ holds changed

end Dashboard

end ControlPanel
