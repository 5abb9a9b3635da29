import ControlPanel.Dashboard.InPlace
import ControlPanel.Proofs.Dashboard.Edit

/-!
# Edits in place are all or nothing

An edit that is carried out in place changes one list after the other, and a refusal would leave
the dashboard as far as it has come. `Dashboard.on_perform`: in fact the dashboard that is left is
the one that the edit makes, or, if it is refused, the one that it began with. So what edits keep
holds of a dashboard that is edited in place again and again (`Dashboard.course_invariant`).
-/

namespace ControlPanel

/-- The edit, carried out in place. The answer is the widget that was placed or removed. -/
def Edit.perform : Edit → Dashboard.InPlace (Option Widget)
  | .add w => do
    .addWidget w
    return none
  | .move id x y => do
    .moveWidget id x y
    return none
  | .resize id width height => do
    .resizeWidget id width height
    return none
  | .setPosition id position => do
    .setPosition id position
    return none
  | .updateConfig id config => do
    .updateConfig id config
    return none
  | .remove id => return some (← .removeWidget id)
  | .placeNew id kind title => return some (← .placeNew id kind title)
  | .sync => do
    .syncLayout
    return none

namespace Dashboard

def respond (d : Dashboard) : Edit → Except Refusal (Dashboard × Option Widget)
  | .add w => (d.addWidget w).map fun d' => (d', none)
  | .move id x y => (d.moveWidget id x y).map fun d' => (d', none)
  | .resize id width height => (d.resizeWidget id width height).map fun d' => (d', none)
  | .setPosition id position => (d.setPosition id position).map fun d' => (d', none)
  | .updateConfig id config => (d.updateConfig id config).map fun d' => (d', none)
  | .remove id => (d.removeWidget id).map fun removed => (removed.1, some removed.2)
  | .placeNew id kind title =>
    (d.placeNew id kind title).map fun placed => (placed.1, some placed.2)
  | .sync => .ok (d.syncLayout, none)

def commit {α : Type} (d : Dashboard) :
    Except Refusal (Dashboard × α) → Except Refusal α × Dashboard
  | .ok (d', a) => (.ok a, d')
  | .error refusal => (.error refusal, d)

theorem commit_eq_ok_iff {α : Type} {d d' : Dashboard} {r : Except Refusal (Dashboard × α)}
    {a : α} : d.commit r = (.ok a, d') ↔ r = .ok (d', a) := by
  rcases r with _ | ⟨_, _⟩ <;> simp [commit, and_comm]

theorem commit_eq_error_iff {α : Type} {d d' : Dashboard} {r : Except Refusal (Dashboard × α)}
    {refusal : Refusal} : d.commit r = (.error refusal, d') ↔ r = .error refusal ∧ d' = d := by
  rcases r with _ | ⟨_, _⟩ <;> simp [commit, eq_comm]

namespace InPlace

variable {α β γ : Type} {d : Dashboard}

theorem on_bind (x : InPlace α) (f : α → InPlace β) : on (x >>= f) d =
    match on x d with
    | (.ok a, d') => on (f a) d'
    | (.error refusal, d') => (.error refusal, d') := by
  change ExceptT.bind x f d = _
  simp only [on, ExceptT.run, StateT.run, ExceptT.bind, ExceptT.mk, bind, StateT.bind]
  rcases x d with ⟨_ | _, _⟩ <;> rfl

theorem on_check (test : Dashboard → Except Refusal α) : on (check test) d = (test d, d) := rfl

/-- A check that comes first in both courses: nothing has been changed if it fails. -/
theorem on_check_bind {test : Dashboard → Except Refusal α} {f : α → InPlace β}
    {g : α → Except Refusal γ} {h : γ → Dashboard × β}
    (rest : ∀ a, on (f a) d = d.commit ((g a).map h)) :
    on (check test >>= f) d = d.commit ((test d >>= g).map h) := by
  rw [on_bind, on_check]
  cases test d with
  | error refusal => rfl
  | ok a => exact rest a

theorem on_bind_pure {x : InPlace α} {r : Except Refusal γ} {h : γ → Dashboard × α} (f : α → β)
    (whole : on x d = d.commit (r.map h)) :
    on (x >>= fun a => pure (f a)) d = d.commit (r.map fun c => ((h c).1, f (h c).2)) := by
  rw [on_bind, whole]
  cases r <;> rfl

/-! ## The edits -/

theorem on_addWidget (w : Widget) :
    on (addWidget w) d = d.commit ((d.addWidget w).map fun d' => (d', ())) := by
  have unused : d.addWidget w = d.requireUnused w.id >>= fun _ =>
      d.layout.grid.validate w.position >>= fun _ => w.kind.validateConfig w.config >>= fun _ =>
      .ok { d with
        widgets := d.widgets ++ [w]
        layout := { d.layout with entries := d.layout.entries ++ [.ofWidget w] } } := by
    unfold Dashboard.addWidget requireUnused
    split <;> rfl
  rw [unused]
  exact on_check_bind fun _ => on_check_bind fun _ => on_check_bind fun _ => rfl

theorem on_setPosition (id : String) (position : Position) :
    on (setPosition id position) d =
      d.commit ((d.setPosition id position).map fun d' => (d', ())) :=
  on_check_bind fun _ => on_check_bind fun _ => rfl

theorem on_moveWidget (id : String) (x y : UInt32) :
    on (moveWidget id x y) d = d.commit ((d.moveWidget id x y).map fun d' => (d', ())) :=
  on_check_bind fun w => on_setPosition id ⟨x, y, w.position.width, w.position.height⟩

theorem on_resizeWidget (id : String) (width height : UInt32) :
    on (resizeWidget id width height) d =
      d.commit ((d.resizeWidget id width height).map fun d' => (d', ())) :=
  on_check_bind fun w => on_setPosition id ⟨w.position.x, w.position.y, width, height⟩

theorem on_updateConfig (id : String) (config : Members) :
    on (updateConfig id config) d =
      d.commit ((d.updateConfig id config).map fun d' => (d', ())) :=
  on_check_bind fun _ => on_check_bind fun _ => rfl

theorem on_removeWidget (id : String) :
    on (removeWidget id) d = d.commit ((d.removeWidget id).map fun removed => removed) :=
  on_check_bind fun _ => rfl

theorem on_placeNew (id : String) (kind : WidgetKind) (title : String) :
    on (placeNew id kind title) d =
      d.commit ((d.placeNew id kind title).map fun placed => placed) := by
  have slot : d.placeNew id kind title = d.requireFree kind.defaultSize >>= fun position =>
      (d.addWidget (.ofKind id kind title position)).map (·, .ofKind id kind title position) := by
    unfold Dashboard.placeNew requireFree
    obtain ⟨width, height⟩ := kind.defaultSize
    cases found : d.nextFree width height <;> simp only [found] <;> rfl
  rw [slot]
  refine on_check_bind fun position => ?_
  rw [on_bind, on_addWidget]
  cases adding : d.addWidget (.ofKind id kind title position) with
  | error refusal => rfl
  | ok d' =>
    obtain ⟨_, rfl⟩ := addWidget_eq_ok_iff.mp adding
    -- the look-up at the end finds the widget that was added, so there is no refusal any more
    change (requireLast _, _) = _
    simp [requireLast, commit, Except.map]

end InPlace

/-! ## All edits -/

theorem on_perform (d : Dashboard) (e : Edit) : e.perform.on d = d.commit (d.respond e) := by
  cases e with
  | add w => exact InPlace.on_bind_pure _ (InPlace.on_addWidget w)
  | move id x y => exact InPlace.on_bind_pure _ (InPlace.on_moveWidget id x y)
  | resize id width height =>
    exact InPlace.on_bind_pure _ (InPlace.on_resizeWidget id width height)
  | setPosition id position =>
    exact InPlace.on_bind_pure _ (InPlace.on_setPosition id position)
  | updateConfig id config => exact InPlace.on_bind_pure _ (InPlace.on_updateConfig id config)
  | remove id => exact InPlace.on_bind_pure _ (InPlace.on_removeWidget id)
  | placeNew id kind title => exact InPlace.on_bind_pure _ (InPlace.on_placeNew id kind title)
  | sync => rfl

theorem attempt_eq_respond (d : Dashboard) (e : Edit) :
    d.attempt e = (d.respond e).map Prod.fst := by
  have made (x : Except Refusal Dashboard) :
      x = (x.map fun d' => (d', (none : Option Widget))).map Prod.fst := by cases x <;> rfl
  have answered (x : Except Refusal (Dashboard × Widget)) :
      x.map Prod.fst = (x.map fun r => (r.1, some r.2)).map Prod.fst := by cases x <;> rfl
  cases e with
  | add | move | resize | setPosition | updateConfig => exact made _
  | remove | placeNew => exact answered _
  | sync => rfl

theorem left_perform (d : Dashboard) (e : Edit) : (e.perform.on d).2 = d.after e := by
  rw [on_perform, after, attempt_eq_respond]
  cases d.respond e <;> rfl

/-! ## Runs of edits in place -/

/-- What edits leave one after the other, beginning with the dashboard that they find. -/
def course (d : Dashboard) (edits : List Edit) : List Dashboard :=
  edits.scanl (fun d e => (e.perform.on d).2) d

theorem cons_history (d : Dashboard) (edits : List Edit) :
    d :: d.history edits = d.course edits := by
  simp only [course, left_perform]
  induction edits generalizing d with
  | nil => rfl
  | cons e edits ih => rw [List.scanl_cons, history, ih]

theorem course_kept {P : Dashboard → Prop} {edits : List Edit} {d : Dashboard}
    (kept : ∀ e ∈ edits, ∀ d, P d → P (d.after e)) (start : P d) : ∀ d' ∈ d.course edits, P d' := by
  rw [← cons_history]
  exact List.forall_mem_cons.mpr ⟨start, history_kept kept start⟩

theorem course_invariant {P : Dashboard → Prop} (kept : ∀ d d', P d → Changed d d' → P d')
    {d : Dashboard} (start : P d) (edits : List Edit) : ∀ d' ∈ d.course edits, P d' := by
  rw [← cons_history]
  exact List.forall_mem_cons.mpr ⟨start, history_invariant kept start edits⟩

end Dashboard

end ControlPanel
