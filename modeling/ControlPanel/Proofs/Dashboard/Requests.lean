import ControlPanel.Dashboard.Request
import ControlPanel.Proofs.Dashboard.Change

/-!
# Requests are judged like edits

A request to add or to change a widget is checked before it is sent, and the edit of the dashboard
that it stands for is checked when it is carried out. `Dashboard.requests_agree`: both come to the
same verdict, with the same refusal, as long as the title of the request has a length within the
limits, which only the request is checked for.
-/

namespace ControlPanel

theorem unit_bind_eq_ok_iff {x : Except Refusal Unit} {f : Unit → Except Refusal Unit} :
    (x >>= f) = .ok () ↔ x = .ok () ∧ f () = .ok () := by
  rw [bind_eq_ok_iff]
  exact ⟨fun ⟨(), first, second⟩ => ⟨first, second⟩, fun ⟨first, second⟩ => ⟨(), first, second⟩⟩

/-! ## The lengths of titles -/

namespace LengthLimit

variable {limit : LengthLimit} {field s : String}

theorem admits_title_iff : title.admits s = true ↔ 1 ≤ s.length ∧ s.length ≤ 100 := by
  simp only [admits, Bool.and_eq_true, decide_eq_true_eq]
  rfl

theorem refuse_fault_of_admits (admitted : limit.admits s = true) :
    refuse (limit.fault field s) = .ok () := by
  rw [fault, if_pos admitted]
  rfl

theorem refuse_fault_of_not_admits (unfit : ¬ limit.admits s = true) :
    refuse (limit.fault field s) =
      .error (.invalid (.fields [⟨field, limit.min, limit.max⟩])) := by
  rw [fault, if_neg unfit]
  rfl

end LengthLimit

/-! ## What requests are checked for -/

namespace NewWidget

variable {r : NewWidget} {grid : Grid}

theorem check_of_titled (titled : 1 ≤ r.title.length ∧ r.title.length ≤ 100) :
    r.check grid = grid.validate r.position >>= fun _ => r.kind.validateConfig r.config := by
  rw [check, faults, LengthLimit.refuse_fault_of_admits (LengthLimit.admits_title_iff.mpr titled)]
  rfl

theorem check_of_untitled (untitled : ¬ (1 ≤ r.title.length ∧ r.title.length ≤ 100)) :
    r.check grid = .error (.invalid (.fields [⟨"title", some 1, 100⟩])) := by
  rw [check, faults,
    LengthLimit.refuse_fault_of_not_admits (mt LengthLimit.admits_title_iff.mp untitled)]
  rfl

end NewWidget

namespace WidgetChange

variable {r : WidgetChange} {kind : WidgetKind} {grid : Grid}

theorem checkGiven_eq_ok_iff {α : Type} {check : α → Except Refusal Unit} {value : Option α} :
    checkGiven check value = .ok () ↔ ∀ a, value = some a → check a = .ok () := by
  cases value with
  | none => simp [checkGiven]
  | some a => simp [checkGiven]

theorem check_of_titled (titled : ∀ t, r.title = some t → 1 ≤ t.length ∧ t.length ≤ 100) :
    r.check kind grid = checkGiven grid.validate r.position >>= fun _ =>
      checkGiven kind.validateConfig r.config := by
  have admitted : LengthLimit.refuse r.faults = .ok () := by
    rw [faults]
    cases given : r.title with
    | none => rfl
    | some t =>
      apply LengthLimit.refuse_fault_of_admits
      exact LengthLimit.admits_title_iff.mpr (titled t given)
  rw [check, admitted]
  rfl

theorem check_of_untitled {t : String} (given : r.title = some t)
    (untitled : ¬ (1 ≤ t.length ∧ t.length ≤ 100)) :
    r.check kind grid = .error (.invalid (.fields [⟨"title", some 1, 100⟩])) := by
  rw [check, faults, given, LengthLimit.fault?,
    LengthLimit.refuse_fault_of_not_admits (mt LengthLimit.admits_title_iff.mp untitled)]
  rfl

end WidgetChange

namespace Dashboard

/-! ## What edits answer -/

section Answers

variable {d : Dashboard} {id : String} {w : Widget}

theorem commit_fst {α β : Type} (x : Except Refusal α) (f : α → Dashboard × β) :
    (d.commit (x.map f)).1 = x.map fun a => (f a).2 := by
  cases x <;> rfl

theorem answer_addWidget (fresh : w.id ∉ d.widgets.map Widget.id) :
    ((InPlace.addWidget w).on d).1 =
      d.layout.grid.validate w.position >>= fun _ => w.kind.validateConfig w.config := by
  rw [← widget?_isSome_iff] at fresh
  rw [InPlace.on_addWidget, commit_fst, Dashboard.addWidget, if_neg fresh]
  cases d.layout.grid.validate w.position with
  | error => rfl
  | ok => cases w.kind.validateConfig w.config <;> rfl

theorem answer_setPosition (found : d.widget? id = some w) (position : Position) :
    ((InPlace.setPosition id position).on d).1 = d.layout.grid.validate position := by
  rw [InPlace.on_setPosition, commit_fst, setPosition_of_found found]
  cases d.layout.grid.validate position <;> rfl

theorem answer_updateConfig (found : d.widget? id = some w) (config : Members) :
    ((InPlace.updateConfig id config).on d).1 = w.kind.validateConfig config := by
  rw [InPlace.on_updateConfig, commit_fst, updateConfig_of_found found]
  cases w.kind.validateConfig config <;> rfl

end Answers

/-! ## The same verdicts -/

/-- The refusal of a change is that of the first edit that would be refused. -/
theorem requests_agree (d : Dashboard) (id : String) :
    (∀ r : NewWidget, 1 ≤ r.title.length ∧ r.title.length ≤ 100 →
      id ∉ d.widgets.map Widget.id → ∀ data,
        ((InPlace.addWidget ⟨id, r.kind, r.title, r.config, data, r.position⟩).on d).1 =
          r.check d.layout.grid) ∧
    (∀ r : WidgetChange, (∀ t, r.title = some t → 1 ≤ t.length ∧ t.length ≤ 100) →
      ∀ w, d.widget? id = some w →
        (r.check w.kind d.layout.grid = .ok () ↔
          (∀ p, r.position = some p → ((InPlace.setPosition id p).on d).1 = .ok ()) ∧
            ∀ c, r.config = some c → ((InPlace.updateConfig id c).on d).1 = .ok ()) ∧
        r.check w.kind d.layout.grid =
          (WidgetChange.checkGiven (fun p => ((InPlace.setPosition id p).on d).1) r.position >>=
            fun _ => WidgetChange.checkGiven (fun c => ((InPlace.updateConfig id c).on d).1)
              r.config)) ∧
    (∀ r : NewWidget, ¬ (1 ≤ r.title.length ∧ r.title.length ≤ 100) → ∀ grid,
      r.check grid = .error (.invalid (.fields [⟨"title", some 1, 100⟩]))) ∧
    (∀ (r : WidgetChange) (t : String), r.title = some t →
      ¬ (1 ≤ t.length ∧ t.length ≤ 100) → ∀ kind grid,
        r.check kind grid = .error (.invalid (.fields [⟨"title", some 1, 100⟩]))) := by
  refine ⟨?_, ?_, ?_, ?_⟩
  · intro r titled fresh data
    rw [answer_addWidget fresh, NewWidget.check_of_titled titled]
  · intro r titled w found
    have position (p : Position) := answer_setPosition found p
    have config (c : Members) := answer_updateConfig found c
    simp only [position, config]
    refine ⟨?_, WidgetChange.check_of_titled titled⟩
    rw [WidgetChange.check_of_titled titled, unit_bind_eq_ok_iff,
      WidgetChange.checkGiven_eq_ok_iff, WidgetChange.checkGiven_eq_ok_iff]
  · intro r untitled grid
    exact NewWidget.check_of_untitled untitled
  · intro r t given untitled kind grid
    exact WidgetChange.check_of_untitled given untitled

/-- A table that reaches beyond the right edge, a change of which both parts are refused, and titles
that are too short or too long. -/
theorem requests_agree_noteBoard :
    let table : NewWidget := ⟨.table, "Jobs", WidgetKind.table.defaultConfig, ⟨9, 0, 6, 4⟩⟩
    let change : WidgetChange := ⟨none, some [], some ⟨0, 7, 4, 2⟩⟩
    let long : String := .ofList (List.replicate 101 'x')
    (1 ≤ table.title.length ∧ table.title.length ≤ 100) ∧
      "jobs" ∉ noteBoard.widgets.map Widget.id ∧
      ((InPlace.addWidget ⟨"jobs", .table, "Jobs", table.config, none, ⟨9, 0, 6, 4⟩⟩).on
        noteBoard).1 = .error (.invalid (.tooWide 9 15 12)) ∧
      (∀ t, change.title = some t → 1 ≤ t.length ∧ t.length ≤ 100) ∧
      noteBoard.widget? "note" = some (.ofKind "note" .text "Note" ⟨0, 0, 4, 2⟩) ∧
      change.check .text noteBoard.layout.grid = .error (.invalid (.tooHigh 7 9 8)) ∧
      ¬ (1 ≤ "".length ∧ "".length ≤ 100) ∧
      NewWidget.check ⟨.text, "", [], ⟨0, 0, 1, 1⟩⟩ noteBoard.layout.grid =
        .error (.invalid (.fields [⟨"title", some 1, 100⟩])) ∧
      ¬ (1 ≤ long.length ∧ long.length ≤ 100) ∧
      WidgetChange.check ⟨some long, none, none⟩ .text noteBoard.layout.grid =
        .error (.invalid (.fields [⟨"title", some 1, 100⟩])) := by
  intro table change long
  have titled : 1 ≤ table.title.length ∧ table.title.length ≤ 100 := by decide
  have fresh : "jobs" ∉ noteBoard.widgets.map Widget.id := by decide
  have untold : ∀ t, change.title = some t → 1 ≤ t.length ∧ t.length ≤ 100 := by simp [change]
  have found : noteBoard.widget? "note" = some (.ofKind "note" .text "Note" ⟨0, 0, 4, 2⟩) := rfl
  have short : ¬ (1 ≤ "".length ∧ "".length ≤ 100) := by decide
  have tooLong : ¬ (1 ≤ long.length ∧ long.length ≤ 100) := by
    simp only [long, String.length_ofList, List.length_replicate]
    decide
  obtain ⟨added, -, unnamed, -⟩ := requests_agree noteBoard "jobs"
  obtain ⟨-, changed, -, renamed⟩ := requests_agree noteBoard "note"
  refine ⟨titled, fresh, ?_, untold, found, ?_, short, unnamed _ short _, tooLong,
    renamed _ long rfl tooLong _ _⟩
  · rw [added table titled fresh none, NewWidget.check_of_titled titled]
    rfl
  · exact (changed change untold _ found).2.trans rfl

end Dashboard

end ControlPanel
