import ControlPanel.Proofs.Dashboard.Requests
import ControlPanel.Proofs.Json.Members
import ControlPanel.Rest.Dashboards

/-!
# What is written to the backend

The calls that carry layouts, positions or configurations as one type, `Write`. A write that is
refused sends nothing, and of those that are sent `Write.call_sound` tells which bodies hold only
positions on their grids and usable configurations: all, but for a changed layout, which is not
checked, and a stored layout that has several entries with one id, of which only the first is.
-/

namespace ControlPanel

/-! ## Sent requests -/

def Transport.recorded {σ : Type} (transport : Transport σ) : Transport (σ × List HttpRequest) :=
  fun request s =>
    let (state, response) := transport request s.1
    ((state, s.2 ++ [request]), response)

namespace ApiClient

variable {α σ : Type}

def sent (c : ApiClient) (transport : Transport σ) (e : Except Refusal (Exchange α)) (s : σ) :
    List HttpRequest :=
  (c.call transport.recorded e (s, [])).1.2

theorem sent_ok (c : ApiClient) (transport : Transport σ) (e : Exchange α) (s : σ) :
    c.sent transport (.ok e) s = (c.request? e).toList := by
  simp only [sent, call, send]
  cases c.request? e with
  | none => rfl
  | some request =>
    simp only [Transport.recorded]
    cases (transport request s).2 <;> rfl

theorem request?_body {c : ApiClient} {e : Exchange α} {request : HttpRequest}
    (made : c.request? e = some request) : request.body = e.body := by
  simp only [request?, Option.bind_eq_bind, Option.bind_eq_some_iff] at made
  obtain ⟨address, _, authorization, _, same⟩ := made
  cases same
  rfl

end ApiClient

/-! ## Writes -/

inductive Write where
  | create (input : NewDashboard)
  | update (id : String) (input : DashboardChange)
  | saveLayout (d : Dashboard)
  | addWidget (d : Dashboard) (input : NewWidget)
  | updateWidget (d : Dashboard) (widget : String) (input : WidgetChange)

namespace Write

def Answer : Write → Type
  | create .. | update .. | saveLayout .. => Dashboard
  | addWidget .. | updateWidget .. => Widget

def exchange : (w : Write) → Except Refusal (Exchange w.Answer)
  | create input => Rest.createDashboard input
  | update id input => Rest.updateDashboard id input
  | saveLayout d => Rest.saveLayout d
  | addWidget d input => Rest.addWidget d input
  | updateWidget d widget input => Rest.updateWidget d widget input

def body : Write → Json
  | create input => input.encode
  | update _ input => input.encode
  | saveLayout d => d.layout.encode
  | addWidget _ input => input.encode
  | updateWidget _ _ input => input.encode

/-- What an accepted write has been checked for, apart from the lengths of texts. -/
def Checked : Write → Prop
  | create input => ∀ layout, input.layout = some layout → layout.entries = []
  | update .. => True
  | saveLayout d => d.Consistent
  | addWidget d input =>
    d.layout.grid.fits input.position = true ∧ input.kind.validateConfig input.config = .ok ()
  | updateWidget d widget input => ∃ w, d.widget? widget = some w ∧
    (∀ p, input.position = some p → d.layout.grid.fits p = true) ∧
      ∀ config, input.config = some config → w.kind.validateConfig config = .ok ()

theorem refuseEntries_eq_ok_iff {layout : Layout} :
    Rest.refuseEntries layout = .ok () ↔ layout.entries = [] := by
  unfold Rest.refuseEntries
  split <;> simp_all

theorem exchange_spec {w : Write} {e : Exchange w.Answer} (accepted : w.exchange = .ok e) :
    e.body = some w.body ∧ w.Checked := by
  cases w with
  | create input =>
    obtain ⟨_, _, rest⟩ := bind_eq_ok_iff.mp accepted
    cases given : input.layout with
    | none =>
      rw [given] at rest
      cases rest
      refine ⟨rfl, fun layout same => ?_⟩
      cases given.symm.trans same
    | some layout =>
      rw [given] at rest
      obtain ⟨_, bare, rest⟩ := bind_eq_ok_iff.mp rest
      cases rest
      refine ⟨rfl, fun layout same => ?_⟩
      cases given.symm.trans same
      exact refuseEntries_eq_ok_iff.mp bare
  | update id input =>
    obtain ⟨_, _, rest⟩ := bind_eq_ok_iff.mp accepted
    cases rest
    exact ⟨rfl, trivial⟩
  | saveLayout d =>
    change Rest.saveLayout d = .ok e at accepted
    unfold Rest.saveLayout at accepted
    split at accepted
    · rename_i consistent
      cases accepted
      exact ⟨rfl, d.issues_eq_nil_iff.mp (List.isEmpty_iff.mp consistent)⟩
    · cases accepted
  | addWidget d input =>
    obtain ⟨_, checked, rest⟩ := bind_eq_ok_iff.mp accepted
    obtain ⟨_, _, checked⟩ := bind_eq_ok_iff.mp checked
    obtain ⟨_, fits, usable⟩ := bind_eq_ok_iff.mp checked
    cases rest
    exact ⟨rfl, (d.layout.grid.validate_eq_ok_iff input.position).mp fits, usable⟩
  | updateWidget d widget input =>
    change Rest.updateWidget d widget input = .ok e at accepted
    unfold Rest.updateWidget at accepted
    split at accepted
    · cases accepted
    · rename_i w found
      obtain ⟨_, checked, rest⟩ := bind_eq_ok_iff.mp accepted
      obtain ⟨_, _, checked⟩ := bind_eq_ok_iff.mp checked
      obtain ⟨_, fits, usable⟩ := bind_eq_ok_iff.mp checked
      cases rest
      refine ⟨rfl, w, found, fun p given => ?_, WidgetChange.checkGiven_eq_ok_iff.mp usable⟩
      exact (d.layout.grid.validate_eq_ok_iff p).mp
        (WidgetChange.checkGiven_eq_ok_iff.mp fits p given)

end Write

/-! ## Sound bodies -/

namespace Json

def PositionSound (grid : Grid) (j : Json) : Prop :=
  ∃ p, Position.ofJson? j = some p ∧ grid.fits p = true

def ConfigSound (kind : WidgetKind) (j : Json) : Prop :=
  ∃ config, j = .object config ∧ kind.validateConfig config = .ok ()

def LayoutSound (j : Json) : Prop :=
  ∃ grid items, (j.under? "grid").bind Grid.ofJson? = some grid ∧
    j.under? "widgets" = some (.array items) ∧ ∀ item ∈ items, item.PositionSound grid

theorem positionSound_encode {grid : Grid} {p : Position} :
    p.encode.PositionSound grid ↔ grid.fits p = true := by
  simp [PositionSound, Position.ofJson?_encode]

theorem configSound_object {kind : WidgetKind} {config : Members} :
    ConfigSound kind (.object config) ↔ kind.validateConfig config = .ok () := by
  simp [ConfigSound]

theorem layoutSound_encode {l : Layout} :
    l.encode.LayoutSound ↔ ∀ e ∈ l.entries, l.grid.fits e.position = true := by
  have grid : l.encode.under? "grid" = some l.grid.encode := by
    simp [Layout.encode, under?_ofMembers]
  have widgets : l.encode.under? "widgets" = some (.array (l.entries.map LayoutEntry.encode)) := by
    simp [Layout.encode, under?_ofMembers]
  simp [LayoutSound, PositionSound, grid, widgets, Grid.ofJson?_encode, LayoutEntry.ofJson?_encode]

end Json

namespace Write

/-- Every position in a body lies on the grid that it belongs to, and every configuration can be
used by the kind of its widget. -/
def Sound (w : Write) (body : Json) : Prop :=
  match w with
  | create _ | update .. => ∀ layout, body.under? "layout" = some layout → layout.LayoutSound
  | saveLayout _ => body.LayoutSound
  | addWidget d _ =>
    (∀ p, body.under? "position" = some p → p.PositionSound d.layout.grid) ∧
      ∀ config, body.under? "config" = some config →
        ∃ kind : WidgetKind, body.under? "type" = some (.string kind.name) ∧ config.ConfigSound kind
  | updateWidget d widget _ =>
    (∀ p, body.under? "position" = some p → p.PositionSound d.layout.grid) ∧
      ∀ config, body.under? "config" = some config →
        ∃ w, d.widget? widget = some w ∧ config.ConfigSound w.kind

/-- The positions that are not checked lie on the grid: those of a changed layout, and of a stored
layout those of the entries that are not the first with their id. -/
def RestFits : Write → Prop
  | update _ input => ∀ layout, input.layout = some layout →
    ∀ e ∈ layout.entries, layout.grid.fits e.position = true
  | saveLayout d =>
    ∀ e ∈ d.layout.entries, d.layout.entry? e.id ≠ some e → d.layout.grid.fits e.position = true
  | _ => True

theorem entry_fits_of_consistent {d : Dashboard} (consistent : d.Consistent) {e : LayoutEntry}
    (first : d.layout.entry? e.id = some e) : d.layout.grid.fits e.position = true := by
  have listed : e ∈ d.layout.entries := List.mem_of_find?_eq_some first
  obtain ⟨p, place, same⟩ := List.mem_map.mp (consistent.owned e listed)
  have found := consistent.placed p place
  rw [same] at found
  cases found.symm.trans first
  exact consistent.fits _ place

/-- A checked write is sound if and only if what is not checked is. -/
theorem Checked.sound_iff {w : Write} (checked : w.Checked) : w.Sound w.body ↔ w.RestFits := by
  cases w with
  | create input =>
    have layout : input.encode.under? "layout" = input.layout.map Layout.encode := by
      simp [NewDashboard.encode, Json.under?_ofMembers]
    refine ⟨fun _ => trivial, fun _ j here => ?_⟩
    obtain ⟨l, given, rfl⟩ := Option.map_eq_some_iff.mp (layout.symm.trans here)
    have bare : l.entries = [] := checked l given
    refine Json.layoutSound_encode.mpr fun e listed => ?_
    rw [bare] at listed
    cases listed
  | update id input =>
    have layout : input.encode.under? "layout" = input.layout.map Layout.encode := by
      simp [DashboardChange.encode, Json.under?_ofMembers]
    constructor
    · intro sound l given
      exact Json.layoutSound_encode.mp (sound l.encode (by rw [body, layout, given]; rfl))
    · intro fits j here
      obtain ⟨l, given, rfl⟩ := Option.map_eq_some_iff.mp (layout.symm.trans here)
      exact Json.layoutSound_encode.mpr (fits l given)
  | saveLayout d =>
    refine Json.layoutSound_encode.trans ⟨fun sound e listed _ => sound e listed, ?_⟩
    intro fits e listed
    -- consistency looks at the first entry with an id only
    by_cases first : d.layout.entry? e.id = some e
    · exact entry_fits_of_consistent checked first
    · exact fits e listed first
  | addWidget d input =>
    have position : input.encode.under? "position" = some input.position.encode := by
      simp [NewWidget.encode, Json.under?_ofMembers]
    have config : input.encode.under? "config" = some (.object input.config) := by
      simp [NewWidget.encode, Json.under?_ofMembers]
    have kind : input.encode.under? "type" = some (.string input.kind.name) := by
      simp [NewWidget.encode, Json.under?_ofMembers, WidgetKind.encode]
    refine ⟨fun _ => trivial, fun _ => ⟨fun p here => ?_, fun c here => ?_⟩⟩
    · cases position.symm.trans here
      exact Json.positionSound_encode.mpr checked.1
    · cases config.symm.trans here
      exact ⟨input.kind, kind, Json.configSound_object.mpr checked.2⟩
  | updateWidget d widget input =>
    have position : input.encode.under? "position" = input.position.map Position.encode := by
      simp [WidgetChange.encode, Json.under?_ofMembers]
    have config : input.encode.under? "config" = input.config.map .object := by
      simp [WidgetChange.encode, Json.under?_ofMembers]
    obtain ⟨w, found, fits, usable⟩ := checked
    refine ⟨fun _ => trivial, fun _ => ⟨fun j here => ?_, fun j here => ?_⟩⟩
    · obtain ⟨p, given, rfl⟩ := Option.map_eq_some_iff.mp (position.symm.trans here)
      exact Json.positionSound_encode.mpr (fits p given)
    · obtain ⟨c, given, rfl⟩ := Option.map_eq_some_iff.mp (config.symm.trans here)
      exact ⟨w, found, Json.configSound_object.mpr (usable c given)⟩

/-! ## Every call -/

/-- What is sent is the body of the write, and it is sound if and only if what is not checked is.
A write that is not sound for another reason is refused and sends nothing. -/
theorem call_sound {σ : Type} (c : ApiClient) (transport : Transport σ) (w : Write) (s : σ) :
    (∀ request ∈ c.sent transport w.exchange s, request.body = some w.body ∧
      (w.Sound w.body ↔ w.RestFits)) ∧
      (w.RestFits → ¬ w.Sound w.body → c.sent transport w.exchange s = [] ∧
        ∃ refusal, c.call transport w.exchange s = (s, .error (.refused refusal))) := by
  cases accepted : w.exchange with
  | error refusal =>
    refine ⟨fun request sent => ?_, fun _ _ => ⟨rfl, refusal, rfl⟩⟩
    cases sent
  | ok e =>
    obtain ⟨body, checked⟩ := exchange_spec accepted
    constructor
    · intro request sent
      rw [ApiClient.sent_ok, Option.mem_toList] at sent
      exact ⟨(ApiClient.request?_body sent).trans body, checked.sound_iff⟩
    · intro fits unsound
      exact absurd (checked.sound_iff.mpr fits) unsound

def loopback : ApiClient := .ofBase "http://127.0.0.1:9"

def unanswered : Transport Unit := fun _ s => (s, none)

def board (entries : List LayoutEntry) : Dashboard where
  id := "board"
  name := "Notes"
  description := none
  owner := "owner"
  widgets := [.ofKind "note" .text "Note" ⟨0, 0, 4, 2⟩]
  layout := ⟨.default, .auto, entries⟩
  isPublic := false
  createdAt := ⟨0, 0⟩
  updatedAt := ⟨0, 0⟩

def relayout (entries : List LayoutEntry) : DashboardChange :=
  ⟨none, none, some ⟨.default, .auto, entries⟩, none⟩

def note : LayoutEntry := ⟨"note", ⟨0, 0, 4, 2⟩⟩

def stray : LayoutEntry := ⟨"note", ⟨12, 0, 4, 2⟩⟩

/-- A layout on its grid is sent as it is, and a widget off the grid is not sent. -/
theorem call_sound_board :
    let moved : Write := update "board" (relayout [note])
    let added : Write := addWidget (board [note]) ⟨.text, "Note", [], stray.position⟩
    (loopback.sent unanswered moved.exchange ()).isEmpty = false ∧
      (∀ request ∈ loopback.sent unanswered moved.exchange (),
        request.body = some moved.body ∧ moved.Sound moved.body) ∧
      loopback.sent unanswered added.exchange () = [] := by
  intro moved added
  refine ⟨by decide +kernel, fun request sent => ?_, ?_⟩
  · obtain ⟨body, sound⟩ := (call_sound loopback unanswered moved ()).1 request sent
    refine ⟨body, sound.mpr ?_⟩
    rintro layout ⟨⟩
    decide
  · refine ((call_sound loopback unanswered added ()).2 trivial fun sound => ?_).1
    have position : added.body.under? "position" = some stray.position.encode := by
      simp [added, body, NewWidget.encode, Json.under?_ofMembers]
    exact absurd (Json.positionSound_encode.mp (sound.1 _ position)) (by decide)

/-- A changed layout off its grid is sent, and so is a stored one with a second entry for a widget
off its grid. -/
theorem call_not_sound :
    let moved : Write := update "board" (relayout [stray])
    let stored : Write := saveLayout (board [note, stray])
    (loopback.sent unanswered moved.exchange ()).isEmpty = false ∧ ¬ moved.Sound moved.body ∧
      (loopback.sent unanswered stored.exchange ()).isEmpty = false ∧
        ¬ stored.Sound stored.body := by
  intro moved stored
  refine ⟨by decide +kernel, fun sound => ?_, by decide +kernel, fun sound => ?_⟩
  · have fits := (Checked.sound_iff (w := moved) trivial).mp sound _ rfl stray (by decide)
    exact absurd fits (by decide)
  · have fits := Json.layoutSound_encode.mp sound stray (by decide)
    exact absurd fits (by decide)

end Write

end ControlPanel
