import ControlPanel.Backend.Status
import ControlPanel.Plugin.Basic
import ControlPanel.Proofs.Json.Fields
import ControlPanel.Proofs.Time.Timestamp

/-!
# Documents of the data model

Every value of the data model is read back from the document that was written of it
(`documents_roundTrip`). For each type there is what its values must hold to have a document, and
that its fields fill the record: a member that is left out stands for what is then assumed.
-/

namespace ControlPanel

open Json

/-! ## Positions and layouts -/

theorem Position.plain_encode (p : Position) : p.encode.Plain := plain_ofMembers (by simp)

theorem Position.fills {j : Json} {p : Position} (x : j.under? "x" = some (.nat p.x.toNat))
    (y : j.under? "y" = some (.nat p.y.toNat))
    (width : j.under? "width" = some (.nat p.width.toNat))
    (height : j.under? "height" = some (.nat p.height.toNat)) : Position.record.Fills j p :=
  (((Record.Fills.field x (.word p.x)).map Position.mk).seq (.field y (.word p.y))).seq
    (.field width (.word p.width)) |>.seq (.field height (.word p.height))

theorem Position.reads (p : Position) : Position.decoder.Reads p.encode p := by
  have fields : Position.record.Fills p.encode p := by
    apply Position.fills <;> simp [encode, under?_ofMembers]
  exact fields.reads _

theorem LayoutEntry.plain_encode (e : LayoutEntry) : e.encode.Plain := plain_ofMembers (by simp)

theorem LayoutEntry.reads (e : LayoutEntry) : LayoutEntry.decoder.Reads e.encode e := by
  have id : (Record.field "id" .string).Fills e.encode e.id :=
    .field (by simp [encode, under?_ofMembers]) (.string e.id)
  have position : Position.record.Fills e.encode e.position := by
    apply Position.fills <;> simp [encode, under?_ofMembers]
  intro v once same
  obtain ⟨members, rfl, -⟩ := exists_of_sorted_eq_object same
  rw [Node.ofJson, LayoutEntry.decoder]
  simp only [Bool.false_eq_true, if_false, bind, Except.bind, pure, Except.pure]
  rw [id.ofMembers _ once same (fun v => by rw [Decoder.readJson_ofJson]),
    position.ofMembers _ once same fun _ => rfl]

theorem Grid.plain_encode (g : Grid) : g.encode.Plain := plain_ofMembers (by simp)

theorem Grid.reads (g : Grid) : Grid.decoder.Reads g.encode g := by
  refine (Record.Fills.map Grid.mk (.field ?_ (.word g.columns))
    |>.seq (.field ?_ (.word g.rows)) |>.seq (.field ?_ (.word g.cellWidth))
    |>.seq (.field ?_ (.word g.cellHeight)) |>.seq (.given ?_ (.word g.gap))).reads _
  all_goals simp [under?_ofMembers]

theorem Theme.reads (theme : Theme) : Theme.decoder.Reads theme.encode theme := by
  have found : (Theme.all.map fun theme => (theme.name, theme)).find? (·.1 = theme.name) =
      some (theme.name, theme) := by
    cases theme <;> rfl
  exact .variant found

theorem Layout.plain_encode (l : Layout) : l.encode.Plain := by
  have entries : Plain (.array (l.entries.map LayoutEntry.encode)) :=
    plain_array (List.forall_mem_map.mpr fun e _ => e.plain_encode)
  exact plain_ofMembers (by simp [Theme.encode, entries, l.grid.plain_encode])

theorem Layout.reads (l : Layout) : Layout.decoder.Reads l.encode l := by
  refine (Record.Fills.map Layout.mk (.given ?_ l.grid.reads)
    |>.seq (.given ?_ l.theme.reads)
    |>.seq (.given ?_ (.list fun e _ => LayoutEntry.reads e))).reads _
  all_goals simp [under?_ofMembers]

/-! ## Widgets -/

structure Widget.IsPlain (w : Widget) : Prop where
  config : Plain (.object w.config)
  data : ∀ data, w.data = some data → Plain (.object data)

theorem WidgetKind.reads (kind : WidgetKind) : WidgetKind.decoder.Reads kind.encode kind := by
  have found : (WidgetKind.all.map fun kind => (kind.name, kind)).find? (·.1 = kind.name) =
      some (kind.name, kind) := by
    cases kind <;> rfl
  exact .variant found

theorem Widget.plain_encode {w : Widget} (plain : w.IsPlain) : w.encode.Plain := by
  refine plain_ofMembers (List.forall_mem_append.mpr ⟨?_, plain_member? plain.data⟩)
  simp [WidgetKind.encode, plain.config, w.position.plain_encode]

theorem Widget.reads (w : Widget) : Widget.decoder.Reads w.encode w := by
  refine (Record.Fills.map Widget.mk (.field ?_ (.string w.id))
    |>.seq (.field ?_ w.kind.reads) |>.seq (.field ?_ (.string w.title))
    |>.seq (.given ?_ (.jsonMap w.config))
    |>.seq (.omitted ?_ fun data _ => ⟨.jsonMap data, nofun⟩)
    |>.seq (.field ?_ w.position.reads)).reads _
  all_goals simp [under?_ofMembers]

theorem NewWidget.plain_encode {r : NewWidget} (config : Plain (.object r.config)) :
    r.encode.Plain :=
  plain_ofMembers (by simp [WidgetKind.encode, config, r.position.plain_encode])

theorem NewWidget.reads (r : NewWidget) : NewWidget.decoder.Reads r.encode r := by
  refine (Record.Fills.map NewWidget.mk (.field ?_ r.kind.reads)
    |>.seq (.field ?_ (.string r.title)) |>.seq (.given ?_ (.jsonMap r.config))
    |>.seq (.field ?_ r.position.reads)).reads _
  all_goals simp [under?_ofMembers]

theorem WidgetChange.plain_encode {r : WidgetChange}
    (config : ∀ config, r.config = some config → Plain (.object config)) : r.encode.Plain := by
  refine plain_ofMembers (List.forall_mem_append.mpr ⟨List.forall_mem_append.mpr ⟨?_, ?_⟩, ?_⟩)
  · exact plain_member? fun title _ => plain_string title
  · exact plain_member? config
  · exact plain_member? fun p _ => p.plain_encode

theorem WidgetChange.reads (r : WidgetChange) : WidgetChange.decoder.Reads r.encode r := by
  refine (Record.Fills.map WidgetChange.mk (.optional ?_ fun title _ => ⟨.string title, nofun⟩)
    |>.seq (.optional ?_ fun config _ => ⟨.jsonMap config, nofun⟩)
    |>.seq (.optional ?_ fun p _ => ⟨Position.reads p, nofun⟩)).reads _
  all_goals simp [under?_ofMembers]

/-! ## Dashboards -/

theorem Instant.reads {t : Instant} (named : t.IsNamed) : Instant.decoder.Reads t.encode t :=
  .parsed _ (by rw [ofText_text named]; rfl)

structure Dashboard.IsPlain (d : Dashboard) : Prop where
  widgets : ∀ w ∈ d.widgets, w.IsPlain
  createdAt : d.createdAt.IsNamed
  updatedAt : d.updatedAt.IsNamed

theorem Dashboard.plain_encode {d : Dashboard} (plain : d.IsPlain) : d.encode.Plain := by
  have widgets : Plain (.array (d.widgets.map Widget.encode)) :=
    plain_array (List.forall_mem_map.mpr fun w listed =>
      Widget.plain_encode (plain.widgets w listed))
  have description : (ofOption Json.string d.description).Plain :=
    plain_ofOption fun text _ => plain_string text
  exact plain_ofMembers (by simp [Instant.encode, widgets, description, d.layout.plain_encode])

theorem Dashboard.reads {d : Dashboard} (plain : d.IsPlain) :
    Dashboard.decoder.Reads d.encode d := by
  refine (Record.Fills.map Dashboard.mk (.field ?_ (.string d.id))
    |>.seq (.field ?_ (.string d.name))
    |>.seq (.given ?_ (.option fun text _ => ⟨.string text, nofun⟩))
    |>.seq (.field ?_ (.string d.owner)) |>.seq (.given ?_ (.list fun w _ => Widget.reads w))
    |>.seq (.given ?_ d.layout.reads) |>.seq (.given ?_ (.bool d.isPublic))
    |>.seq (.field ?_ (Instant.reads plain.createdAt))
    |>.seq (.field ?_ (Instant.reads plain.updatedAt))).reads _
  all_goals simp [under?_ofMembers]

theorem NewDashboard.plain_encode (r : NewDashboard) : r.encode.Plain := by
  refine plain_ofMembers (List.forall_mem_append.mpr ⟨List.forall_mem_append.mpr ⟨?_, ?_⟩, ?_⟩)
  · exact List.forall_mem_cons.mpr ⟨plain_string r.name, plain_member? fun s _ => plain_string s⟩
  · exact plain_member? fun l _ => l.plain_encode
  · exact plain_member? fun b _ => plain_bool b

theorem NewDashboard.reads (r : NewDashboard) : NewDashboard.decoder.Reads r.encode r := by
  refine (Record.Fills.map NewDashboard.mk (.field ?_ (.string r.name))
    |>.seq (.optional ?_ fun text _ => ⟨.string text, nofun⟩)
    |>.seq (.optional ?_ fun l _ => ⟨Layout.reads l, nofun⟩)
    |>.seq (.optional ?_ fun b _ => ⟨.bool b, nofun⟩)).reads _
  all_goals simp [under?_ofMembers]

theorem DashboardChange.plain_encode (r : DashboardChange) : r.encode.Plain := by
  refine plain_ofMembers (List.forall_mem_append.mpr ⟨List.forall_mem_append.mpr
    ⟨List.forall_mem_append.mpr ⟨?_, ?_⟩, ?_⟩, ?_⟩)
  · exact plain_member? fun s _ => plain_string s
  · exact plain_member? fun s _ => plain_string s
  · exact plain_member? fun l _ => l.plain_encode
  · exact plain_member? fun b _ => plain_bool b

theorem DashboardChange.reads (r : DashboardChange) :
    DashboardChange.decoder.Reads r.encode r := by
  refine (Record.Fills.map DashboardChange.mk (.optional ?_ fun text _ => ⟨.string text, nofun⟩)
    |>.seq (.optional ?_ fun text _ => ⟨.string text, nofun⟩)
    |>.seq (.optional ?_ fun l _ => ⟨Layout.reads l, nofun⟩)
    |>.seq (.optional ?_ fun b _ => ⟨.bool b, nofun⟩)).reads _
  all_goals simp [under?_ofMembers]

/-! ## Plugins -/

structure Plugin.IsPlain (p : Plugin) : Prop where
  config : Plain (.object p.config)
  createdAt : p.createdAt.IsNamed
  updatedAt : p.updatedAt.IsNamed

theorem PluginStatus.reads (status : PluginStatus) :
    PluginStatus.decoder.Reads status.encode status := by
  have found : (PluginStatus.all.map fun status => (status.name, status)).find?
      (·.1 = status.name) = some (status.name, status) := by
    cases status <;> rfl
  exact .variant found

theorem Plugin.plain_encode {p : Plugin} (plain : p.IsPlain) : p.encode.Plain := by
  have text (o : Option String) : (ofOption Json.string o).Plain :=
    plain_ofOption fun text _ => plain_string text
  exact plain_ofMembers (by simp [PluginStatus.encode, Instant.encode, text, plain.config])

theorem Plugin.reads {p : Plugin} (plain : p.IsPlain) : Plugin.decoder.Reads p.encode p := by
  refine (Record.Fills.map Plugin.mk (.field ?_ (.string p.id))
    |>.seq (.field ?_ (.string p.name)) |>.seq (.field ?_ (.string p.version))
    |>.seq (.given ?_ (.option fun text _ => ⟨.string text, nofun⟩))
    |>.seq (.given ?_ (.option fun text _ => ⟨.string text, nofun⟩))
    |>.seq (.given ?_ (.bool p.enabled)) |>.seq (.field ?_ p.status.reads)
    |>.seq (.given ?_ (.jsonMap p.config))
    |>.seq (.field ?_ (Instant.reads plain.createdAt))
    |>.seq (.field ?_ (Instant.reads plain.updatedAt))).reads _
  all_goals simp [under?_ofMembers]

theorem PluginInstall.plain_encode {r : PluginInstall} (config : Plain (.object r.config)) :
    r.encode.Plain := by
  refine plain_ofMembers (List.forall_mem_append.mpr ⟨?_, ?_⟩)
  · exact List.forall_mem_cons.mpr ⟨plain_string r.source, plain_member? fun s _ => plain_string s⟩
  · split
    · exact fun _ listed => absurd listed List.not_mem_nil
    · simp [config]

theorem PluginInstall.reads (r : PluginInstall) : PluginInstall.decoder.Reads r.encode r := by
  have config : (Record.defaulted "config" [] .jsonMap).Fills r.encode r.config := by
    by_cases empty : r.config.isEmpty
    · have missing : r.encode.under? "config" = none := by
        simp [encode, under?_ofMembers, empty]
      rw [List.isEmpty_iff.mp empty]
      exact .defaulted (fun w here => by cases missing.symm.trans here) fun _ => rfl
    · exact .given (by simp [encode, under?_ofMembers, empty]) (.jsonMap r.config)
  refine (Record.Fills.map PluginInstall.mk (.field ?_ (.string r.source))
    |>.seq (.optional ?_ fun text _ => ⟨.string text, nofun⟩) |>.seq config).reads _
  all_goals
    simp only [encode, under?_ofMembers]
    split <;> simp

/-! ## The state of the backend -/

structure SystemStatus.IsPlain (s : SystemStatus) : Prop where
  uptime : ∀ seconds, s.uptimeSeconds = some seconds → seconds < UInt64.size
  components : Keyed.Sorted s.components
  timestamp : ∀ t, s.timestamp = some t → t.IsNamed

theorem ComponentHealth.plain_encode (c : ComponentHealth) : c.encode.Plain := by
  have message : (ofOption Json.string c.message).Plain :=
    plain_ofOption fun text _ => plain_string text
  exact plain_ofMembers (by simp [message])

theorem ComponentHealth.reads (c : ComponentHealth) :
    ComponentHealth.decoder.Reads c.encode c := by
  refine (Record.Fills.map ComponentHealth.mk (.field ?_ (.string c.status))
    |>.seq (.given ?_ (.option fun text _ => ⟨.string text, nofun⟩))).reads _
  all_goals simp [under?_ofMembers]

theorem ComponentHealth.plain_encodeAll {components : Keyed ComponentHealth}
    (sorted : Keyed.Sorted components) : (encodeAll components).Plain := by
  refine plain_object (List.pairwise_map.mpr sorted) ?_
  exact List.forall_mem_map.mpr fun entry _ => entry.2.plain_encode

theorem ComponentHealth.reads_all (components : Keyed ComponentHealth) :
    (Decoder.dictionary ComponentHealth.decoder).Reads (encodeAll components) components :=
  .dictionary fun entry _ => entry.2.reads

theorem SystemStatus.plain_encode {s : SystemStatus} (plain : s.IsPlain) : s.encode.Plain := by
  have version : (ofOption Json.string s.version).Plain :=
    plain_ofOption fun text _ => plain_string text
  have uptime : (ofOption nat s.uptimeSeconds).Plain :=
    plain_ofOption fun seconds given => plain_nat (plain.uptime seconds given)
  have timestamp : (ofOption Instant.encode s.timestamp).Plain :=
    plain_ofOption fun t _ => plain_string t.text
  have components := ComponentHealth.plain_encodeAll plain.components
  exact plain_ofMembers (by simp [version, uptime, timestamp, components])

theorem SystemStatus.reads {s : SystemStatus} (plain : s.IsPlain) :
    SystemStatus.decoder.Reads s.encode s := by
  refine (Record.Fills.map SystemStatus.mk (.field ?_ (.string s.status))
    |>.seq (.given ?_ (.option fun text _ => ⟨.string text, nofun⟩))
    |>.seq (.given ?_ (.option fun seconds given =>
      ⟨.natural64 (plain.uptime seconds given), nofun⟩))
    |>.seq (.given ?_ (ComponentHealth.reads_all s.components))
    |>.seq (.given ?_ (.option fun t given =>
      ⟨Instant.reads (plain.timestamp t given), nofun⟩))).reads _
  all_goals simp [under?_ofMembers]

theorem HealthReport.plain_encode {r : HealthReport} (checks : Keyed.Sorted r.checks) :
    r.encode.Plain :=
  plain_ofMembers (by simp [ComponentHealth.plain_encodeAll checks])

theorem HealthReport.reads (r : HealthReport) : HealthReport.decoder.Reads r.encode r := by
  refine (Record.Fills.map HealthReport.mk (.field ?_ (.string r.status))
    |>.seq (.given ?_ (ComponentHealth.reads_all r.checks))).reads _
  all_goals simp [under?_ofMembers]

/-! ## All documents -/

/-- A value that fits is read back from every text of its document, and there is such a text. -/
def RoundTrips {α : Type} (encode : α → Json) (d : Decoder α) (Fits : α → Prop) : Prop :=
  ∀ a, Fits a → (encode a).depth < depthLimit → Writes (encode a).render (encode a) ∧
    ∀ text, Writes text (encode a) → d.ofText text = .ok a

theorem roundTrips {α : Type} {encode : α → Json} {d : Decoder α} {Fits : α → Prop}
    (plain : ∀ a, Fits a → (encode a).Plain) (reads : ∀ a, Fits a → d.Reads (encode a) a) :
    RoundTrips encode d Fits := by
  intro a fits shallow
  have inOrder := (plain a fits).canonical
  refine ⟨writes_render inOrder, fun text writes => ?_⟩
  exact (reads a fits).ofText writes (plain a fits).whole shallow

theorem documents_roundTrip :
    RoundTrips LayoutEntry.encode LayoutEntry.decoder (fun _ => True) ∧
    RoundTrips Layout.encode Layout.decoder (fun _ => True) ∧
    RoundTrips Widget.encode Widget.decoder Widget.IsPlain ∧
    RoundTrips Dashboard.encode Dashboard.decoder Dashboard.IsPlain ∧
    RoundTrips NewDashboard.encode NewDashboard.decoder (fun _ => True) ∧
    RoundTrips DashboardChange.encode DashboardChange.decoder (fun _ => True) ∧
    RoundTrips NewWidget.encode NewWidget.decoder (fun r => Plain (.object r.config)) ∧
    RoundTrips WidgetChange.encode WidgetChange.decoder
      (fun r => ∀ config, r.config = some config → Plain (.object config)) ∧
    RoundTrips PluginInstall.encode PluginInstall.decoder (fun r => Plain (.object r.config)) ∧
    RoundTrips Plugin.encode Plugin.decoder Plugin.IsPlain ∧
    RoundTrips SystemStatus.encode SystemStatus.decoder SystemStatus.IsPlain ∧
    RoundTrips HealthReport.encode HealthReport.decoder (fun r => Keyed.Sorted r.checks) := by
  refine ⟨?_, ?_, ?_, ?_, ?_, ?_, ?_, ?_, ?_, ?_, ?_, ?_⟩
  · exact roundTrips (fun e _ => e.plain_encode) fun e _ => e.reads
  · exact roundTrips (fun l _ => l.plain_encode) fun l _ => l.reads
  · exact roundTrips (fun _ plain => Widget.plain_encode plain) fun w _ => w.reads
  · exact roundTrips (fun _ plain => Dashboard.plain_encode plain) fun _ => Dashboard.reads
  · exact roundTrips (fun r _ => r.plain_encode) fun r _ => r.reads
  · exact roundTrips (fun r _ => r.plain_encode) fun r _ => r.reads
  · exact roundTrips (fun _ config => NewWidget.plain_encode config) fun r _ => r.reads
  · exact roundTrips (fun _ config => WidgetChange.plain_encode config) fun r _ => r.reads
  · exact roundTrips (fun _ config => PluginInstall.plain_encode config) fun r _ => r.reads
  · exact roundTrips (fun _ plain => Plugin.plain_encode plain) fun _ => Plugin.reads
  · exact roundTrips (fun _ plain => SystemStatus.plain_encode plain) fun _ => SystemStatus.reads
  · exact roundTrips (fun _ checks => HealthReport.plain_encode checks) fun r _ => r.reads

def loadBoard : Dashboard where
  id := "load"
  name := "Load"
  description := none
  owner := "owner"
  widgets := [⟨"cpu", .metric, "CPU", [("metric", .string "cpu"), ("refresh_interval", .nat 30)],
    none, ⟨0, 0, 3, 2⟩⟩]
  layout := ⟨.default, .dark, [⟨"cpu", ⟨0, 0, 3, 2⟩⟩]⟩
  isPublic := true
  createdAt := ⟨0, 0⟩
  updatedAt := ⟨1709210096, 5000000⟩

def loadDocument : Json :=
  .object [("id", .string "load"), ("name", .string "Load"), ("description", .null),
    ("user_id", .string "owner"),
    ("widgets", .array [.object [("id", .string "cpu"), ("type", .string "metric"),
      ("title", .string "CPU"),
      ("config", .object [("refresh_interval", .nat 30), ("metric", .string "cpu")]),
      ("position", .object [("x", .nat 0), ("y", .nat 0), ("width", .nat 3),
        ("height", .nat 2)])]]),
    ("layout", .object [
      ("grid", .object [("columns", .nat 12), ("rows", .nat 8), ("cell_width", .nat 100),
        ("cell_height", .nat 80), ("gap", .nat 10)]),
      ("theme", .string "dark"),
      ("widgets", .array [.object [("id", .string "cpu"), ("x", .nat 0), ("y", .nat 0),
        ("width", .nat 3), ("height", .nat 2)]])]),
    ("is_public", .bool true), ("created_at", .string "1970-01-01T00:00:00Z"),
    ("updated_at", .string "2024-02-29T12:34:56.005Z")]

theorem writes_loadDocument : Writes loadDocument.render loadBoard.encode := by
  refine ⟨loadDocument, ?_, ?_, rfl⟩
  · simp [loadDocument, nat, NoRepeats, NoRepeatsItems, NoRepeatsMembers]
  · rfl

theorem documents_roundTrip_loadBoard :
    loadBoard.IsPlain ∧ loadBoard.encode.depth < depthLimit ∧
      Dashboard.decoder.ofText loadDocument.render = .ok loadBoard := by
  have config : Plain (.object [("metric", .string "cpu"), ("refresh_interval", .nat 30)]) :=
    plain_object (List.pairwise_pair.mpr (by decide))
      (by simp [plain_nat (show 30 < UInt64.size by decide)])
  have plain : loadBoard.IsPlain := by
    refine ⟨?_, ⟨?_, ?_, ?_, ?_⟩, ⟨?_, ?_, ?_, ?_⟩⟩
    · exact List.forall_mem_singleton.mpr ⟨config, nofun⟩
    all_goals decide
  have shallow : loadBoard.encode.depth < depthLimit := by decide
  have board := documents_roundTrip.2.2.2.1 loadBoard plain shallow
  exact ⟨plain, shallow, board.2 _ writes_loadDocument⟩

end ControlPanel
