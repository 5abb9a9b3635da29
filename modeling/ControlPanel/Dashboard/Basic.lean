import ControlPanel.Layout.Grid
import ControlPanel.Time.Timestamp
import ControlPanel.Widget.Basic

/-!
# Dashboards

A dashboard keeps the positions of its widgets twice: each widget has its own, and the layout has
an entry with the id and the position of each widget.
-/

namespace ControlPanel

inductive Theme where
  | light
  | dark
  | auto
  deriving DecidableEq, Repr

/-- The place of a widget in a layout. -/
structure LayoutEntry where
  id : String
  position : Position
  deriving DecidableEq, Repr

structure Layout where
  grid : Grid
  theme : Theme
  entries : List LayoutEntry
  deriving DecidableEq, Repr

structure Dashboard where
  id : String
  name : String
  description : Option String
  owner : String
  widgets : List Widget
  layout : Layout
  isPublic : Bool
  createdAt : Instant
  updatedAt : Instant

namespace Theme

def all : List Theme := [light, dark, auto]

def name : Theme → String
  | light => "light"
  | dark => "dark"
  | auto => "auto"

def encode (theme : Theme) : Json := .string theme.name

def decoder : Json.Decoder Theme := .variant (all.map fun theme => (theme.name, theme))

end Theme

namespace LayoutEntry

def ofWidget (w : Widget) : LayoutEntry := ⟨w.id, w.position⟩

def encode (e : LayoutEntry) : Json :=
  .ofMembers [("id", .string e.id), ("x", .nat e.position.x.toNat),
    ("y", .nat e.position.y.toNat), ("width", .nat e.position.width.toNat),
    ("height", .nat e.position.height.toNat)]

/-- The id of an entry stands beside the members of its position, so an entry is read from an
object only, and twice: first the id and every other value, then the position. -/
def decoder : Json.Decoder LayoutEntry
  | source, .object deep members ending => do
    if deep then .error (.text .tooDeep)
    let unknown (node : Json.Node) : Option Json.Fault := match Json.Decoder.readJson node with
      | .error fault => some fault
      | .ok _ => none
    let id ← (Json.Record.field "id" .string).ofMembers unknown source members ending
    let position ← Position.record.ofMembers (fun _ => none) source members ending
    return ⟨id, position⟩
  | _, node => Json.Decoder.mismatch node "struct LayoutItem"

end LayoutEntry

namespace Layout

def default : Layout := ⟨Grid.default, .auto, []⟩

def entry? (l : Layout) (id : String) : Option LayoutEntry := l.entries.find? (·.id = id)

def encode (l : Layout) : Json :=
  .ofMembers [("grid", l.grid.encode), ("theme", l.theme.encode),
    ("widgets", .array (l.entries.map LayoutEntry.encode))]

def record : Json.Record Layout :=
  Layout.mk <$> .defaulted "grid" Grid.default Grid.decoder
    <*> .defaulted "theme" .auto Theme.decoder
    <*> .defaulted "widgets" [] (.list LayoutEntry.decoder)

def decoder : Json.Decoder Layout := record.decoder "struct DashboardLayout"

end Layout

namespace Dashboard

def widget? (d : Dashboard) (id : String) : Option Widget := d.widgets.find? (·.id = id)

def encode (d : Dashboard) : Json :=
  .ofMembers [("id", .string d.id), ("name", .string d.name),
    ("description", Json.ofOption .string d.description), ("user_id", .string d.owner),
    ("widgets", .array (d.widgets.map Widget.encode)), ("layout", d.layout.encode),
    ("is_public", .bool d.isPublic), ("created_at", d.createdAt.encode),
    ("updated_at", d.updatedAt.encode)]

def record : Json.Record Dashboard :=
  Dashboard.mk <$> .field "id" .string <*> .field "name" .string
    <*> .defaultedOption "description" .string <*> .field "user_id" .string
    <*> .defaulted "widgets" [] (.list Widget.decoder)
    <*> .defaulted "layout" Layout.default Layout.decoder
    <*> .defaulted "is_public" false .bool <*> .field "created_at" Instant.decoder
    <*> .field "updated_at" Instant.decoder

def decoder : Json.Decoder Dashboard := record.decoder "struct Dashboard"

end Dashboard

end ControlPanel
