import ControlPanel.Layout.Position
import ControlPanel.Widget.Kind

/-!
# Widgets

A widget shows one thing on a dashboard: it has an id, a kind, a title, a configuration, a
position on the grid, and the data that it was last given to show.
-/

namespace ControlPanel

structure Widget where
  id : String
  kind : WidgetKind
  title : String
  config : Members
  data : Option Members
  position : Position

namespace Widget

def ofKind (id : String) (kind : WidgetKind) (title : String) (position : Position) : Widget :=
  ⟨id, kind, title, kind.defaultConfig, none, position⟩

def encode (w : Widget) : Json :=
  .ofMembers ([("id", .string w.id), ("type", w.kind.encode), ("title", .string w.title),
    ("config", .object w.config), ("position", w.position.encode)]
    ++ Json.member? "data" .object w.data)

def record : Json.Record Widget :=
  Widget.mk <$> .field "id" .string <*> .field "type" WidgetKind.decoder
    <*> .field "title" .string <*> .defaulted "config" [] .jsonMap
    <*> .defaultedOption "data" .jsonMap <*> .field "position" Position.decoder

def decoder : Json.Decoder Widget := record.decoder "struct Widget"

end Widget

end ControlPanel
