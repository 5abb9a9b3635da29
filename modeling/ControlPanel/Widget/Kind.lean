import ControlPanel.Json.Decoder

/-!
# Kinds of widgets

What a widget can show. Each kind has a name in documents, a size in grid cells in which it is
placed by default, a configuration to start with, and the keys that a configuration must have.
-/

namespace ControlPanel

inductive WidgetKind where
  | metric
  | chart
  | table
  | text
  | image
  | custom
  deriving DecidableEq, Repr

inductive ChartKind where
  | line
  | bar
  | area
  | pie
  deriving DecidableEq, Repr

namespace ChartKind

def all : List ChartKind := [line, bar, area, pie]

def name : ChartKind → String
  | line => "line"
  | bar => "bar"
  | area => "area"
  | pie => "pie"

end ChartKind

namespace WidgetKind

def all : List WidgetKind := [metric, chart, table, text, image, custom]

def name : WidgetKind → String
  | metric => "metric"
  | chart => "chart"
  | table => "table"
  | text => "text"
  | image => "image"
  | custom => "custom"

/-- Width and height in grid cells. -/
def defaultSize : WidgetKind → UInt32 × UInt32
  | metric => (3, 2)
  | chart => (6, 4)
  | table => (6, 4)
  | text => (4, 2)
  | image => (4, 3)
  | custom => (4, 3)

/-- The keys that a configuration must have, in the order in which they are looked for. -/
def requiredKeys : WidgetKind → List String
  | metric => ["metric"]
  | chart => ["chart_type", "data_source"]
  | table => ["data_source", "columns"]
  | text => ["content"]
  | image => ["url"]
  | custom => []

def defaultConfig : WidgetKind → Members
  | metric => .ofList [("metric", .string ""), ("unit", .string ""), ("refresh_interval", .nat 30)]
  | chart => .ofList [("chart_type", .string ChartKind.line.name), ("data_source", .string "")]
  | table => .ofList [("data_source", .string ""), ("columns", .array [])]
  | text => .ofList [("content", .string "")]
  | image => .ofList [("url", .string "")]
  | custom => []

def encode (kind : WidgetKind) : Json := .string kind.name

def decoder : Json.Decoder WidgetKind := .variant (all.map fun kind => (kind.name, kind))

end WidgetKind

end ControlPanel
