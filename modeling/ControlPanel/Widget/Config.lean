import ControlPanel.Refusal

/-!
# Configurations of widgets

What the configuration of each kind of widget must hold. The required keys are looked for first,
then the types of their values are checked, and last the refresh interval, which every kind may
have. Other keys do not matter.
-/

namespace ControlPanel

namespace WidgetKind

def requireString (kind : WidgetKind) (config : Members) (key : String) :
    Except Refusal String :=
  match (config.find? key).bind Json.string? with
  | some s => .ok s
  | none => .error (.invalid (.notString kind key))

def missingKey? (kind : WidgetKind) (config : Members) : Option String :=
  kind.requiredKeys.find? fun key => !config.contains key

def nonString? (items : List Json) : Option Nat := items.findIdx? fun item => !item.isString

def checkColumns (config : Members) : Except Refusal Unit :=
  match config.find? "columns" with
  | some (.array []) => .error (.invalid .noColumns)
  | some (.array items) => match nonString? items with
    | some index => .error (.invalid (.columnNotString index))
    | none => .ok ()
  | _ => .error (.invalid .columnsNotArray)

def checkTypes (kind : WidgetKind) (config : Members) : Except Refusal Unit :=
  match kind with
  | .metric => do
    let _ ← kind.requireString config "metric"
    match config.find? "unit" with
    | none => .ok ()
    | some unit => if unit.isString then .ok () else .error (.invalid (.notString kind "unit"))
  | .chart => do
    let chart ← kind.requireString config "chart_type"
    if chart ∈ ChartKind.all.map ChartKind.name then
      let _ ← kind.requireString config "data_source"
      .ok ()
    else .error (.invalid (.unknownChart chart))
  | .table => do
    let _ ← kind.requireString config "data_source"
    checkColumns config
  | .text => do
    let _ ← kind.requireString config "content"
    .ok ()
  | .image => do
    let _ ← kind.requireString config "url"
    .ok ()
  | .custom => .ok ()

def checkRefresh (config : Members) : Except Refusal Unit :=
  match config.find? "refresh_interval" with
  | none => .ok ()
  | some value => match value.natural? with
    | some (_ + 1) => .ok ()
    | _ => .error (.invalid (.badRefreshInterval value))

def validateConfig (kind : WidgetKind) (config : Members) : Except Refusal Unit :=
  match kind.missingKey? config with
  | some key => .error (.invalid (.missingKey kind key))
  | none => do
    kind.checkTypes config
    checkRefresh config

end WidgetKind

end ControlPanel
