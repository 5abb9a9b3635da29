import ControlPanel.Dashboard.Issue
import ControlPanel.Json.Printer
import ControlPanel.Widget.Kind

/-!
# Refusals

Why an edit or a request is refused. Every reason is a constructor; the wording is in
`Refusal.message`.
-/

namespace ControlPanel

/-- A field of a request whose length is outside its bounds. -/
structure FieldFault where
  field : String
  min : Option Nat
  max : Nat
  deriving DecidableEq, Repr

inductive Invalidity where
  | noSize (width height : UInt32)
  | tooWide (left right columns : UInt32)
  | tooHigh (top bottom rows : UInt32)
  | missingKey (kind : WidgetKind) (key : String)
  | notString (kind : WidgetKind) (key : String)
  | unknownChart (name : String)
  | columnsNotArray
  | noColumns
  | columnNotString (index : Nat)
  | badRefreshInterval (value : Json)
  | inconsistent (dashboard : String) (issues : List LayoutIssue)
  | layoutWithoutWidgets (ids : List String)
  | fields (faults : List FieldFault)

inductive Refusal where
  | widgetNotFound (id : String)
  | invalid (reason : Invalidity)
  | widgetExists (id dashboard : String)
  | noFreeSlot (width height : UInt32) (dashboard : String)
  | nothingAdded

namespace Invalidity

def word (n : UInt32) : String := Nat.repr n.toNat

/-- The text of a reason. Limits of fields have no text of their own; they are reported as data. -/
def message : Invalidity → String
  | noSize width height =>
    "Widget size must be at least 1x1, got " ++ word width ++ "x" ++ word height
  | tooWide left right columns =>
    "Widget spans columns " ++ word left ++ ".." ++ word right ++ " but the grid has " ++
      word columns ++ " columns"
  | tooHigh top bottom rows =>
    "Widget spans rows " ++ word top ++ ".." ++ word bottom ++ " but the grid has " ++
      word rows ++ " rows"
  | missingKey kind key => kind.name ++ " widget config is missing required key '" ++ key ++ "'"
  | notString kind key => kind.name ++ " widget '" ++ key ++ "' must be a string"
  | unknownChart name =>
    "Invalid chart_type '" ++ name ++ "'. Must be one of: " ++
      ", ".intercalate (ChartKind.all.map ChartKind.name)
  | columnsNotArray => "table widget 'columns' must be an array"
  | noColumns => "table widget needs at least one column"
  | columnNotString index => "table widget columns[" ++ Nat.repr index ++ "] must be a string"
  | badRefreshInterval value =>
    "refresh_interval must be a positive integer, got " ++ value.render
  | inconsistent dashboard issues =>
    "Inconsistent layout for dashboard " ++ dashboard ++ ": " ++
      "; ".intercalate (issues.map LayoutIssue.message)
  | layoutWithoutWidgets ids =>
    "A new dashboard has no widgets, but its layout places: " ++ ", ".intercalate ids
  | fields faults => ", ".intercalate (faults.map FieldFault.field)

end Invalidity

namespace Refusal

def message : Refusal → String
  | widgetNotFound id => "Entity not found: widget with id " ++ id
  | invalid reason => "Validation failed: " ++ reason.message
  | widgetExists id dashboard =>
    "Conflict: Widget " ++ id ++ " already exists on dashboard " ++ dashboard
  | noFreeSlot width height dashboard =>
    "Conflict: No free " ++ Invalidity.word width ++ "x" ++ Invalidity.word height ++
      " slot left on dashboard " ++ dashboard
  | nothingAdded => "Internal error: widget list empty after insert"

end Refusal

end ControlPanel
