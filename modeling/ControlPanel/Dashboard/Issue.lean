/-!
# Inconsistencies of a dashboard

The ways in which the widgets of a dashboard and the entries of its layout can disagree, each with
the id that it concerns.
-/

namespace ControlPanel

inductive LayoutIssue where
  | missingLayoutEntry (id : String)
  | orphanLayoutEntry (id : String)
  | duplicateWidget (id : String)
  | positionMismatch (id : String)
  | outOfBounds (id : String)
  deriving DecidableEq, Repr

namespace LayoutIssue

def id : LayoutIssue → String
  | missingLayoutEntry id | orphanLayoutEntry id | duplicateWidget id | positionMismatch id
  | outOfBounds id => id

def message : LayoutIssue → String
  | missingLayoutEntry id => "widget " ++ id ++ " has no layout entry"
  | orphanLayoutEntry id => "layout entry " ++ id ++ " has no widget"
  | duplicateWidget id => "widget " ++ id ++ " appears more than once"
  | positionMismatch id => "widget " ++ id ++ " position differs from its layout entry"
  | outOfBounds id => "widget " ++ id ++ " does not fit the grid"

end LayoutIssue

end ControlPanel
