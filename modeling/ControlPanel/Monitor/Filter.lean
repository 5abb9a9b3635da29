import ControlPanel.Monitor.Notice
import ControlPanel.Text.Blank

/-!
# Filters of the log

Which notices are written is told by a list of directives such as `info,mova_monitor=warn`. A
directive is a level, the start of a target's name, or both. Of the directives for a target the
one with the longest name counts, and of those with one name the last.
-/

namespace ControlPanel

/-- The levels from the most important down to a rank; rank zero is no level at all. -/
structure Directive where
  target : String
  rank : Nat
  deriving DecidableEq, Repr

namespace Directive

def rank? (word : String) : Option Nat :=
  ["off", "error", "warn", "info", "debug", "trace"].idxOf? word.toLower <|>
    ["0", "1", "2", "3", "4", "5"].idxOf? word

def isTargetChar (c : Char) : Bool := c.isAlphanum || c = '_' || c = ':' || c = '-'

def isTarget (s : String) : Bool := !s.isEmpty && s.toList.all isTargetChar

/-- Reads a directive. A name without a level stands for all levels. -/
def ofText? (text : String) : Option Directive :=
  match rank? text with
  | some rank => some ⟨"", rank⟩
  | none =>
    let name := String.ofList (text.toList.takeWhile (· != '='))
    match text.toList.drop name.length with
    | [] | ['='] => if isTarget name then some ⟨name, 5⟩ else none
    | _ :: level =>
      if isTarget name then (rank? (String.ofList level)).map fun rank => ⟨name, rank⟩ else none

def covers (d : Directive) (target : String) : Bool := d.target.toList.isPrefixOf target.toList

end Directive

abbrev LogFilter := List Directive

namespace LogFilter

/-- Reads directives; `none` if one of them is malformed. -/
def ofText? (text : String) : Option LogFilter :=
  ((text.splitOn ",").filter (· ≠ "")).mapM Directive.ofText?

def default : LogFilter :=
  [⟨"mova_monitor", 3⟩, ⟨"mova_realtime", 3⟩, ⟨"mova_client", 3⟩]

/-- The better of two directives for a target: the one with the longer name, else the later. -/
def better (best : Option Directive) (d : Directive) : Option Directive :=
  match best with
  | none => some d
  | some b => if b.target.length ≤ d.target.length then some d else some b

def find? (filter : LogFilter) (target : String) : Option Directive :=
  (filter.filter fun d => d.covers target).foldl better none

def admits (filter : LogFilter) (target : String) (level : Level) : Bool :=
  (find? filter target).any fun d => level.rank ≤ d.rank

end LogFilter

end ControlPanel
