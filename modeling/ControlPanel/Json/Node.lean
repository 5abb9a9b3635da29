import ControlPanel.Json.Fault

/-!
# Documents as far as they can be read

A `Node` is what a reader finds at one place of a document. Reading stops at the first defect of
the text, so a node can be cut short: it then says how its text ends. Whether that matters, and
which fault it is, depends on how the node is used. A value that is wanted is *read*; a value that
nobody asked for is only *skipped*, which overlooks numbers out of range, broken surrogate pairs
and deep nesting.

`Node.ofJson` is the node of a value that is already at hand.
-/

namespace ControlPanel.Json

/-- Where a document comes from. Longer arrays and misplaced scalars are reported differently for
a text and for a value. -/
inductive Source where
  | text
  | value
  deriving DecidableEq, Repr

/-- A scalar of the text: its value if it is read, and what is wrong with it even if skipped. -/
structure Scalar (α : Type) where
  read : Except TextFault α
  skip : Option TextFault := none

/-- How the text of an array ends. -/
inductive ListEnd where
  | closed
  | commaClosed
  | stopped
  | stoppedAfterComma
  | noSeparator
  deriving DecidableEq, Repr

/-- Where a key is wanted: the text ends there, or something else stands there. -/
inductive MapEnd (α : Type) where
  | closed
  | commaClosed
  | stopped
  | stoppedAfterComma
  | noSeparator
  | noKey (found : α)

/-- A place of a document. `deep` marks a container at the nesting limit. -/
inductive Node where
  | broken (fault : TextFault)
  | badWord (fault : TextFault)
  | null
  | bool (value : Bool)
  | number (scalar : Scalar Number)
  | string (scalar : Scalar String)
  | array (deep : Bool) (items : List Node) (ending : ListEnd)
  | object (deep : Bool) (members : List (Scalar String × Node)) (ending : MapEnd Node)

abbrev Member := Scalar String × Node

namespace ListEnd

/-- The fault at the end of a list that is read to its end. -/
def readFault : ListEnd → Option TextFault
  | closed => none
  | commaClosed => some .trailingComma
  | stopped => some .endInList
  | stoppedAfterComma => some .endInValue
  | noSeparator => some .expectedListSeparator

/-- The fault at the end of a list that is skipped. -/
def skipFault : ListEnd → Option TextFault
  | closed => none
  | commaClosed => some .expectedValue
  | stopped => some .endInList
  | stoppedAfterComma => some .endInValue
  | noSeparator => some .expectedListSeparator

/-- The fault where a list should be closed but goes on with `rest`. -/
def closeFault {α : Type} : ListEnd → List α → Option TextFault
  | _, _ :: _ => some .trailingCharacters
  | closed, [] => none
  | commaClosed, [] => some .trailingComma
  | stopped, [] => some .endInList
  | stoppedAfterComma, [] => some .trailingCharacters
  | noSeparator, [] => some .trailingCharacters

end ListEnd

namespace MapEnd

variable {α : Type}

def readFault : MapEnd α → Option TextFault
  | closed => none
  | commaClosed => some .trailingComma
  | stopped => some .endInObject
  | stoppedAfterComma => some .endInValue
  | noSeparator => some .expectedObjectSeparator
  | noKey _ => some .keyNotString

def skipFault : MapEnd α → Option TextFault
  | closed => none
  | commaClosed => some .keyNotString
  | stopped => some .endInObject
  | stoppedAfterComma => some .endInObject
  | noSeparator => some .expectedObjectSeparator
  | noKey _ => some .keyNotString

end MapEnd

namespace Node

mutual

def ofJson : Json → Node
  | .null => .null
  | .bool b => .bool b
  | .number n => .number ⟨.ok n, none⟩
  | .string s => .string ⟨.ok s, none⟩
  | .array items => .array false (ofItems items) .closed
  | .object members => .object false (ofMembers members) .closed

def ofItems : List Json → List Node
  | [] => []
  | v :: rest => ofJson v :: ofItems rest

def ofMembers : List (String × Json) → List Member
  | [] => []
  | (k, v) :: rest => (⟨.ok k, none⟩, ofJson v) :: ofMembers rest

end

mutual

def skip : Node → Option TextFault
  | .broken fault | .badWord fault => some fault
  | .null | .bool _ => none
  | .number scalar => scalar.skip
  | .string scalar => scalar.skip
  | .array _ items ending => (skipItems items).or ending.skipFault
  | .object _ members ending => (skipMembers members).or ending.skipFault

def skipItems : List Node → Option TextFault
  | [] => none
  | node :: rest => (skip node).or (skipItems rest)

def skipMembers : List (Scalar String × Node) → Option TextFault
  | [] => none
  | (key, node) :: rest => (key.skip.or (skip node)).or (skipMembers rest)

end

/-- What a node is called in an error text, once its scalar is read. -/
def found : Node → Except TextFault Found
  | .broken fault | .badWord fault => .error fault
  | .null => .ok .null
  | .bool b => .ok (.bool b)
  | .number scalar => scalar.read.map .number
  | .string scalar => scalar.read.map .string
  | .array .. => .ok .sequence
  | .object .. => .ok .map

end Node

end ControlPanel.Json
