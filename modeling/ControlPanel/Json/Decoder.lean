import ControlPanel.Json.Reader

/-!
# Reading typed values

A `Decoder` reads a value of some type from a node. Faults are found in the order of the document:
the first place at which something is wrong decides.

A `Record` reads the fields of a structure, given as an object or as an array of the fields in
their order. Each field is looked up by name, and every fault carries its place, so combining two
fields keeps the earlier fault (`Record.earliest`). Members that no field names are skipped.
-/

namespace ControlPanel.Json

abbrev Decoder (α : Type) := Source → Node → Except Fault α

namespace Decoder

variable {α β : Type}

def readScalar (s : Scalar α) : Except Fault α := s.read.mapError .text

def mismatch (node : Node) (expected : String) : Except Fault α :=
  match node.found with
  | .error fault => .error (.text fault)
  | .ok found => .error (.shape (.wrongType found expected))

def guardText (fault : Option TextFault) (value : α) : Except Fault α :=
  match fault with
  | some fault => .error (.text fault)
  | none => .ok value

def map (f : α → β) (d : Decoder α) : Decoder β := fun source node => (d source node).map f

def parsed (expected : String) (parse : String → Except ShapeFault α) : Decoder α
  | _, .string s => do (parse (← readScalar s)).mapError .shape
  | _, node => mismatch node expected

def string : Decoder String := parsed "a string" .ok

def bool : Decoder Bool
  | _, .bool b => .ok b
  | _, node => mismatch node "a boolean"

def integer (expected : String) (low high : Int) : Decoder Int
  | _, .number s => do
    match ← readScalar s with
    | .int i =>
      if low ≤ i ∧ i ≤ high then .ok i
      else .error (.shape (.wrongValue (.number (.int i)) expected))
    | .float x => .error (.shape (.wrongType (.number (.float x)) expected))
  | _, node => mismatch node expected

def natural32 : Decoder Nat := map Int.toNat (integer "u32" 0 (Int.pow 2 32 - 1))

def natural64 : Decoder Nat := map Int.toNat (integer "u64" 0 (Int.pow 2 64 - 1))

def integer64 : Decoder Int := integer "i64" (-(Int.pow 2 63)) (Int.pow 2 63 - 1)

def binary64 : Decoder Binary64
  | _, .number s => do return (← readScalar s).toBinary64
  | _, node => mismatch node "f64"

def items (d : Node → Except Fault α) : List Node → Except Fault (List α)
  | [] => .ok []
  | node :: rest => do return (← d node) :: (← items d rest)

def list (d : Decoder α) : Decoder (List α)
  | source, .array deep nodes ending => do
    if deep then .error (.text .tooDeep)
    else guardText ending.readFault (← items (d source) nodes)
  | _, node => mismatch node "a sequence"

def nullable (d : Decoder α) : Decoder (Option α)
  | _, .null => .ok none
  | source, node => (d source node).map some

def members (d : Node → Except Fault α) : List Member → Except Fault (List (String × α))
  | [] => .ok []
  | (key, node) :: rest => do
    let name ← readScalar key
    let value ← d node
    return (name, value) :: (← members d rest)

def dictionary (d : Decoder α) : Decoder (Keyed α)
  | source, .object deep nodes ending => do
    if deep then .error (.text .tooDeep)
    else guardText ending.readFault (Keyed.ofList (← members (d source) nodes))
  | _, node => mismatch node "a map"

mutual

def readJson : Node → Except Fault Json
  | .broken fault | .badWord fault => .error (.text fault)
  | .null => .ok .null
  | .bool b => .ok (.bool b)
  | .number s => do return .number (← readScalar s)
  | .string s => do return .string (← readScalar s)
  | .array deep nodes ending => do
    if deep then .error (.text .tooDeep)
    else guardText ending.readFault (.array (← readItems nodes))
  | .object deep nodes ending => do
    if deep then .error (.text .tooDeep)
    else guardText ending.readFault (.object (Keyed.ofList (← readMembers nodes)))

def readItems : List Node → Except Fault (List Json)
  | [] => .ok []
  | node :: rest => do return (← readJson node) :: (← readItems rest)

def readMembers : List (Scalar String × Node) → Except Fault (List (String × Json))
  | [] => .ok []
  | (key, node) :: rest => do
    let name ← readScalar key
    let value ← readJson node
    return (name, value) :: (← readMembers rest)

end

def json : Decoder Json := fun _ node => readJson node

def jsonMap : Decoder Members := dictionary json

/-! ## Names of alternatives -/

def findVariant (table : List (String × α)) (name : String) : Except Fault α :=
  match table.find? (·.1 = name) with
  | some entry => .ok entry.2
  | none => .error (.shape (.unknownVariant name (table.map (·.1))))

/-- What must stand beside the name of an alternative without content. -/
def noContent : Node → Except Fault Unit
  | .null => .ok ()
  | node => mismatch node "unit"

/-- An alternative written as an object of one member in a text. -/
def variantMember (table : List (String × α)) :
    List Member → MapEnd Node → Except Fault α
  | [], .stopped | [], .stoppedAfterComma => .error (.text .endInValue)
  | [], .noKey node => mismatch node "variant identifier"
  | [], _ => .error (.text .expectedValue)
  | (key, node) :: rest, ending => do
    let value ← findVariant table (← readScalar key)
    noContent node
    match rest, ending with
    | [], .closed => .ok value
    | [], .stopped => .error (.text .endInObject)
    | _, _ => .error (.text .expectedValue)

/-- One of several named alternatives: its name, or an object whose only member has that name and
the value `null`. -/
def variant (table : List (String × α)) : Decoder α
  | _, .string s => do findVariant table (← readScalar s)
  | .text, .object deep members ending =>
    if deep then .error (.text .tooDeep) else variantMember table members ending
  | .value, .object _ [(key, node)] _ => do
    let value ← findVariant table (← readScalar key)
    noContent node
    return value
  | .value, .object .. => .error (.shape (.wrongValue .map "map with a single key"))
  | .text, .broken fault => .error (.text fault)
  | .text, _ => .error (.text .expectedValue)
  | .value, node => mismatch node "string or map"

end Decoder

/-! ## Records -/

/-- A fault and its place among the members of an object or the items of an array. -/
structure PlacedFault where
  place : Nat
  fault : Fault

/-- Where a field is found, or what its absence means: a fault if it is required, and perhaps one
if it is optional or has a default. An optional field may be absent from an object; one with a
default also at the end of an array. -/
inductive Slot where
  | given (place : Nat) (node : Node)
  | absent (required : PlacedFault) (optional defaulted : Option PlacedFault)

/-- The fields of a structure: their names in order, and the reading of them all. -/
structure Record (α : Type) where
  names : List String
  read : Source → (String → Slot) → Except PlacedFault α

namespace Record

variable {α β : Type}

/-- Both results, or the earlier fault. -/
def earliest (x : Except PlacedFault α) (y : Except PlacedFault β) : Except PlacedFault (α × β) :=
  match x, y with
  | .ok a, .ok b => .ok (a, b)
  | .error e, .ok _ => .error e
  | .ok _, .error e => .error e
  | .error e, .error f => .error (if f.place < e.place then f else e)

def done (a : α) : Record α := ⟨[], fun _ _ => .ok a⟩

def and (f : Record (α → β)) (x : Record α) : Record β where
  names := f.names ++ x.names
  read source slots := (earliest (f.read source slots) (x.read source slots)).map fun p => p.1 p.2

/-- Fields are listed in the order of the arguments of the structure. -/
instance : Applicative Record where
  pure := done
  seq f x := f.and (x ())

def readAt (d : Decoder α) (source : Source) (place : Nat) (node : Node) : Except PlacedFault α :=
  (d source node).mapError (⟨place, ·⟩)

def orFault (absent : α) : Option PlacedFault → Except PlacedFault α
  | some fault => .error fault
  | none => .ok absent

def field (name : String) (d : Decoder α) : Record α where
  names := [name]
  read source slots := match slots name with
    | .given place node => readAt d source place node
    | .absent required _ _ => .error required

def optional (name : String) (d : Decoder α) : Record (Option α) where
  names := [name]
  read source slots := match slots name with
    | .given place node => readAt d.nullable source place node
    | .absent _ optional _ => orFault none optional

def defaulted (name : String) (default : α) (d : Decoder α) : Record α where
  names := [name]
  read source slots := match slots name with
    | .given place node => readAt d source place node
    | .absent _ _ defaulted => orFault default defaulted

def defaultedOption (name : String) (d : Decoder α) : Record (Option α) :=
  defaulted name none d.nullable

def findMember (name : String) : (place : Nat) → List Member → Option (Nat × Node)
  | _, [] => none
  | place, (key, node) :: rest =>
    if key.read.toOption = some name then some (place, node)
    else findMember name (place + 1) rest

def memberSlot (members : List Member) (name : String) : Slot :=
  match findMember name 0 members with
  | some (place, node) => .given place node
  | none => .absent ⟨members.length + 1, .shape (.missingField name)⟩ none none

/-- The first fault outside the fields: a bad or repeated key, a value that nobody asked for, or
the end. `unknown` says what is wrong with a value that nobody asked for. -/
def memberFault (names : List String) (unknown : Node → Option Fault) (ending : MapEnd Node) :
    (place : Nat) → (seen : List String) → List Member → Option PlacedFault
  | place, _, [] => ending.readFault.map fun fault => ⟨place, .text fault⟩
  | place, seen, (key, node) :: rest =>
    match key.read with
    | .error fault => some ⟨place, .text fault⟩
    | .ok name =>
      if name ∈ names then
        if name ∈ seen then some ⟨place, .shape (.duplicateField name)⟩
        else memberFault names unknown ending (place + 1) (name :: seen) rest
      else match unknown node with
        | some fault => some ⟨place, fault⟩
        | none => memberFault names unknown ending (place + 1) seen rest

def before (fault : Option PlacedFault) (result : Except PlacedFault α) : Except Fault α :=
  let first := earliest result (match fault with | some f => .error f | none => .ok ())
  (first.map (·.1)).mapError (·.fault)

def ofMembers (r : Record α) (unknown : Node → Option Fault) (source : Source)
    (members : List Member) (ending : MapEnd Node) : Except Fault α :=
  before (memberFault r.names unknown ending 0 [] members) (r.read source (memberSlot members))

def skipped (node : Node) : Option Fault := node.skip.map .text

def itemSlot (names : List String) (expected : String) (items : List Node) (ending : ListEnd)
    (name : String) : Slot :=
  let place := names.idxOf name
  match items[place]? with
  | some node => .given place node
  | none => match ending.readFault with
    | some fault =>
      let fault := ⟨place, .text fault⟩
      .absent fault (some fault) (some fault)
    | none =>
      let fault := ⟨place, .shape (.wrongLength place expected)⟩
      .absent fault (some fault) none

def itemFault (count : Nat) (items : List Node) (ending : ListEnd) : Source → Option PlacedFault
  | .text => (ending.closeFault (items.drop count)).map fun fault => ⟨count, .text fault⟩
  | .value =>
    if count < items.length then
      some ⟨count, .shape (.wrongLength items.length "fewer elements in array")⟩
    else none

def ofItems (r : Record α) (expected : String) (source : Source) (items : List Node)
    (ending : ListEnd) : Except Fault α :=
  let count := r.names.length
  let expected :=
    expected ++ " with " ++ Nat.repr count ++ (if count = 1 then " element" else " elements")
  before (itemFault count items ending source)
    (r.read source (itemSlot r.names expected items ending))

/-- Reads a structure called `expected` from an object or an array. -/
def decoder (expected : String) (r : Record α) : Decoder α
  | source, .object deep members ending =>
    if deep then .error (.text .tooDeep) else r.ofMembers skipped source members ending
  | source, .array deep items ending =>
    if deep then .error (.text .tooDeep) else r.ofItems expected source items ending
  | _, node => Decoder.mismatch node expected

end Record

/-! ## Whole documents -/

namespace Decoder

variable {α : Type}

/-- Reads a whole document; nothing may follow the value. -/
def ofDocument (d : Decoder α) (document : Document) : Except Fault α := do
  let value ← d .text document.root
  if document.trailing then .error (.text .trailingCharacters) else .ok value

def ofText (d : Decoder α) (text : String) : Except Fault α := d.ofDocument (.ofText text)

def ofJson (d : Decoder α) (value : Json) : Except Fault α := d .value (.ofJson value)

end Decoder

end ControlPanel.Json
