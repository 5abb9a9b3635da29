import ControlPanel.Text.Blank

/-!
# Settings from variables

Settings are read from named variables, usually those of the environment. Blanks around a value do
not matter and a blank value is as good as none. A value that cannot be used is a `SettingFault`
with the variable, the value and the reason.
-/

namespace ControlPanel

/-- The value of each variable that is set. -/
abbrev Variables := String → Option String

inductive SettingReason where
  | invalidDigit
  | tooLarge
  | tooSmall
  | notBoolean
  | noCharacter
  | manyCharacters
  | notFlag
  | notSocketAddress
  | notHttpAddress
  | zero
  deriving DecidableEq, Repr

structure SettingFault where
  name : String
  value : String
  reason : SettingReason
  deriving DecidableEq, Repr

namespace SettingReason

def message : SettingReason → String
  | invalidDigit => "invalid digit found in string"
  | tooLarge => "number too large to fit in target type"
  | tooSmall => "number too small to fit in target type"
  | notBoolean => "provided string was not `true` or `false`"
  | noCharacter => "cannot parse char from empty string"
  | manyCharacters => "too many characters in string"
  | notFlag => "expected a boolean"
  | notSocketAddress => "must start with ws:// or wss://"
  | notHttpAddress => "must start with http:// or https://"
  | zero => "must be greater than zero"

end SettingReason

namespace SettingFault

def message (f : SettingFault) : String :=
  "Invalid value for " ++ f.name ++ ": '" ++ f.value ++ "' (" ++ f.reason.message ++ ")"

end SettingFault

namespace Settings

/-! ## Parsers of values -/

/-- Decimal digits as a number up to a limit; the first bad digit or step past the limit counts. -/
def parseDigits (limit : Nat) (excess : SettingReason) :
    (value : Nat) → List Char → Except SettingReason Nat
  | value, [] => .ok value
  | value, c :: rest =>
    if c.isDigit then
      let next := value * 10 + (c.toNat - 48)
      if next ≤ limit then parseDigits limit excess next rest else .error excess
    else .error .invalidDigit

def parseNatural (limit : Nat) (s : String) : Except SettingReason Nat :=
  match s.toList with
  | [] | ['+'] => .error .invalidDigit
  | '+' :: digits => parseDigits limit .tooLarge 0 digits
  | digits => parseDigits limit .tooLarge 0 digits

def parseInteger (low high : Nat) (s : String) : Except SettingReason Int :=
  match s.toList with
  | [] | ['+'] | ['-'] => .error .invalidDigit
  | '-' :: digits => (parseDigits low .tooSmall 0 digits).map fun n => -(n : Int)
  | '+' :: digits => (parseDigits high .tooLarge 0 digits).map Int.ofNat
  | digits => (parseDigits high .tooLarge 0 digits).map Int.ofNat

def parseNatural64 : String → Except SettingReason Nat := parseNatural (UInt64.size - 1)

def parseNatural32 : String → Except SettingReason Nat := parseNatural (UInt32.size - 1)

def parseNatural16 : String → Except SettingReason Nat := parseNatural (UInt16.size - 1)

def parseInteger64 : String → Except SettingReason Int := parseInteger (1 <<< 63) (1 <<< 63 - 1)

def parseBool (s : String) : Except SettingReason Bool :=
  if s = "true" then .ok true else if s = "false" then .ok false else .error .notBoolean

def parseChar (s : String) : Except SettingReason Char :=
  match s.toList with
  | [] => .error .noCharacter
  | [c] => .ok c
  | _ => .error .manyCharacters

/-! ## Readers of variables -/

/-- A text without the blanks around it, if anything is left. -/
def text? (vars : Variables) (name : String) : Option String :=
  (vars name).bind fun raw =>
    let value := Text.trim raw
    if value.isEmpty then none else some value

/-- A parsed value, or a default. A fault tells the value as it was given. -/
def parse {α : Type} (vars : Variables) (name : String) (default : α)
    (parser : String → Except SettingReason α) : Except SettingFault α :=
  match vars name with
  | none => .ok default
  | some raw =>
    let value := Text.trim raw
    if value.isEmpty then .ok default
    else (parser value).mapError fun reason => ⟨name, raw, reason⟩

def flag (vars : Variables) (name : String) (default : Bool) : Except SettingFault Bool :=
  match text? vars name with
  | none => .ok default
  | some raw =>
    let word := raw.toLower
    if word ∈ ["1", "true", "yes", "on"] then .ok true
    else if word ∈ ["0", "false", "no", "off"] then .ok false
    else .error ⟨name, raw, .notFlag⟩

/-! ## Addresses -/

structure Scheme where
  plain : String
  secure : String

def socketScheme : Scheme := ⟨"ws", "wss"⟩

def httpScheme : Scheme := ⟨"http", "https"⟩

def baseAddress (scheme : Scheme) (host : String) (secure : Bool) : String :=
  (if secure then scheme.secure else scheme.plain) ++ "://" ++ Text.trimSlashes host

def hasScheme (scheme : Scheme) (address : String) : Bool :=
  (scheme.plain ++ "://").toList.isPrefixOf address.toList ||
    (scheme.secure ++ "://").toList.isPrefixOf address.toList

def defaultHost : String := "localhost:8000"

/-- The address of the host that is set, or of the default host. -/
def hostAddress (vars : Variables) (scheme : Scheme) : Except SettingFault String := do
  let host := (text? vars "MOVA_HOST").getD defaultHost
  return baseAddress scheme host (← flag vars "MOVA_SECURE" false)

def positive (name : String) (n : Nat) : Except SettingFault Unit :=
  if n = 0 then .error ⟨name, "0", .zero⟩ else .ok ()

end Settings

end ControlPanel
