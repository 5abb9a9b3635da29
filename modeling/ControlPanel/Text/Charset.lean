import ControlPanel.Text.Blank

/-!
# Encoded text

Reads bytes as text in the encodings that a backend may use. Bytes that encode no character are
kept apart from those that do: `utf8` gives `none` for each longest sequence of bytes that starts
like a character and is none, and a lenient text has a replacement character there.
-/

namespace ControlPanel.Text

/-! ## UTF-8 -/

/-- A character that is not complete: how many bytes are missing, the value so far, and the bounds
of the next byte. -/
structure PartialChar where
  missing : Nat
  value : Nat
  low : Nat
  high : Nat

namespace PartialChar

def empty : PartialChar := ⟨0, 0, 0x80, 0xBF⟩

/-- Starts a character with a byte; what is decoded by then comes first. -/
def start (b : Nat) : List (Option Char) × PartialChar :=
  if b < 0x80 then ([some (Char.ofNat b)], empty)
  else if 0xC2 ≤ b ∧ b ≤ 0xDF then ([], ⟨1, b - 0xC0, 0x80, 0xBF⟩)
  else if b = 0xE0 then ([], ⟨2, 0, 0xA0, 0xBF⟩)
  else if b = 0xED then ([], ⟨2, 0xD, 0x80, 0x9F⟩)
  else if 0xE1 ≤ b ∧ b ≤ 0xEF then ([], ⟨2, b - 0xE0, 0x80, 0xBF⟩)
  else if b = 0xF0 then ([], ⟨3, 0, 0x90, 0xBF⟩)
  else if 0xF1 ≤ b ∧ b ≤ 0xF3 then ([], ⟨3, b - 0xF0, 0x80, 0xBF⟩)
  else if b = 0xF4 then ([], ⟨3, 4, 0x80, 0x8F⟩)
  else ([none], empty)

def next (p : PartialChar) (b : Nat) : List (Option Char) × PartialChar :=
  if p.missing = 0 then start b
  else if p.low ≤ b ∧ b ≤ p.high then
    let value := p.value * 64 + b % 64
    if p.missing = 1 then ([some (Char.ofNat value)], empty)
    else ([], ⟨p.missing - 1, value, 0x80, 0xBF⟩)
  else
    let (decoded, p) := start b
    (none :: decoded, p)

def finish (p : PartialChar) : List (Option Char) := if p.missing = 0 then [] else [none]

def decode (p : PartialChar) : List UInt8 → List (Option Char)
  | [] => p.finish
  | b :: rest =>
    let (decoded, p) := p.next b.toNat
    decoded ++ decode p rest

end PartialChar

def utf8 (bytes : List UInt8) : List (Option Char) := PartialChar.empty.decode bytes

def toUtf8 (s : String) : List UInt8 := s.toUTF8.toList

/-! ## Other encodings -/

/-- Bytes in pairs, the high one first or last. A byte left over makes no unit. -/
def units16 (highFirst : Bool) : List UInt8 → List (Option Nat)
  | [] => []
  | [_] => [none]
  | a :: b :: rest =>
    some (if highFirst then a.toNat * 256 + b.toNat else b.toNat * 256 + a.toNat) ::
      units16 highFirst rest

def isHighSurrogate (u : Nat) : Bool := 0xD800 ≤ u && u ≤ 0xDBFF

def isLowSurrogate (u : Nat) : Bool := 0xDC00 ≤ u && u ≤ 0xDFFF

/-- The characters that units of UTF-16 encode, behind a high surrogate that waits for its other
half. -/
def utf16From : (high : Option Nat) → List (Option Nat) → List (Option Char)
  | none, [] => []
  | some _, [] => [none]
  | none, none :: rest => none :: utf16From none rest
  | some _, none :: rest => none :: utf16From none rest
  | none, some u :: rest =>
    if isHighSurrogate u then utf16From (some u) rest
    else if isLowSurrogate u then none :: utf16From none rest
    else some (Char.ofNat u) :: utf16From none rest
  | some h, some u :: rest =>
    if isLowSurrogate u then
      some (Char.ofNat (0x10000 + (h - 0xD800) * 0x400 + (u - 0xDC00))) :: utf16From none rest
    else if isHighSurrogate u then none :: utf16From (some u) rest
    else none :: some (Char.ofNat u) :: utf16From none rest

def utf16 (units : List (Option Nat)) : List (Option Char) := utf16From none units

/-- The characters of the bytes from 0x80 to 0x9F in the western encoding. -/
def westernControls : List Nat :=
  [0x20AC, 0x81, 0x201A, 0x192, 0x201E, 0x2026, 0x2020, 0x2021, 0x2C6, 0x2030, 0x160, 0x2039,
    0x152, 0x8D, 0x17D, 0x8F, 0x90, 0x2018, 0x2019, 0x201C, 0x201D, 0x2022, 0x2013, 0x2014, 0x2DC,
    0x2122, 0x161, 0x203A, 0x153, 0x9D, 0x17E, 0x178]

/-- The characters that bytes encode in the western encoding, one each. -/
def western (bytes : List UInt8) : List (Option Char) :=
  bytes.map fun b =>
    let n := b.toNat
    some (Char.ofNat (if 0x80 ≤ n ∧ n < 0xA0 then westernControls.getD (n - 0x80) n else n))

/-! ## Charsets -/

inductive Charset where
  | utf8
  | western
  | utf16 (highFirst : Bool)
  deriving DecidableEq, Repr

namespace Charset

def westernLabels : List String :=
  ["ansi_x3.4-1968", "ascii", "cp1252", "cp819", "csisolatin1", "ibm819", "iso-8859-1",
    "iso-ir-100", "iso8859-1", "iso88591", "iso_8859-1", "iso_8859-1:1987", "l1", "latin1",
    "us-ascii", "windows-1252", "x-cp1252"]

def lowFirstLabels : List String :=
  ["csunicode", "iso-10646-ucs-2", "ucs-2", "unicode", "unicodefeff", "utf-16", "utf-16le"]

/-- The charset of a label, in any case of letters. An unknown label is taken for UTF-8. -/
def ofLabel (label : String) : Charset :=
  let label := (trim label).toLower
  if label ∈ westernLabels then .western
  else if label ∈ lowFirstLabels then .utf16 false
  else if label ∈ ["unicodefffe", "utf-16be"] then .utf16 true
  else .utf8

/-- The charset that a mark at the start of the bytes tells, and the bytes without the mark. -/
def ofMark? : List UInt8 → Option (Charset × List UInt8)
  | 0xEF :: 0xBB :: 0xBF :: rest => some (.utf8, rest)
  | 0xFE :: 0xFF :: rest => some (.utf16 true, rest)
  | 0xFF :: 0xFE :: rest => some (.utf16 false, rest)
  | _ => none

def chars (charset : Charset) (bytes : List UInt8) : List (Option Char) :=
  match charset with
  | .utf8 => Text.utf8 bytes
  | .western => Text.western bytes
  | .utf16 highFirst => Text.utf16 (units16 highFirst bytes)

/-- The text of some bytes. A mark at their start overrides the charset, and bytes that encode
nothing are replaced. -/
def text (charset : Charset) (bytes : List UInt8) : String :=
  let (charset, bytes) := (ofMark? bytes).getD (charset, bytes)
  String.ofList ((charset.chars bytes).map fun c => c.getD (Char.ofNat 0xFFFD))

def unquote (value : List Char) : List Char :=
  match value with
  | '"' :: rest => rest.takeWhile (· != '"')
  | value => value

/-- The charset that a media type tells, else UTF-8. -/
def ofMediaType (mediaType : String) : Charset :=
  let parameters := (mediaType.splitOn ";").drop 1
  let charsets := parameters.filterMap fun parameter =>
    let cs := trimChars parameter.toList
    let name := cs.takeWhile (· != '=')
    if (String.ofList name).toLower = "charset" then
      some (ofLabel (String.ofList (unquote (cs.drop (name.length + 1)))))
    else none
  charsets.headD .utf8

end Charset

end ControlPanel.Text
