import ControlPanel.Json.Decoder
import ControlPanel.Text.Blank
import ControlPanel.Time.Instant

/-!
# Timestamps in documents

Instants as texts. Reading is generous: blanks may stand between the parts, the date and the time
may be separated by a space, the year may have a sign, and any offset from universal time is
converted. Writing is strict: `YYYY-MM-DDTHH:MM:SS`, a fraction of three, six or nine digits where
there is one, and `Z`.
-/

namespace ControlPanel

inductive TimestampFault where
  | invalid
  | tooShort
  | tooLong
  | outOfRange
  | impossible
  deriving DecidableEq, Repr

namespace TimestampFault

def message : TimestampFault → String
  | invalid => "input contains invalid characters"
  | tooShort => "premature end of input"
  | tooLong => "trailing input"
  | outOfRange => "input is out of range"
  | impossible => "no possible date and time matching input"

end TimestampFault

namespace Instant

/-! ## Reading

Each part gives its value and the text after it. -/

/-- The digits at the start, at least one and at most `width` of them. -/
def digitsPart (width : Nat) (s : List Char) : Except TimestampFault (List Char × List Char) :=
  if s.isEmpty then .error .tooShort
  else
    let digits := (s.take width).takeWhile Char.isDigit
    if digits.isEmpty then .error .invalid else .ok (digits, s.drop digits.length)

def numberPart (width low high : Nat) (s : List Char) :
    Except TimestampFault (Nat × List Char) := do
  let (digits, rest) ← digitsPart width (Text.trimStart s)
  let n := Json.digitsValue digits
  if low ≤ n ∧ n ≤ high then .ok (n, rest) else .error .outOfRange

/-- Four digits at most, or a sign and any number of digits. -/
def yearPart (s : List Char) : Except TimestampFault (Int × List Char) := do
  let s := Text.trimStart s
  let (year, rest) ← match s with
    | '-' :: s => do
      let (digits, rest) ← digitsPart s.length s
      pure (-(Json.digitsValue digits : Int), rest)
    | '+' :: s => do
      let (digits, rest) ← digitsPart s.length s
      pure ((Json.digitsValue digits : Int), rest)
    | s => do
      let (digits, rest) ← digitsPart 4 s
      pure ((Json.digitsValue digits : Int), rest)
  if -(Int.pow 2 31) ≤ year ∧ year < Int.pow 2 31 then .ok (year, rest) else .error .outOfRange

def separatorPart (c : Char) (s : List Char) : Except TimestampFault (List Char) :=
  match Text.trimStart s with
  | [] => .error .tooShort
  | d :: rest => if d = c then .ok rest else .error .invalid

/-- A fraction of a second, of which nine digits count. -/
def fractionPart : List Char → Except TimestampFault (Nat × List Char)
  | '.' :: s => do
    let (digits, rest) ← digitsPart 9 s
    .ok (Json.digitsValue digits * Nat.pow 10 (9 - digits.length), rest.dropWhile Char.isDigit)
  | s => .ok (0, s)

/-- Two digits, where the second argument bounds the first of them. -/
def twoDigits (highest : Char) : List Char → Except TimestampFault (Nat × List Char)
  | a :: b :: rest =>
    if a.isDigit ∧ b.isDigit then
      if a ≤ highest then .ok (Json.digitsValue [a, b], rest) else .error .outOfRange
    else .error .invalid
  | s => if Json.byteLength s < 2 then .error .tooShort else .error .invalid

def offsetPart (s : List Char) : Except TimestampFault (Int × List Char) :=
  match s with
  | 'Z' :: rest | 'z' :: rest => .ok (0, rest)
  | [] => .error .tooShort
  | sign :: rest => do
    let negative ← if sign = '+' then .ok false
      else if sign = '-' ∨ sign = '\u2212' then .ok true
      else .error .invalid
    let (hours, rest) ← twoDigits '9' rest
    let rest := rest.dropWhile fun c => c = ':' || Text.isBlank c
    let (minutes, rest) ← twoDigits '5' rest
    let seconds : Int := hours * 3600 + minutes * 60
    .ok (if negative then -seconds else seconds, rest)

/-- The zone at the end: `UTC` in any case, `Z`, or an offset. -/
def zonePart (s : List Char) : Except TimestampFault (Int × List Char) :=
  let s := Text.trimStart s
  if (s.take 3).map Char.toLower = ['u', 't', 'c'] then .ok (0, s.drop 3) else offsetPart s

def ofChars (s : List Char) : Except TimestampFault Instant := do
  let (year, s) ← yearPart s
  let s ← separatorPart '-' s
  let (month, s) ← numberPart 2 1 12 s
  let s ← separatorPart '-' s
  let (day, s) ← numberPart 2 1 31 s
  let s ← match s with
    | 'T' :: s | 't' :: s | ' ' :: s => .ok s
    | [] => .error .tooShort
    | _ => .error .invalid
  let (hour, s) ← numberPart 2 0 23 s
  let s ← separatorPart ':' s
  let (minute, s) ← numberPart 2 0 59 s
  let s ← separatorPart ':' s
  let (second, s) ← numberPart 2 0 60 s
  let (nanos, s) ← fractionPart s
  let (offset, s) ← zonePart s
  if !(Text.trimStart s).isEmpty then .error .tooLong
  else
    let date : CivilDate := ⟨year, month, day⟩
    if !date.isValid then .error .outOfRange
    else if 86400 ≤ offset.natAbs then .error .outOfRange
    else
      let clock : Int := hour * 3600 + minute * 60 + min second 59
      let seconds := date.toDays * 86400 + clock - offset
      let utc := CivilDate.ofDays (seconds / 86400)
      if utc.year < CivilDate.minYear ∨ CivilDate.maxYear < utc.year then .error .impossible
      else .ok ⟨seconds, if second = 60 then nanos + 1000000000 else nanos⟩

def ofText (s : String) : Except TimestampFault Instant := ofChars s.toList

/-! ## Writing -/

def padded (width n : Nat) : List Char :=
  let digits := (Nat.repr n).toList
  List.replicate (width - digits.length) '0' ++ digits

/-- Years of more or less than four digits carry a sign. -/
def yearChars (year : Int) : List Char :=
  if 0 ≤ year ∧ year ≤ 9999 then padded 4 year.toNat
  else (if year < 0 then '-' else '+') :: padded 4 year.natAbs

/-- The fraction with as few groups of three digits as it needs. -/
def fractionChars (nanos : Nat) : List Char :=
  if nanos = 0 then []
  else if nanos % 1000000 = 0 then '.' :: padded 3 (nanos / 1000000)
  else if nanos % 1000 = 0 then '.' :: padded 6 (nanos / 1000)
  else '.' :: padded 9 nanos

def chars (t : Instant) : List Char :=
  let date := CivilDate.ofDays (t.seconds / 86400)
  let clock := (t.seconds % 86400).toNat
  let leap := if 1000000000 ≤ t.nanos then 1 else 0
  yearChars date.year ++ '-' :: padded 2 date.month ++ '-' :: padded 2 date.day ++
    'T' :: padded 2 (clock / 3600) ++ ':' :: padded 2 (clock / 60 % 60) ++
    ':' :: padded 2 (clock % 60 + leap) ++ fractionChars (t.nanos % 1000000000) ++ ['Z']

def text (t : Instant) : String := String.ofList t.chars

def encode (t : Instant) : Json := .string t.text

def decoder : Json.Decoder Instant :=
  .parsed "an RFC 3339 formatted date and time string" fun s =>
    (ofText s).mapError fun fault => .badTimestamp fault.message

end Instant

end ControlPanel
