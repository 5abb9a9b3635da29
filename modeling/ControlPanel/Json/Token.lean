import ControlPanel.Json.Node

/-!
# Tokens of JSON text

`tokens` cuts a text into brackets, separators, words, numbers and strings. The first character
decides what a token is, so no token depends on what is expected at its place. Cutting stops at a
token that cannot even be skipped. The blanks between tokens are space, tab, line feed and
carriage return.
-/

namespace ControlPanel.Json

inductive Token where
  | openList
  | closeList
  | openMap
  | closeMap
  | comma
  | colon
  | null
  | bool (value : Bool)
  | badWord (fault : TextFault)
  | number (scalar : Scalar Number)
  | string (scalar : Scalar String)
  | stray

/-! ## Numbers -/

/-- Digits taken into a significand as long as it stays below 2^64, and how many were taken. -/
def takeDigits (significand : Nat) : List Char → Nat × Nat
  | [] => (significand, 0)
  | c :: rest =>
    let next := significand * 10 + (c.toNat - 48)
    if next < UInt64.size then
      let (s, taken) := takeDigits next rest
      (s, taken + 1)
    else (significand, 0)

/-- The number `significand · 10^exponent`, scaled in steps of at most 10^308. Each step rounds. -/
def scaleTen (f : Binary64) (exponent : Int) : Nat → Except TextFault Binary64
  | 0 => .ok f
  | fuel + 1 =>
    if exponent.natAbs ≤ 308 then
      if 0 ≤ exponent then
        let g := f.mul (.tenPow exponent.toNat)
        if g.isFinite then .ok g else .error .numberOutOfRange
      else .ok (f.div (.tenPow exponent.natAbs))
    else if f.isZero then .ok f
    else if 0 ≤ exponent then .error .numberOutOfRange
    else scaleTen (f.div (.tenPow 308)) (exponent + 308) fuel

structure ExponentText where
  negative : Bool
  digits : List Char

structure NumberText where
  negative : Bool
  whole : List Char
  fraction : Option (List Char)
  exponent : Option ExponentText

def clampExponent (e : Int) : Int := max (-(Int.pow 2 31)) (min (Int.pow 2 31 - 1) e)

def digitsValue (digits : List Char) : Nat :=
  digits.foldl (fun n c => n * 10 + (c.toNat - 48)) 0

/-- The value of a written number. Whole numbers in the range of 64-bit words stay integers; of
more than nineteen or twenty digits only the leading ones count. -/
def NumberText.value (t : NumberText) : Except TextFault Number :=
  let (significand, taken) := takeDigits 0 t.whole
  let dropped := t.whole.length - taken
  let signed (x : Binary64) : Number := .float (if t.negative then x.neg else x)
  match t.fraction, t.exponent with
  | none, none =>
    if dropped = 0 then
      if !t.negative then .ok (.int significand)
      else if significand ≠ 0 ∧ significand ≤ 1 <<< 63 then .ok (.int (-(significand : Int)))
      else .ok (signed (.ofNat significand))
    else (scaleTen (.ofNat significand) dropped 8).map signed
  | fraction, exponent =>
    let (significand, places) := takeDigits significand (fraction.getD [])
    let start : Int := (dropped : Int) - places
    match exponent with
    | none => (scaleTen (.ofNat significand) start 8).map signed
    | some e =>
      let power := digitsValue e.digits
      if power < 1 <<< 31 then
        let total := clampExponent (if e.negative then start - power else start + power)
        (scaleTen (.ofNat significand) total (total.natAbs / 308 + 2)).map signed
      else if significand ≠ 0 ∧ !e.negative then .error .numberOutOfRange
      else .ok (signed (.zero false))

/-- A number whose text breaks off. Where the text ends, reading says so. -/
def cutNumber (rest : List Char) : Scalar Number :=
  ⟨.error (if rest.isEmpty then .endInValue else .invalidNumber), some .invalidNumber⟩

def scanExponent (t : NumberText) (s : List Char) : Scalar Number × List Char :=
  let (negative, s) := match s with
    | '+' :: rest => (false, rest)
    | '-' :: rest => (true, rest)
    | rest => (false, rest)
  let digits := s.takeWhile Char.isDigit
  let rest := s.dropWhile Char.isDigit
  if digits.isEmpty then (cutNumber rest, rest)
  else (⟨({ t with exponent := some ⟨negative, digits⟩ } : NumberText).value, none⟩, rest)

def scanFraction (t : NumberText) (s : List Char) : Scalar Number × List Char :=
  match s with
  | '.' :: s =>
    let digits := s.takeWhile Char.isDigit
    let rest := s.dropWhile Char.isDigit
    let t := { t with fraction := some digits }
    if digits.isEmpty then (cutNumber rest, rest)
    else match rest with
      | 'e' :: rest | 'E' :: rest => scanExponent t rest
      | rest => (⟨t.value, none⟩, rest)
  | 'e' :: rest | 'E' :: rest => scanExponent t rest
  | rest => (⟨t.value, none⟩, rest)

def scanNumber (negative : Bool) (s : List Char) : Scalar Number × List Char :=
  let digits := s.takeWhile Char.isDigit
  let rest := s.dropWhile Char.isDigit
  match digits with
  | [] => (cutNumber rest, rest)
  | '0' :: _ :: _ => (⟨.error .invalidNumber, some .invalidNumber⟩, rest)
  | digits => scanFraction ⟨negative, digits, none, none⟩ rest

/-! ## Strings -/

/-- A piece of a string: a character, or a code unit written in hexadecimal. -/
inductive Piece where
  | char (c : Char)
  | unit (n : Nat)

inductive StringEnd where
  | closed
  | stopped
  | control
  | badEscape
  | badHex

def StringEnd.fault : StringEnd → Option TextFault
  | closed => none
  | stopped => some .endInString
  | control => some .controlCharacter
  | badEscape | badHex => some .invalidEscape

def hexValue (c : Char) : Option Nat :=
  if c.isDigit then some (c.toNat - 48)
  else if 'a' ≤ c ∧ c ≤ 'f' then some (c.toNat - 87)
  else if 'A' ≤ c ∧ c ≤ 'F' then some (c.toNat - 55)
  else none

def hexValue4 (a b c d : Char) : Option Nat := do
  return (((← hexValue a) * 16 + (← hexValue b)) * 16 + (← hexValue c)) * 16 + (← hexValue d)

/-- The bytes of a text in UTF-8. -/
def byteLength (s : List Char) : Nat := s.foldl (fun bytes c => bytes + c.utf8Size) 0

def escapedChar : Char → Option Char
  | '"' => some '"'
  | '\\' => some '\\'
  | '/' => some '/'
  | 'b' => some '\x08'
  | 'f' => some '\x0c'
  | 'n' => some '\n'
  | 'r' => some '\r'
  | 't' => some '\t'
  | _ => none

structure StringText where
  pieces : List Piece
  ending : StringEnd
  rest : List Char

def StringText.push (piece : Piece) (t : StringText) : StringText :=
  { t with pieces := piece :: t.pieces }

def scanString : List Char → StringText
  | [] => ⟨[], .stopped, []⟩
  | '"' :: rest => ⟨[], .closed, rest⟩
  | '\\' :: 'u' :: a :: b :: c :: d :: rest =>
    match hexValue4 a b c d with
    | some n => (scanString rest).push (.unit n)
    | none => ⟨[], .badHex, []⟩
  | '\\' :: 'u' :: short => ⟨[], if byteLength short < 4 then .stopped else .badHex, []⟩
  | '\\' :: c :: rest =>
    match escapedChar c with
    | some c => (scanString rest).push (.char c)
    | none => ⟨[], .badEscape, []⟩
  | ['\\'] => ⟨[], .stopped, []⟩
  | c :: rest =>
    if c.toNat < 32 then ⟨[], .control, []⟩ else (scanString rest).push (.char c)

def joinPieces (ending : StringEnd) : List Piece → Except TextFault (List Char)
  | [] => match ending.fault with
    | none => .ok []
    | some fault => .error fault
  | .char c :: rest => (joinPieces ending rest).map (c :: ·)
  | .unit n :: rest =>
    if 0xDC00 ≤ n ∧ n ≤ 0xDFFF then .error .loneSurrogate
    else if 0xD800 ≤ n ∧ n ≤ 0xDBFF then
      match rest, ending with
      | .unit m :: rest, _ =>
        if 0xDC00 ≤ m ∧ m ≤ 0xDFFF then
          (joinPieces ending rest).map
            (Char.ofNat ((n - 0xD800) * 0x400 + (m - 0xDC00) + 0x10000) :: ·)
        else .error .loneSurrogate
      | [], .stopped => .error .endInString
      | [], .badHex => .error .invalidEscape
      | _, _ => .error .unpairedSurrogate
    else (joinPieces ending rest).map (Char.ofNat n :: ·)

/-- A string from its pieces. A character that stands for a byte outside UTF-8 spoils it. -/
def StringText.scalar (isStray : Char → Bool) (t : StringText) : Scalar String :=
  let read := match joinPieces t.ending t.pieces with
    | .ok cs => if cs.any isStray then .error .invalidCodePoint else .ok (String.ofList cs)
    | .error fault => .error fault
  ⟨read, t.ending.fault⟩

/-! ## Words -/

def scanWord : (word : List Char) → List Char → Except TextFault (List Char)
  | [], rest => .ok rest
  | _ :: _, [] => .error .endInValue
  | w :: word, c :: rest => if w = c then scanWord word rest else .error .expectedWord

/-! ## The whole text -/

def isBlank (c : Char) : Bool := c = ' ' || c = '\t' || c = '\n' || c = '\r'

/-- The token that starts with a character, and the text after it; none after a token that cannot
be skipped. -/
def scanToken (isStray : Char → Bool) (c : Char) (rest : List Char) :
    Token × Option (List Char) :=
  let word (word : List Char) (token : Token) : Token × Option (List Char) :=
    match scanWord word rest with
    | .ok rest => (token, some rest)
    | .error fault => (.badWord fault, none)
  let number (negative : Bool) (s : List Char) : Token × Option (List Char) :=
    let (scalar, rest) := scanNumber negative s
    (.number scalar, if scalar.skip.isSome then none else some rest)
  match c with
  | '[' => (.openList, some rest)
  | ']' => (.closeList, some rest)
  | '{' => (.openMap, some rest)
  | '}' => (.closeMap, some rest)
  | ',' => (.comma, some rest)
  | ':' => (.colon, some rest)
  | 'n' => word ['u', 'l', 'l'] .null
  | 't' => word ['r', 'u', 'e'] (.bool true)
  | 'f' => word ['a', 'l', 's', 'e'] (.bool false)
  | '"' =>
    let text := scanString rest
    let scalar := text.scalar isStray
    (.string scalar, if scalar.skip.isSome then none else some text.rest)
  | '-' => number true rest
  | c => if c.isDigit then number false (c :: rest) else (.stray, none)

/-! ## A token leaves a shorter text -/

theorem length_dropWhile_le (p : Char → Bool) (s : List Char) :
    (s.dropWhile p).length ≤ s.length :=
  (List.dropWhile_sublist p).length_le

theorem scanExponent_length (t : NumberText) (s : List Char) :
    (scanExponent t s).2.length ≤ s.length := by
  unfold scanExponent
  split
  rename_i negative s' h
  have shorter : s'.length ≤ s.length := by
    split at h <;> simp only [Prod.mk.injEq] at h <;> obtain ⟨-, rfl⟩ := h <;> simp
  have := length_dropWhile_le Char.isDigit s'
  dsimp only
  split <;> dsimp only <;> omega

theorem scanFraction_length (t : NumberText) (s : List Char) :
    (scanFraction t s).2.length ≤ s.length := by
  unfold scanFraction
  split
  · rename_i rest
    have shorter := length_dropWhile_le Char.isDigit rest
    dsimp only
    split
    · simp only [List.length_cons]; omega
    · split
      · rename_i rest' h
        have := scanExponent_length { t with fraction := some (rest.takeWhile Char.isDigit) } rest'
        rw [h] at shorter
        simp only [List.length_cons] at *
        omega
      · rename_i rest' h
        have := scanExponent_length { t with fraction := some (rest.takeWhile Char.isDigit) } rest'
        rw [h] at shorter
        simp only [List.length_cons] at *
        omega
      · simp only [List.length_cons] at *
        omega
  · rename_i rest
    have := scanExponent_length t rest
    simp only [List.length_cons]
    omega
  · rename_i rest
    have := scanExponent_length t rest
    simp only [List.length_cons]
    omega
  · exact Nat.le_refl _

theorem scanNumber_length (negative : Bool) (s : List Char) :
    (scanNumber negative s).2.length ≤ (s.dropWhile Char.isDigit).length := by
  unfold scanNumber
  dsimp only
  split
  · exact Nat.le_refl _
  · exact Nat.le_refl _
  · exact scanFraction_length _ _

theorem scanString_length (s : List Char) : (scanString s).rest.length ≤ s.length := by
  fun_induction scanString s <;> simp_all [StringText.push] <;> omega

theorem scanWord_length {word s rest : List Char} (h : scanWord word s = .ok rest) :
    rest.length ≤ s.length := by
  fun_induction scanWord word s <;> simp_all
  omega

theorem scanToken_length {isStray : Char → Bool} {c : Char} {s rest : List Char}
    (h : (scanToken isStray c s).2 = some rest) : rest.length ≤ s.length := by
  have ofWord (word : List Char) (token : Token)
      (h : (match scanWord word s with
        | .ok rest => ((token, some rest) : Token × Option (List Char))
        | .error fault => (.badWord fault, none)).2 = some rest) : rest.length ≤ s.length := by
    split at h
    · rename_i found
      simp only [Option.some.injEq] at h
      exact h ▸ scanWord_length found
    · simp at h
  unfold scanToken at h
  dsimp only at h
  split at h
  all_goals try (simp only [Option.some.injEq] at h; subst h; exact Nat.le_refl _)
  · exact ofWord _ _ h
  · exact ofWord _ _ h
  · exact ofWord _ _ h
  · have := scanString_length s
    split at h <;> simp_all
  · have := scanNumber_length true s
    have := length_dropWhile_le Char.isDigit s
    split at h <;> simp_all
    omega
  · split at h
    · rename_i digit
      have := scanNumber_length false (c :: s)
      rw [List.dropWhile_cons_of_pos digit] at this
      have := length_dropWhile_le Char.isDigit s
      split at h <;> simp_all
      omega
    · simp at h

def tokens (isStray : Char → Bool) : List Char → List Token
  | [] => []
  | c :: rest =>
    if isBlank c then tokens isStray rest
    else match _h : scanToken isStray c rest with
      | (token, none) => [token]
      | (token, some rest') => token :: tokens isStray rest'
termination_by s => s.length
decreasing_by
  · simp
  · have := @scanToken_length isStray c rest rest' (by rw [_h])
    simp only [List.length_cons]
    omega

end ControlPanel.Json
