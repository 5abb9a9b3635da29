import ControlPanel.Text.Charset

/-!
# Addresses of requests

The address of a request is put together as text and then read by the rules of the web: tabs and
line breaks are dropped, backslashes count as slashes, segments of dots are resolved, characters
that may not stand in an address are percent-encoded, and what follows a number sign is not sent.
-/

namespace ControlPanel

structure Address where
  authority : String
  target : String
  deriving DecidableEq, Repr

namespace Address

/-! ## Percent encoding -/

def hexDigit (n : Nat) : Char := Char.ofNat (if n < 10 then 48 + n else 55 + n)

def encodeByte (b : UInt8) : List Char :=
  ['%', hexDigit (b.toNat / 16), hexDigit (b.toNat % 16)]

/-- A character, percent-encoded if it is not printable ASCII or is one of some others. -/
def encodeChar (special : List Char) (c : Char) : List Char :=
  if c.toNat ≤ 0x20 ∨ 0x7F ≤ c.toNat ∨ c ∈ special then
    (Text.toUtf8 c.toString).flatMap encodeByte
  else [c]

def pathSpecials : List Char := ['"', '#', '<', '>', '?', Char.ofNat 0x60, '\x7b', '\x7d']

def querySpecials : List Char := ['"', '#', '<', '>', '\'']

/-! ## Paths -/

def isSlash (c : Char) : Bool := c = '/' || c = '\\'

/-- The parts between slashes; there is at least one. -/
def segments : List Char → List (List Char)
  | [] => [[]]
  | c :: rest =>
    if isSlash c then [] :: segments rest
    else match segments rest with
      | [] => [[c]]
      | segment :: more => (c :: segment) :: more

/-- Dots, each perhaps percent-encoded. -/
def dots? : List Char → Option Nat
  | [] => some 0
  | '.' :: rest => (dots? rest).map (· + 1)
  | '%' :: '2' :: e :: rest => if e = 'e' ∨ e = 'E' then (dots? rest).map (· + 1) else none
  | _ => none

/-- The name of a drive, which is not left by going up. -/
def isDrive : List Char → Bool
  | [c, d] => c.isAlpha && (d = ':' || d = '|')
  | _ => false

/-- Goes up from the segments before a place, latest first. -/
def goUp : List (List Char) → List (List Char)
  | [] => []
  | segment :: rest => if isDrive segment then segment :: rest else rest

/-- Resolves the segments of dots, behind segments that are resolved, latest first. -/
def resolveFrom (before : List (List Char)) : List (List Char) → List (List Char)
  | [] => before.reverse
  | segment :: rest =>
    let before' := match dots? segment with
      | some 1 => before
      | some 2 => goUp before
      | _ => segment :: before
    let isDots := dots? segment = some 1 ∨ dots? segment = some 2
    if rest.isEmpty ∧ isDots then ([] :: before').reverse else resolveFrom before' rest

def pathText (path : List Char) : String :=
  let path := match path with
    | c :: rest => if isSlash c then rest else c :: rest
    | [] => []
  let parts := (resolveFrom [] (segments path)).map fun segment =>
    String.ofList (segment.flatMap (encodeChar pathSpecials))
  "/" ++ "/".intercalate parts

def queryText : List Char → String
  | '?' :: query =>
    "?" ++ String.ofList ((query.takeWhile (· != '#')).flatMap (encodeChar querySpecials))
  | _ => ""

/-! ## Whole addresses -/

/-- A character that is dropped at the ends of an address. -/
def isEdge (c : Char) : Bool := c.toNat ≤ 0x20

def isDropped (c : Char) : Bool := c = '\t' || c = '\n' || c = '\r'

def number (digits : List Char) : Nat :=
  digits.foldl (fun n c => 10 * n + (c.toNat - '0'.toNat)) 0

/-- A host, and behind a colon perhaps a number of 16 bits. Unlike the rules of the web this knows
no users before a host and no hosts in brackets, and an address with such a one is refused where it
has other colons; nor does it look at the characters of a host. -/
def isAuthority (authority : List Char) : Bool :=
  let host := authority.takeWhile (· != ':')
  let digits := authority.drop (host.length + 1)
  !host.isEmpty && digits.all Char.isDigit && number digits < UInt16.size

def ofRest? (rest : List Char) : Option Address :=
  let ends (c : Char) : Bool := isSlash c || c = '?' || c = '#'
  let authority := rest.takeWhile (!ends ·)
  let beyond := rest.dropWhile (!ends ·)
  let inPath (c : Char) : Bool := c != '?' && c != '#'
  if isAuthority authority then
    some ⟨String.ofList authority,
      pathText (beyond.takeWhile inPath) ++ queryText (beyond.dropWhile inPath)⟩
  else none

def isScheme (scheme : List Char) : Bool :=
  scheme.map Char.toLower ∈ ["http".toList, "https".toList]

def ofText? (text : String) : Option Address :=
  let cs := (Text.dropEndWhile isEdge (text.toList.dropWhile isEdge)).filter (!isDropped ·)
  let scheme := cs.takeWhile (· != ':')
  match cs.drop scheme.length with
  | ':' :: '/' :: '/' :: rest =>
    if isScheme scheme then ofRest? (rest.dropWhile isSlash)
    else none
  | _ => none

end Address

end ControlPanel
