import ControlPanel.Json.Token

/-!
# From tokens to nodes

Reading runs through the tokens once and keeps the containers that are still open on a stack, so
the depth of a document does not matter. `Document.ofText` is total: a text that is no JSON gives
a node that says where it breaks.
-/

namespace ControlPanel.Json

/-- A container that waits for the value inside it, with what it already holds, the latest first. -/
inductive Frame where
  | list (items : List Node)
  | map (members : List Member) (key : Scalar String)

/-- The node of a whole text, and whether anything but blanks follows it. -/
structure Document where
  root : Node
  trailing : Bool

/-- A text that is read in part: what is wanted next, inside which containers. -/
inductive Reading where
  | value (frames : List Frame)
  | item (first : Bool) (items : List Node) (frames : List Frame)
  | key (first : Bool) (members : List Member) (frames : List Frame)
  | colon (members : List Member) (key : Scalar String) (frames : List Frame)
  | separator (node : Node) (frames : List Frame)
  | done (document : Document)

/-- The nesting level from which containers count as deep. -/
def depthLimit : Nat := 128

/-- A container is deep if it and those around it reach the level. -/
def isDeep (frames : List Frame) : Bool := !(frames.drop (depthLimit - 2)).isEmpty

def listNode (frames : List Frame) (items : List Node) (ending : ListEnd) : Node :=
  .array (isDeep frames) items.reverse ending

def mapNode (frames : List Frame) (members : List Member) (ending : MapEnd Node) : Node :=
  .object (isDeep frames) members.reverse ending

/-- The document around a node after which nothing can be read. -/
def cut (node : Node) : List Frame → Document
  | [] => ⟨node, false⟩
  | .list items :: frames => cut (listNode frames (node :: items) .closed) frames
  | .map members key :: frames => cut (mapNode frames ((key, node) :: members) .closed) frames

namespace Reading

def stopAt (node : Node) (frames : List Frame) : Reading := .done (cut node frames)

/-- A scalar, after which the text breaks off if it cannot even be skipped. -/
def scalar {α : Type} (s : Scalar α) (node : Node) (frames : List Frame) : Reading :=
  if s.skip.isSome then stopAt node frames else .separator node frames

def start (frames : List Frame) : Token → Reading
  | .openList => .item true [] frames
  | .openMap => .key true [] frames
  | .null => .separator .null frames
  | .bool b => .separator (.bool b) frames
  | .number s => scalar s (.number s) frames
  | .string s => scalar s (.string s) frames
  | .badWord fault => stopAt (.badWord fault) frames
  | .closeList | .closeMap | .comma | .colon | .stray => stopAt (.broken .expectedValue) frames

def standsAt : Token → Node
  | .openList => .array false [] .stopped
  | .openMap => .object false [] .stopped
  | .null => .null
  | .bool b => .bool b
  | .number s => .number s
  | .string s => .string s
  | .badWord fault => .badWord fault
  | .closeList | .closeMap | .comma | .colon | .stray => .broken .expectedValue

def next : Reading → Token → Reading
  | .value frames, token => start frames token
  | .item true items frames, .closeList => .separator (listNode frames items .closed) frames
  | .item false items frames, .closeList => stopAt (listNode frames items .commaClosed) frames
  | .item _ items frames, token => start (.list items :: frames) token
  | .key first members frames, token =>
    match first, token with
    | _, .string name =>
      if name.skip.isSome then
        stopAt (mapNode frames ((name, .broken .endInString) :: members) .closed) frames
      else .colon members name frames
    | true, .closeMap => .separator (mapNode frames members .closed) frames
    | false, .closeMap => stopAt (mapNode frames members .commaClosed) frames
    | _, token => stopAt (mapNode frames members (.noKey (standsAt token))) frames
  | .colon members name frames, .colon => .value (.map members name :: frames)
  | .colon members name frames, _ =>
    stopAt (mapNode frames ((name, .broken .expectedColon) :: members) .closed) frames
  | .separator node (.list items :: frames), token =>
    match token with
    | .comma => .item false (node :: items) frames
    | .closeList => .separator (listNode frames (node :: items) .closed) frames
    | _ => stopAt (listNode frames (node :: items) .noSeparator) frames
  | .separator node (.map members name :: frames), token =>
    match token with
    | .comma => .key false ((name, node) :: members) frames
    | .closeMap => .separator (mapNode frames ((name, node) :: members) .closed) frames
    | _ => stopAt (mapNode frames ((name, node) :: members) .noSeparator) frames
  | .separator node [], _ => .done ⟨node, true⟩
  | .done document, _ => .done document

def finish : Reading → Document
  | .value frames => cut (.broken .endInValue) frames
  | .item true items frames => cut (listNode frames items .stopped) frames
  | .item false items frames => cut (listNode frames items .stoppedAfterComma) frames
  | .key true members frames => cut (mapNode frames members .stopped) frames
  | .key false members frames => cut (mapNode frames members .stoppedAfterComma) frames
  | .colon members name frames =>
    cut (mapNode frames ((name, .broken .endInObject) :: members) .closed) frames
  | .separator node [] => ⟨node, false⟩
  | .separator node (.list items :: frames) =>
    cut (listNode frames (node :: items) .stopped) frames
  | .separator node (.map members name :: frames) =>
    cut (mapNode frames ((name, node) :: members) .stopped) frames
  | .done document => document

end Reading

namespace Document

def ofTokens (tokens : List Token) : Document :=
  (tokens.foldl Reading.next (.value [])).finish

/-- The document of a text in which the characters chosen by `isStray` stand for bytes outside
UTF-8. -/
def ofChars (isStray : Char → Bool) (text : List Char) : Document :=
  ofTokens (tokens isStray text)

def ofText (text : String) : Document := ofChars (fun _ => false) text.toList

end Document

end ControlPanel.Json
