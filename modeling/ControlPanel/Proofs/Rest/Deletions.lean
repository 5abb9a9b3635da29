import ControlPanel.Proofs.Json.Records
import ControlPanel.Rest.Dashboards
import ControlPanel.Rest.Plugins

/-!
# Deletions that the backend refuses

The answer to a deletion is taken for a refusal only if it can be read as an envelope: every key is
readable, no field of the envelope is given twice, and each has a value of its type (`Legible`). An
object that refuses and is not legible counts as success (`Rest.delete_refused_iff`).
-/

namespace ControlPanel

open Json (Member Node Scalar Decoder)
open Json.Record (Named)

/-! ## Bodies -/

theorem Text.utf8_of_ascii {bytes : List UInt8} (ascii : ∀ b ∈ bytes, b.toNat < 0x80) :
    utf8 bytes = bytes.map fun b => some (Char.ofNat b.toNat) := by
  unfold utf8
  induction bytes with
  | nil => rfl
  | cons b bytes ih =>
    have small : b.toNat < 0x80 := ascii b (.head _)
    have rest := ih fun b listed => ascii b (.tail _ listed)
    have first : PartialChar.empty.next b.toNat =
        ([some (Char.ofNat b.toNat)], PartialChar.empty) := by
      simp [PartialChar.next, PartialChar.empty, PartialChar.start, small]
    simp [PartialChar.decode, first, rest]

theorem Json.tokens_of_blank {isStray : Char → Bool} {cs : List Char}
    (blank : ∀ c ∈ cs, isBlank c = true ∨ c = '\x0c') :
    tokens isStray cs = [] ∨ tokens isStray cs = [.stray] := by
  induction cs with
  | nil => simp [tokens]
  | cons c cs ih =>
    rcases blank c (.head _) with space | rfl
    · simpa [tokens, space] using ih fun c listed => blank c (.tail _ listed)
    · right
      have stray : scanToken isStray '\x0c' cs = (.stray, none) := rfl
      have feed : isBlank '\x0c' = false := rfl
      simp only [tokens, feed, Bool.false_eq_true, if_false]
      split <;> simp_all

namespace Json.Document

structure IsObject (document : Document) (members : List Member) : Prop where
  whole : document = ⟨.object false members .closed, false⟩
  clean : Node.skipMembers members = none

theorem root_of_blank {bytes : List UInt8} (blank : bytes.all Response.isBlankByte = true) :
    ∃ fault, (ofBytes bytes).root = .broken fault := by
  have bytes_blank : ∀ b ∈ bytes, b = 0x20 ∨ b = 0x09 ∨ b = 0x0A ∨ b = 0x0C ∨ b = 0x0D := by
    simpa [Response.isBlankByte] using blank
  have ascii : ∀ b ∈ bytes, b.toNat < 0x80 := by
    intro b listed
    rcases bytes_blank b listed with rfl | rfl | rfl | rfl | rfl <;> decide
  rw [ofBytes, Text.utf8_of_ascii ascii]
  simp only [List.map_map, Function.comp_def, Option.getD_some, ofChars]
  have chars_blank : ∀ c ∈ bytes.map fun b => Char.ofNat b.toNat,
      isBlank c = true ∨ c = '\x0c' := by
    intro c listed
    obtain ⟨b, here, rfl⟩ := List.mem_map.mp listed
    rcases bytes_blank b here with rfl | rfl | rfl | rfl | rfl <;> decide
  rcases tokens_of_blank chars_blank with none | one
  · exact ⟨.endInValue, by rw [none]; rfl⟩
  · exact ⟨.expectedValue, by rw [one]; rfl⟩

end Json.Document

/-! ## Envelopes -/

namespace Envelope

def IsText (node : Node) : Prop :=
  node = .null ∨ ∃ text scalar, node = .string scalar ∧ scalar.read = .ok text

def fields : List String := ["success", "status", "data", "message", "timestamp"]

/-- The members of an object that can be read as an envelope. -/
structure Legible (members : List Member) : Prop where
  keys : ∀ member ∈ members, ∃ name, member.1.read = .ok name
  once : (Json.Record.fieldNames fields members).Nodup
  success : ∀ node, Named members "success" node → node = .null ∨ ∃ b, node = .bool b
  status : ∀ node, Named members "status" node → IsText node
  message : ∀ node, Named members "message" node → IsText node
  data : ∀ node, Named members "data" node → ∃ value, Decoder.readJson node = .ok value
  timestamp : ∀ node, Named members "timestamp" node → ∃ value, Decoder.readJson node = .ok value

def Refuses (members : List Member) : Prop :=
  Named members "success" (.bool false) ∨
    ∃ scalar, Named members "status" (.string scalar) ∧ scalar.read = .ok "error"

variable {α : Type} {payload : Decoder α} {members : List Member}

theorem record_read_eq_ok_iff {source : Json.Source} {slots : String → Json.Slot}
    {e : Envelope α} : (record payload).read source slots = .ok e ↔
      (Json.Record.defaultedOption "success" .bool).read source slots = .ok e.success ∧
        (Json.Record.defaultedOption "status" .string).read source slots = .ok e.status ∧
        (Json.Record.defaultedOption "data" payload).read source slots = .ok e.data ∧
        (Json.Record.defaultedOption "message" .string).read source slots = .ok e.message ∧
        (Json.Record.defaultedOption "timestamp" .json).read source slots = .ok e.timestamp := by
  change (Json.Record.and (.and (.and (.and (.and (.done Envelope.mk) _) _) _) _) _).read _ _ = _
    ↔ _
  simp only [Json.Record.and_read_eq_ok_iff]
  constructor
  · rintro ⟨_, timestamp, ⟨_, message, ⟨_, data, ⟨_, status, ⟨_, success, ⟨⟩, h₁, rfl⟩, h₂, rfl⟩,
      h₃, rfl⟩, h₄, rfl⟩, h₅, rfl⟩
    exact ⟨h₁, h₂, h₃, h₄, h₅⟩
  · rintro ⟨h₁, h₂, h₃, h₄, h₅⟩
    exact ⟨_, _, ⟨_, _, ⟨_, _, ⟨_, _, ⟨_, _, rfl, h₁, rfl⟩, h₂, rfl⟩, h₃, rfl⟩, h₄, rfl⟩, h₅, rfl⟩

theorem skip_of_named {name : String} {node : Node} (clean : Node.skipMembers members = none)
    (here : Named members name node) : node.skip = none := by
  obtain ⟨key, listed, _⟩ := here
  induction members with
  | nil => simp at listed
  | cons member members ih =>
    obtain ⟨first, found⟩ := member
    simp only [Node.skipMembers, Option.or_eq_none_iff] at clean
    rcases List.mem_cons.mp listed with same | listed
    · cases same
      exact clean.1.2
    · exact ih clean.2 listed

theorem Legible.distinct (legible : Legible members) (clean : Node.skipMembers members = none) :
    Json.Record.Distinct fields Json.Record.skipped members where
  keys := legible.keys
  once := legible.once
  others name node here _ := by simp [Json.Record.skipped, skip_of_named clean here]

theorem ofDocument_eq_ok_iff {document : Json.Document} (object : document.IsObject members)
    {e : Envelope α} : (decoder payload).ofDocument document = .ok e ↔
      Json.Record.Distinct fields Json.Record.skipped members ∧
        (record payload).read .text (Json.Record.memberSlot members) = .ok e := by
  rw [object.whole]
  exact Json.Record.ofDocument_eq_ok_iff

theorem exists_json_iff {source : Json.Source} {node : Node} :
    (node = .null ∨ ∃ value, Decoder.json source node = .ok value) ↔
      ∃ value, Decoder.readJson node = .ok value := by
  rw [or_iff_right_of_imp]
  · rfl
  · rintro rfl
    exact ⟨.null, rfl⟩

theorem legible_iff {document : Json.Document} (object : document.IsObject members) :
    Legible members ↔ ∃ e, (decoder .json).ofDocument document = .ok e := by
  simp only [ofDocument_eq_ok_iff object, record_read_eq_ok_iff]
  have readable {β : Type} {d : Decoder β} (name : String)
      (distinct : Json.Record.Distinct fields Json.Record.skipped members) (field : name ∈ fields) :
      (∃ a, (Json.Record.defaultedOption name d).read .text (Json.Record.memberSlot members) =
        .ok a) ↔ ∀ node, Named members name node → node = .null ∨ ∃ a, d .text node = .ok a :=
    Json.Record.exists_defaultedOption_iff distinct field
  constructor
  · intro legible
    have distinct := legible.distinct object.clean
    have success := legible.success
    have status := legible.status
    have message := legible.message
    simp only [← Decoder.bool_eq_ok_iff .text] at success
    simp only [IsText, ← Decoder.string_eq_ok_iff .text] at status message
    obtain ⟨success, h₁⟩ := (readable "success" distinct (by decide)).mpr success
    obtain ⟨status, h₂⟩ := (readable "status" distinct (by decide)).mpr status
    obtain ⟨data, h₃⟩ := (readable "data" distinct (by decide)).mpr fun node here =>
      exists_json_iff.mpr (legible.data node here)
    obtain ⟨message, h₄⟩ := (readable "message" distinct (by decide)).mpr message
    obtain ⟨timestamp, h₅⟩ := (readable "timestamp" distinct (by decide)).mpr fun node here =>
      exists_json_iff.mpr (legible.timestamp node here)
    exact ⟨⟨success, status, data, message, timestamp⟩, distinct, h₁, h₂, h₃, h₄, h₅⟩
  · rintro ⟨e, distinct, h₁, h₂, h₃, h₄, h₅⟩
    have success := (readable "success" distinct (by decide)).mp ⟨_, h₁⟩
    have status := (readable "status" distinct (by decide)).mp ⟨_, h₂⟩
    have data := (readable "data" distinct (by decide)).mp ⟨_, h₃⟩
    have message := (readable "message" distinct (by decide)).mp ⟨_, h₄⟩
    have timestamp := (readable "timestamp" distinct (by decide)).mp ⟨_, h₅⟩
    simp only [Decoder.bool_eq_ok_iff] at success
    simp only [Decoder.string_eq_ok_iff] at status message
    exact ⟨distinct.keys, distinct.once, success, status, message,
      fun node here => exists_json_iff.mp (data node here),
      fun node here => exists_json_iff.mp (timestamp node here)⟩

theorem isRejection_of_refuses {document : Json.Document} {e : Envelope α}
    (object : document.IsObject members) (refuses : Refuses members)
    (read : (decoder payload).ofDocument document = .ok e) : e.isRejection = true := by
  obtain ⟨distinct, fields⟩ := (ofDocument_eq_ok_iff object).mp read
  obtain ⟨success, status, _⟩ := record_read_eq_ok_iff.mp fields
  rcases refuses with no | ⟨scalar, no, error⟩
  · have found := (Json.Record.defaulted_eq_ok_iff distinct (by decide) no).mp success
    have same : e.success = some false := (Except.ok.inj found).symm
    simp [isRejection, same]
  · have found := (Json.Record.defaulted_eq_ok_iff distinct (by decide) no).mp status
    have text : Decoder.string .text (.string scalar) = .ok "error" :=
      (Decoder.string_eq_ok_iff .text).mpr ⟨scalar, rfl, error⟩
    rw [Decoder.nullable_of_eq_ok (by simp) text] at found
    have same : e.status = some "error" := (Except.ok.inj found).symm
    simp [isRejection, same]

end Envelope

/-! ## Deletions -/

def Response.Carries (r : Response) (members : List Member) : Prop :=
  ∃ bytes, r.bytes = .ok bytes ∧ (Json.Document.ofBytes bytes).IsObject members

theorem Response.verdict_eq {r : Response} {members : List Member} (carries : r.Carries members)
    (refuses : Envelope.Refuses members) :
    (Envelope.Legible members → ∃ message, r.verdict = .error (.rejected message)) ∧
      (¬ Envelope.Legible members → r.verdict = .ok ()) := by
  obtain ⟨bytes, whole, object⟩ := carries
  have solid : bytes.all isBlankByte = false := by
    rw [Bool.eq_false_iff]
    intro blank
    obtain ⟨fault, broken⟩ := Json.Document.root_of_blank blank
    rw [object.whole] at broken
    cases broken
  have accepts {e : Envelope Json} (read : (Envelope.decoder .json).ofDocument (.ofBytes bytes) =
      .ok e) : r.verdict = e.accept.map fun _ => () := by
    rw [verdict, whole]
    change (if bytes.all isBlankByte = true then _ else _) = _
    rw [solid, read]
    rfl
  have ignores {fault : Json.Fault} (unread : (Envelope.decoder .json).ofDocument
      (.ofBytes bytes) = .error fault) : r.verdict = .ok () := by
    rw [verdict, whole]
    change (if bytes.all isBlankByte = true then _ else _) = _
    rw [solid, unread]
    rfl
  rw [Envelope.legible_iff object]
  constructor
  · rintro ⟨e, read⟩
    have rejects := Envelope.isRejection_of_refuses object refuses read
    refine ⟨e.message.getD "request failed", ?_⟩
    rw [accepts read]
    simp [Envelope.accept, rejects, Except.map]
  · intro illegible
    cases read : (Envelope.decoder .json).ofDocument (.ofBytes bytes) with
    | ok e => exact absurd ⟨e, read⟩ illegible
    | error => exact ignores read

namespace Rest

inductive IsDeletion : Exchange Unit → Prop
  | dashboard (id : String) : IsDeletion (deleteDashboard id)
  | widget (dashboard widget : String) : IsDeletion (removeWidget dashboard widget)
  | plugin (id : String) : IsDeletion (uninstallPlugin id)

/-- A refused deletion fails if and only if the refusal is legible. -/
theorem delete_refused_iff {r : Response} {members : List Member} (carries : r.Carries members)
    (refuses : Envelope.Refuses members) :
    (∀ e, IsDeletion e → ((∃ error, e.read r = .error error) ↔ Envelope.Legible members)) ∧
      ∀ {σ : Type} (c : ApiClient) (transport : Transport σ) (id : String) (ids : List String)
        (s s' : σ) (request : HttpRequest), c.request? (deleteDashboard id) = some request →
        transport request s = (s', some r) →
        (Envelope.Legible members → ∃ message,
          c.deleteDashboards transport (id :: ids) s = (s', .error (.rejected message))) ∧
          (¬ Envelope.Legible members →
            c.deleteDashboards transport (id :: ids) s = c.deleteDashboards transport ids s') := by
  obtain ⟨fails, passes⟩ := r.verdict_eq carries refuses
  constructor
  · intro e deletion
    have read : e.read r = r.verdict := by cases deletion <;> rfl
    rw [read]
    constructor
    · rintro ⟨error, failed⟩
      refine Classical.byContradiction fun illegible => ?_
      cases (passes illegible).symm.trans failed
    · intro legible
      obtain ⟨message, rejected⟩ := fails legible
      exact ⟨_, rejected⟩
  · intro σ c transport id ids s s' request made answered
    have sent : c.send transport (deleteDashboard id) s = (s', r.verdict) := by
      simp only [ApiClient.send, made, answered]
      rfl
    simp only [ApiClient.deleteDashboards, sent]
    constructor
    · intro legible
      obtain ⟨message, rejected⟩ := fails legible
      exact ⟨message, by rw [rejected]⟩
    · intro illegible
      rw [passes illegible]

def refusal (message : String) : Response :=
  ⟨200, "", .whole (Text.toUtf8 ("\x7b\"success\":false,\"message\":" ++ message ++ "\x7d"))⟩

def refusalMembers (message : Node) : List Member :=
  [(⟨.ok "success", none⟩, .bool false), (⟨.ok "message", none⟩, message)]

theorem named_refusalMembers_iff {message node : Node} {name : String} :
    Named (refusalMembers message) name node ↔
      name = "success" ∧ node = .bool false ∨ name = "message" ∧ node = message := by
  have none : ¬ Named [] name node := by simp [Named]
  rw [refusalMembers, Json.Record.named_cons_iff rfl, Json.Record.named_cons_iff rfl]
  simp [none]

theorem refuses_refusalMembers (message : Node) : Envelope.Refuses (refusalMembers message) :=
  .inl (named_refusalMembers_iff.mpr (.inl ⟨rfl, rfl⟩))

theorem legible_refusalMembers_iff {message : Node} :
    Envelope.Legible (refusalMembers message) ↔ Envelope.IsText message := by
  constructor
  · exact fun legible => legible.message _ (named_refusalMembers_iff.mpr (.inr ⟨rfl, rfl⟩))
  · intro readable
    have once : Json.Record.fieldNames Envelope.fields (refusalMembers message) =
        ["success", "message"] := rfl
    refine ⟨by simp [refusalMembers], by simp [once], ?_, ?_, ?_, ?_, ?_⟩
    all_goals simp [named_refusalMembers_iff, readable]

theorem delete_refused_locked :
    let r := refusal "\"locked\""
    let c := ApiClient.ofBase "http://127.0.0.1:9"
    ∃ members, r.Carries members ∧ Envelope.Refuses members ∧ Envelope.Legible members ∧
      (∃ error, (uninstallPlugin "p1").read r = .error error) ∧ ∃ message,
        c.deleteDashboards (fun _ s => (s, some r)) ["d1", "d2"] () =
          ((), .error (.rejected message)) := by
  intro r c
  let message : Node := .string ⟨.ok "locked", none⟩
  have object : (Json.Document.ofBytes
      (Text.toUtf8 "\x7b\"success\":false,\"message\":\"locked\"\x7d")).IsObject
        (refusalMembers message) := ⟨by with_unfolding_all rfl, rfl⟩
  have carries : r.Carries (refusalMembers message) := ⟨_, rfl, object⟩
  have legible : Envelope.Legible (refusalMembers message) :=
    legible_refusalMembers_iff.mpr (.inr ⟨"locked", _, rfl, rfl⟩)
  obtain ⟨fails, stops⟩ := delete_refused_iff carries (refuses_refusalMembers message)
  obtain ⟨request, made⟩ := Option.isSome_iff_exists.mp
    (show (c.request? (deleteDashboard "d1")).isSome = true by decide +kernel)
  exact ⟨_, carries, refuses_refusalMembers message, legible, (fails _ (.plugin "p1")).mpr legible,
    (stops c (fun _ s => (s, some r)) "d1" ["d2"] () () request made rfl).1 legible⟩

/-- The backend refuses with a number for its message. -/
theorem delete_accepts_refusal :
    let r := refusal "42"
    ∃ members, r.Carries members ∧ Envelope.Refuses members ∧
      (deleteDashboard "d1").read r = .ok () := by
  intro r
  let message : Node := .number ⟨.ok (.int 42), none⟩
  have object : (Json.Document.ofBytes
      (Text.toUtf8 "\x7b\"success\":false,\"message\":42\x7d")).IsObject
        (refusalMembers message) := ⟨by with_unfolding_all rfl, rfl⟩
  have carries : r.Carries (refusalMembers message) := ⟨_, rfl, object⟩
  refine ⟨_, carries, refuses_refusalMembers message, ?_⟩
  apply (r.verdict_eq carries (refuses_refusalMembers message)).2
  simp [legible_refusalMembers_iff, Envelope.IsText, message]

end Rest

end ControlPanel
