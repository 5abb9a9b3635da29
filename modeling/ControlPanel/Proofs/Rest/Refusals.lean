import ControlPanel.Proofs.Rest.Deletions

/-!
# Refusals of requests that ask for something

The verdict of an envelope is looked at only when the whole envelope has been read, its payload
included. So the message of a refusal arrives if and only if the payload is missing, `null` or of
the type that was asked for (`Rest.fetch_refused_iff`); otherwise the request fails as one whose
answer cannot be read.
-/

namespace ControlPanel

open Json (Member Node Decoder)
open Json.Record (Named)

namespace Envelope

variable {α : Type} {payload : Decoder α} {members : List Member} {message : String}

def Says (members : List Member) (message : String) : Prop :=
  (∃ scalar, Named members "message" (.string scalar) ∧ scalar.read = .ok message) ∨
    (∀ node, Named members "message" node → node = .null) ∧ message = "request failed"

def Pays (payload : Decoder α) (members : List Member) : Prop :=
  ∀ node, Named members "data" node → node = .null ∨ ∃ a, payload .text node = .ok a

theorem readable_iff {document : Json.Document} (object : document.IsObject members)
    (legible : Legible members) :
    (∃ e, (decoder payload).ofDocument document = .ok e) ↔ Pays payload members := by
  have distinct := legible.distinct object.clean
  have pays : (∃ a, (Json.Record.defaultedOption "data" payload).read .text
      (Json.Record.memberSlot members) = .ok a) ↔ Pays payload members :=
    Json.Record.exists_defaultedOption_iff distinct (by decide)
  obtain ⟨known, read⟩ := (legible_iff object).mp legible
  obtain ⟨-, success, status, -, message, timestamp⟩ := by
    rwa [ofDocument_eq_ok_iff object, record_read_eq_ok_iff] at read
  rw [← pays]
  constructor
  · rintro ⟨e, read⟩
    rw [ofDocument_eq_ok_iff object, record_read_eq_ok_iff] at read
    exact ⟨e.data, read.2.2.2.1⟩
  · rintro ⟨data, found⟩
    refine ⟨⟨known.success, known.status, data, known.message, known.timestamp⟩, ?_⟩
    rw [ofDocument_eq_ok_iff object, record_read_eq_ok_iff]
    exact ⟨distinct, success, status, found, message, timestamp⟩

theorem message_of_says {document : Json.Document} {e : Envelope α}
    (object : document.IsObject members) (told : Says members message)
    (read : (decoder payload).ofDocument document = .ok e) :
    e.message.getD "request failed" = message := by
  obtain ⟨distinct, fields⟩ := (ofDocument_eq_ok_iff object).mp read
  obtain ⟨-, -, -, found, -⟩ := record_read_eq_ok_iff.mp fields
  rcases told with ⟨scalar, here, text⟩ | ⟨missing, rfl⟩
  · have read : Decoder.string .text (.string scalar) = .ok message :=
      (Decoder.string_eq_ok_iff .text).mpr ⟨scalar, rfl, text⟩
    have same := (Json.Record.defaulted_eq_ok_iff distinct (by decide) here).mp found
    rw [Decoder.nullable_of_eq_ok (by simp) read] at same
    rw [← Except.ok.inj same]
    rfl
  · have none : e.message = none := by
      by_cases here : ∃ node, Named members "message" node
      · obtain ⟨node, here⟩ := here
        cases missing node here
        have same := (Json.Record.defaulted_eq_ok_iff distinct (by decide) here).mp found
        exact (Except.ok.inj same).symm
      · rw [Json.Record.defaultedOption,
          Json.Record.defaulted_of_absent (not_exists.mp here)] at found
        exact (Except.ok.inj found).symm
    rw [none]
    rfl

end Envelope

/-! ## Answers -/

theorem Response.payload_eq {α : Type} {payload : Decoder α} {r : Response}
    {members : List Member} {message : String} (carries : r.Carries members)
    (refuses : Envelope.Refuses members) (legible : Envelope.Legible members)
    (told : Envelope.Says members message) :
    (Envelope.Pays payload members → r.payload payload = .error (.rejected message)) ∧
      (¬ Envelope.Pays payload members →
        ∃ fault, r.payload payload = .error (.request .decoding (some fault))) := by
  obtain ⟨bytes, whole, object⟩ := carries
  rw [Response.payload, whole, ← Envelope.readable_iff object legible]
  simp only [bind, Except.bind]
  constructor
  · rintro ⟨e, read⟩
    have rejects := Envelope.isRejection_of_refuses object refuses read
    have same := Envelope.message_of_says object told read
    rw [read]
    simp [Envelope.payload, Envelope.accept, rejects, same, bind, Except.bind]
  · intro unread
    cases read : (Envelope.decoder payload).ofDocument (.ofBytes bytes) with
    | ok e => exact absurd ⟨e, read⟩ unread
    | error fault => exact ⟨fault, rfl⟩

namespace Rest

inductive Fetches {α : Type} (payload : Decoder α) : Exchange α → Prop
  | get (path : String) : Fetches payload (.get path payload)
  | post (path : String) (body : Json) : Fetches payload (.post path body payload)
  | postEmpty (path : String) : Fetches payload (.postEmpty path payload)
  | put (path : String) (body : Json) : Fetches payload (.put path body payload)

inductive IsPayload : {α : Type} → Decoder α → Prop
  | dashboard : IsPayload Dashboard.decoder
  | dashboards : IsPayload (.list Dashboard.decoder)
  | widget : IsPayload Widget.decoder
  | members : IsPayload .jsonMap
  | plugin : IsPayload Plugin.decoder
  | plugins : IsPayload (.list Plugin.decoder)
  | status : IsPayload SystemStatus.decoder
  | health : IsPayload HealthReport.decoder
  | metrics : IsPayload SystemMetrics.decoder

theorem IsPayload.bool_ne_ok {α : Type} {payload : Decoder α} (asked : IsPayload payload)
    (source : Json.Source) (b : Bool) (a : α) : payload source (.bool b) ≠ .ok a := by
  obtain ⟨expected, refused⟩ : ∃ expected, payload source (.bool b) =
      Decoder.mismatch (.bool b) expected := by
    cases asked <;> exact ⟨_, rfl⟩
  rw [refused]
  exact Decoder.mismatch_ne_ok

/-- The message of a refusal arrives if and only if the payload can be read, and for each payload
that the calls ask for there are some that cannot. -/
theorem fetch_refused_iff {r : Response} {members : List Member} {message : String}
    (carries : r.Carries members) (refuses : Envelope.Refuses members)
    (legible : Envelope.Legible members) (told : Envelope.Says members message) :
    (∀ {α σ : Type} {payload : Decoder α} {e : Exchange α} (c : ApiClient)
      (transport : Transport σ) (s s' : σ) (request : HttpRequest), Fetches payload e →
      c.request? e = some request → transport request s = (s', some r) →
      (Envelope.Pays payload members →
        c.send transport e s = (s', .error (.rejected message))) ∧
        (¬ Envelope.Pays payload members →
          ∃ fault, c.send transport e s = (s', .error (.request .decoding (some fault))))) ∧
      ∀ {α : Type} {payload : Decoder α} (b : Bool), IsPayload payload →
        Named members "data" (.bool b) → ¬ Envelope.Pays payload members := by
  constructor
  · intro α σ payload e c transport s s' request fetches made answered
    have sent : c.send transport e s = (s', r.payload payload) := by
      have read : e.read = Response.payload payload := by cases fetches <;> rfl
      rw [ApiClient.send, made]
      simp only [answered, read]
    rw [sent]
    constructor
    · intro pays
      rw [(r.payload_eq carries refuses legible told).1 pays]
    · intro unpaid
      obtain ⟨fault, failed⟩ := (r.payload_eq carries refuses legible told).2 unpaid
      exact ⟨fault, by rw [failed]⟩
  · intro α payload b asked here pays
    rcases pays _ here with null | ⟨a, read⟩
    · cases null
    · exact asked.bool_ne_ok .text b a read

def locked (data : String) : Response :=
  ⟨200, "", .whole (Text.toUtf8
    ("\x7b\"success\":false,\"message\":\"locked\",\"data\":" ++ data ++ "\x7d"))⟩

def lockedMembers (data : Node) : List Member :=
  [(⟨.ok "success", none⟩, .bool false), (⟨.ok "message", none⟩, .string ⟨.ok "locked", none⟩),
    (⟨.ok "data", none⟩, data)]

theorem named_lockedMembers_iff {data node : Node} {name : String} :
    Named (lockedMembers data) name node ↔ name = "success" ∧ node = .bool false ∨
      name = "message" ∧ node = .string ⟨.ok "locked", none⟩ ∨ name = "data" ∧ node = data := by
  have none : ¬ Named [] name node := by simp [Named]
  rw [lockedMembers, Json.Record.named_cons_iff rfl, Json.Record.named_cons_iff rfl,
    Json.Record.named_cons_iff rfl]
  simp [none]

theorem refuses_lockedMembers (data : Node) : Envelope.Refuses (lockedMembers data) :=
  .inl (named_lockedMembers_iff.mpr (.inl ⟨rfl, rfl⟩))

theorem says_lockedMembers (data : Node) : Envelope.Says (lockedMembers data) "locked" :=
  .inl ⟨_, named_lockedMembers_iff.mpr (.inr (.inl ⟨rfl, rfl⟩)), rfl⟩

theorem legible_lockedMembers {data : Node} {value : Json}
    (read : Decoder.readJson data = .ok value) : Envelope.Legible (lockedMembers data) := by
  have once : Json.Record.fieldNames Envelope.fields (lockedMembers data) =
      ["success", "message", "data"] := rfl
  have text : Envelope.IsText (.string ⟨.ok "locked", none⟩) := .inr ⟨"locked", _, rfl, rfl⟩
  refine ⟨by simp [lockedMembers], by simp [once], ?_, ?_, ?_, ?_, ?_⟩
  all_goals simp [named_lockedMembers_iff, text, read]

/-- The list of dashboards is refused with `null` for it, and its first widget with `false`. -/
theorem fetch_refused_locked :
    let c := ApiClient.ofBase "http://127.0.0.1:9"
    (∃ members, (locked "null").Carries members ∧ Envelope.Refuses members ∧
      Envelope.Legible members ∧ Envelope.Says members "locked" ∧
      c.send (fun _ s => (s, some (locked "null"))) listDashboards () =
        ((), .error (.rejected "locked"))) ∧
      ∃ members fault, (locked "false").Carries members ∧ Envelope.Refuses members ∧
        Envelope.Legible members ∧ Envelope.Says members "locked" ∧
        c.send (fun _ s => (s, some (locked "false"))) (widgetData "d1" "w1") () =
          ((), .error (.request .decoding (some fault))) := by
  intro c
  constructor
  · have object : (Json.Document.ofBytes (Text.toUtf8
        "\x7b\"success\":false,\"message\":\"locked\",\"data\":null\x7d")).IsObject
          (lockedMembers .null) := ⟨by with_unfolding_all rfl, rfl⟩
    have carries : (locked "null").Carries (lockedMembers .null) := ⟨_, rfl, object⟩
    have legible : Envelope.Legible (lockedMembers .null) := legible_lockedMembers rfl
    obtain ⟨request, made⟩ := Option.isSome_iff_exists.mp
      (show (c.request? listDashboards).isSome = true by decide +kernel)
    obtain ⟨answers, _⟩ := fetch_refused_iff carries (refuses_lockedMembers _) legible
      (says_lockedMembers _)
    refine ⟨_, carries, refuses_lockedMembers _, legible, says_lockedMembers _, ?_⟩
    refine (answers c _ () () request (.get ..) made rfl).1 ?_
    simp [Envelope.Pays, named_lockedMembers_iff]
  · have object : (Json.Document.ofBytes (Text.toUtf8
        "\x7b\"success\":false,\"message\":\"locked\",\"data\":false\x7d")).IsObject
          (lockedMembers (.bool false)) := ⟨by with_unfolding_all rfl, rfl⟩
    have carries : (locked "false").Carries (lockedMembers (.bool false)) := ⟨_, rfl, object⟩
    have legible : Envelope.Legible (lockedMembers (.bool false)) := legible_lockedMembers rfl
    obtain ⟨request, made⟩ := Option.isSome_iff_exists.mp
      (show (c.request? (widgetData "d1" "w1")).isSome = true by decide +kernel)
    obtain ⟨answers, lost⟩ := fetch_refused_iff carries (refuses_lockedMembers _) legible
      (says_lockedMembers _)
    have unpaid := lost false .members (named_lockedMembers_iff.mpr (.inr (.inr ⟨rfl, rfl⟩)))
    obtain ⟨fault, failed⟩ := (answers c (fun _ s => (s, some (locked "false"))) () () request
      (.get ..) made rfl).2 unpaid
    exact ⟨_, fault, carries, refuses_lockedMembers _, legible, says_lockedMembers _, failed⟩

/-- The backend refuses with an empty object where a dashboard was asked for. -/
theorem fetch_hides_refusal :
    ∃ members, (locked "\x7b\x7d").Carries members ∧ Envelope.Refuses members ∧
      Envelope.Legible members ∧ Envelope.Says members "locked" ∧
      (getDashboard "d1").read (locked "\x7b\x7d") =
        .error (.request .decoding (some (.shape (.missingField "id")))) := by
  have object : (Json.Document.ofBytes (Text.toUtf8
      "\x7b\"success\":false,\"message\":\"locked\",\"data\":\x7b\x7d\x7d")).IsObject
        (lockedMembers (.object false [] .closed)) := ⟨by with_unfolding_all rfl, rfl⟩
  exact ⟨_, ⟨_, rfl, object⟩, refuses_lockedMembers _, legible_lockedMembers rfl,
    says_lockedMembers _, by with_unfolding_all rfl⟩

end Rest

end ControlPanel
