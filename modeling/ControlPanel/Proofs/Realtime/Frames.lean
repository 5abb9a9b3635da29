import ControlPanel.Proofs.Json.Fields
import ControlPanel.Proofs.Json.Parsed
import ControlPanel.Proofs.Realtime.Arrivals

/-!
# Frames as texts

A frame is read back from its text (`Frame.ofText_text`), and a frame that has come in is one that
can be sent on: its topic goes by its name, its time is one of 64 bits, and its data leave room for
the frame around them.
-/

namespace ControlPanel

open Json

def IsInt64 (i : Int) : Prop := -(Int.pow 2 63) ≤ i ∧ i ≤ Int.pow 2 63 - 1

instance (i : Int) : Decidable (IsInt64 i) := inferInstanceAs (Decidable (_ ∧ _))

theorem Json.Decoder.integer_bounds {expected : String} {low high : Int} {source : Source}
    {node : Node} {i : Int} (read : integer expected low high source node = .ok i) :
    low ≤ i ∧ i ≤ high := by
  unfold integer at read
  split at read
  · obtain ⟨number, -, read⟩ := bind_eq_ok read
    split at read
    · split at read
      · next bounds =>
        cases read
        exact bounds
      · cases read
    · cases read
  · exact absurd read mismatch_ne_ok

theorem Json.Record.defaulted_read_cases {α : Type} {name : String} {default : α} {d : Decoder α}
    {source : Source} {slots : String → Slot} {a : α}
    (read : (defaulted name default d).read source slots = .ok a) :
    (∃ place node, slots name = .given place node ∧ d source node = .ok a) ∨ a = default := by
  unfold defaulted at read
  dsimp only at read
  split at read
  · next place node given => exact .inl ⟨place, node, given, mapError_eq_ok_iff.mp read⟩
  · next required optional fault _ =>
    cases fault with
    | none => exact .inr (Except.ok.inj read).symm
    | some => cases read

namespace Frame

/-- A frame as it is sent: the topic is a known one if its name is known, and the data have less
than the usual depth, since the frame stands around them. -/
structure IsSound (f : Frame) : Prop where
  topic : ∃ name, f.topic = .ofName name
  data : f.data.Plain
  shallow : f.data.depth ≤ 126
  timestamp : IsInt64 f.timestamp

variable {now : Int} {f : Frame}

/-! ## Writing and reading -/

def members (f : Frame) : List (String × Json) :=
  [("type", f.topic.encode), ("data", f.data), ("timestamp", .int f.timestamp)]

theorem writes_text (canonical : f.data.Canonical) : Writes f.text (.ofMembers f.members) := by
  have ordered := sorted_of_canonical f.data canonical
  refine ⟨.object f.members, ⟨by simp [members], ?_⟩, ?_, ?_⟩
  · exact ⟨trivial, noRepeats_of_canonical f.data canonical, trivial, trivial⟩
  · simp [members, sorted, sortedMembers, ordered, Topic.encode, int, ofMembers]
  · apply String.toList_injective
    simp [text, render, chars, membersChars, members, quote, escapeChar]

theorem reads (topic : f.topic = .ofName f.topic.name) (timestamp : IsInt64 f.timestamp) :
    (decoder now).Reads (.ofMembers f.members) f := by
  have named : Topic.decoder.Reads f.topic.encode f.topic := by
    have kept : Topic.adopt f.topic.takeName = f.topic := by
      rw [Topic.adopt_eq_ofName, Topic.takeName_eq_name, ← topic]
    have read := (Decoder.Reads.string f.topic.takeName).map Topic.adopt
    rwa [kept] at read
  refine (Record.Fills.map Frame.mk (.field ?_ named) |>.seq (.given ?_ (.json f.data))
    |>.seq (.given ?_ (.integer "i64" timestamp.1 timestamp.2))).reads _
  all_goals simp [members, under?_ofMembers]

theorem IsSound.ofText_text (sound : f.IsSound) (now : Int) : ofText now f.text = .ok f := by
  obtain ⟨⟨name, topic⟩, ⟨canonical, whole⟩, shallow, timestamp⟩ := sound
  have named : f.topic = .ofName f.topic.name := by rw [topic, Topic.name_ofName]
  have isWord : IsWord f.timestamp := by
    have least : Int.pow 2 63 = 9223372036854775808 := by decide
    have greatest : Int.pow 2 64 = 18446744073709551616 := by decide
    simp only [IsInt64, IsWord, Number.minInt, Number.maxInt, least, greatest] at *
    omega
  refine (reads named timestamp).ofText (writes_text canonical) ?_ ?_
  · refine (plain_ofMembers ?_).whole
    simp only [members, List.forall_mem_cons]
    exact ⟨plain_string _, ⟨canonical, whole⟩, ⟨trivial, isWord⟩, List.forall_mem_nil _⟩
  · have inner : membersDepth (Keyed.ofList f.members) ≤ 126 := by
      refine membersDepth_le_iff.mpr fun member listed => ?_
      have flat : ∀ member ∈ f.members, member.2.depth ≤ 126 := by
        simp only [members, List.forall_mem_cons]
        exact ⟨Nat.zero_le _, shallow, Nat.zero_le _, List.forall_mem_nil _⟩
      exact flat member (Keyed.mem_of_mem_ofList listed)
    exact Nat.lt_succ_of_le (Nat.succ_le_succ inner)

/-! ## Frames that come in -/

theorem isSound_of_ofText {text : String} (clock : IsInt64 now) (parsed : ofText now text = .ok f)
    (whole : f.data.Whole) : f.IsSound := by
  obtain ⟨slots, -, data, timestamp, inside⟩ := reads_of_ofText parsed
  have bounds : f.data.depth ≤ 126 ∧ f.data.Canonical := by
    rcases Record.defaulted_read_cases data with ⟨place, node, given, read⟩ | absent
    · obtain ⟨shallow, canonical⟩ := Decoder.readJson_bounds node read
      have within := (inside _ _ _ given).height_lt
      have document := Document.height_ofText text
      simp only [depthLimit] at document
      exact ⟨by omega, canonical⟩
    · rw [absent]
      exact ⟨Nat.zero_le _, trivial⟩
  have stamped : IsInt64 f.timestamp := by
    rcases Record.defaulted_read_cases timestamp with ⟨place, node, given, read⟩ | absent
    · exact Decoder.integer_bounds read
    · rwa [absent]
  exact ⟨⟨_, topic_of_ofText parsed⟩, ⟨bounds.2, whole⟩, bounds.1, stamped⟩

/-- A frame that can be sent is read back from its text, at any time. So is one that has come in,
however its text was written. -/
theorem text_roundTrip (now : Int) (f : Frame) :
    (f.IsSound → ofText now f.text = .ok f) ∧
      ∀ received text, IsInt64 received → ofText received text = .ok f → f.data.Whole →
        ofText now f.text = .ok f := by
  refine ⟨fun sound => sound.ofText_text now, fun received text clock parsed whole => ?_⟩
  exact (isSound_of_ofText clock parsed whole).ofText_text now

def aliveDocument : Json :=
  .object [("seq", .nat 4), ("data", .object [("load", .array [.nat 7, .null])]),
    ("type", .string "heartbeat")]

def aliveFrame : Frame := ⟨.heartbeat, .object [("load", .array [.nat 7, .null])], 5⟩

theorem text_roundTrip_alive : aliveFrame.IsSound ∧ ofText 5 aliveDocument.render = .ok aliveFrame ∧
    ofText 0 aliveFrame.text = .ok aliveFrame ∧ ofText 9 aliveFrame.text = .ok aliveFrame := by
  have load : Plain (.array [.nat 7, .null]) :=
    plain_array (by simp [plain_nat (show 7 < UInt64.size by decide)])
  have sound : aliveFrame.IsSound :=
    ⟨⟨"heartbeat", rfl⟩, plain_object (by simp [Keyed.Sorted]) (by simp [load]), by decide,
      by decide⟩
  have whole : aliveDocument.Whole :=
    ⟨(plain_nat (by decide)).whole, sound.data.whole, trivial, trivial⟩
  have parsed : ofText 5 aliveDocument.render = .ok aliveFrame := by
    rw [ofText, Decoder.ofText, Document.ofText_render whole (by decide)]
    rfl
  exact ⟨sound, parsed, (text_roundTrip 0 aliveFrame).1 sound,
    (text_roundTrip 9 aliveFrame).2 5 _ (by decide) parsed sound.data.whole⟩

end Frame

end ControlPanel
