import Mathlib.Data.List.Nodup
import ControlPanel.Proofs.Realtime.Frames

/-!
# Which texts are frames

An object is a frame if and only if the fields of a frame stand in it at most once each, with values
of their kinds, and a topic among them (`Frame.ofText_accepts`). How the object is spelled, the
order of its members and what else it holds do not matter.
-/

namespace ControlPanel

namespace Json

variable {members : List (String × Json)} {name : String} {v : Json}

/-! ## Members by their names -/

def valuesOf (name : String) (members : List (String × Json)) : List Json :=
  (members.filter (·.1 = name)).map (·.2)

theorem mem_valuesOf_iff : v ∈ valuesOf name members ↔ (name, v) ∈ members := by
  simp only [valuesOf, List.mem_map, List.mem_filter, decide_eq_true_eq]
  constructor
  · rintro ⟨⟨_, _⟩, ⟨listed, rfl⟩, rfl⟩
    exact listed
  · intro listed
    exact ⟨(name, v), ⟨listed, rfl⟩, rfl⟩

theorem length_valuesOf : (valuesOf name members).length = (members.map (·.1)).count name := by
  rw [valuesOf, List.length_map, List.count_eq_countP, List.countP_map,
    List.countP_eq_length_filter]
  congr 2

theorem valuesOf_eq_singleton_iff (once : (valuesOf name members).length ≤ 1) :
    valuesOf name members = [v] ↔ (name, v) ∈ members := by
  rw [← mem_valuesOf_iff]
  constructor
  · intro single
    rw [single]
    exact .head _
  · intro listed
    obtain ⟨w, single⟩ := List.length_eq_one_iff.mp
      (Nat.le_antisymm once (List.length_pos_of_mem listed))
    rw [single, List.mem_singleton] at listed
    rw [single, listed]

namespace Record

theorem distinct_iff_once {names : List String} :
    Distinct names skipped (Node.ofMembers members) ↔
      ∀ name ∈ names, (valuesOf name members).length ≤ 1 := by
  have clear : ∀ member ∈ members, skipped (.ofJson member.2) = none := fun member _ => by
    rw [skipped, Node.skip_ofJson]
    rfl
  simp only [distinct_ofMembers_iff clear, List.nodup_iff_count_le_one, length_valuesOf]
  constructor
  · intro once name known
    have counted := once name
    rwa [List.count_filter (by simpa using known)] at counted
  · intro once name
    by_cases known : name ∈ names
    · rw [List.count_filter (by simpa using known)]
      exact once name known
    · -- a name that is no field may occur as often as it likes
      have absent : name ∉ (members.map (·.1)).filter (· ∈ names) := by simp [known]
      rw [List.count_eq_zero_of_not_mem absent]
      exact Nat.zero_le 1

variable {α : Type} {names : List String} {d : Decoder α} {a : α}

theorem field_ofMembers_iff (distinct : Distinct names skipped (Node.ofMembers members))
    (known : name ∈ names) :
    (field name d).read .text (memberSlot (Node.ofMembers members)) = .ok a ↔
      ∃ v, valuesOf name members = [v] ∧ d .text (.ofJson v) = .ok a := by
  have once := distinct_iff_once.mp distinct name known
  simp only [field_eq_ok_iff distinct known, named_ofMembers_iff, valuesOf_eq_singleton_iff once]
  constructor
  · rintro ⟨_, ⟨v, listed, rfl⟩, read⟩
    exact ⟨v, listed, read⟩
  · rintro ⟨v, listed, read⟩
    exact ⟨_, ⟨v, listed, rfl⟩, read⟩

theorem defaulted_ofMembers_iff {default : α}
    (distinct : Distinct names skipped (Node.ofMembers members)) (known : name ∈ names) :
    (defaulted name default d).read .text (memberSlot (Node.ofMembers members)) = .ok a ↔
      (valuesOf name members = [] ∧ a = default) ∨
        ∃ v, valuesOf name members = [v] ∧ d .text (.ofJson v) = .ok a := by
  have once := distinct_iff_once.mp distinct name known
  cases values : valuesOf name members with
  | nil =>
    have absent : ∀ node, ¬ Named (Node.ofMembers members) name node := by
      intro node here
      obtain ⟨v, listed, -⟩ := named_ofMembers_iff.mp here
      have := mem_valuesOf_iff.mpr listed
      simp [values] at this
    simp [defaulted_of_absent absent, eq_comm]
  | cons v rest =>
    have single : valuesOf name members = [v] := by
      rw [values] at once ⊢
      rw [List.eq_nil_of_length_eq_zero (Nat.le_zero.mp (Nat.le_of_succ_le_succ once))]
    have here : Named (Node.ofMembers members) name (.ofJson v) :=
      named_ofMembers_iff.mpr ⟨v, (valuesOf_eq_singleton_iff once).mp single, rfl⟩
    rw [defaulted_eq_ok_iff distinct known here, ← values, single]
    simp

end Record

/-! ## Texts of no container -/

def Token.Flat : Token → Prop
  | .openList | .openMap => False
  | _ => True

def Node.Flat : Node → Prop
  | .array .. | .object .. => False
  | _ => True

def Reading.Flat : Reading → Prop
  | .separator node [] => node.Flat
  | .done document => document.root.Flat
  | _ => False

theorem Reading.flat_scalar {α : Type} (s : Scalar α) {node : Node} (flat : node.Flat) :
    (scalar s node []).Flat := by
  unfold scalar
  split <;> exact flat

theorem Reading.flat_start {token : Token} (flat : token.Flat) : (start [] token).Flat := by
  cases token with
  | openList | openMap => exact flat.elim
  | number s => exact flat_scalar s trivial
  | string s => exact flat_scalar s trivial
  | _ => trivial

theorem Reading.Flat.next {r : Reading} (flat : r.Flat) (token : Token) : (r.next token).Flat := by
  match r with
  | .separator node [] => exact flat
  | .done document => exact flat

theorem Reading.Flat.finish {r : Reading} (flat : r.Flat) : r.finish.root.Flat := by
  match r with
  | .separator node [] => exact flat
  | .done document => exact flat

theorem scanToken_flat (isStray : Char → Bool) {c : Char} (list : c ≠ '[') (map : c ≠ '{')
    (rest : List Char) : (scanToken isStray c rest).1.Flat := by
  unfold scanToken
  dsimp only
  split
  case h_1 => exact absurd rfl list
  case h_3 => exact absurd rfl map
  case h_7 | h_8 | h_9 | h_12 => split <;> trivial
  all_goals trivial

theorem tokens_of_solid (isStray : Char → Bool) {c : Char} (solid : isBlank c = false)
    (rest : List Char) : ∃ later, tokens isStray (c :: rest) =
      (scanToken isStray c rest).1 :: later := by
  rw [tokens, solid]
  simp only [Bool.false_eq_true, if_false]
  split <;> simp_all

theorem Document.flat_ofText {text : String}
    (first : ∀ c ∈ (text.toList.dropWhile isBlank).head?, c ≠ '[' ∧ c ≠ '{') :
    (ofText text).root.Flat := by
  have trimmed : tokens (fun _ => false) text.toList =
      tokens (fun _ => false) (text.toList.dropWhile isBlank) := by
    conv_lhs => rw [← List.takeWhile_append_dropWhile (p := isBlank) (l := text.toList)]
    exact tokens_blanks (List.all_eq_true.mp List.all_takeWhile) _
  have solid := List.head?_dropWhile_not isBlank text.toList
  rw [ofText, ofChars, ofTokens, trimmed]
  cases left : text.toList.dropWhile isBlank with
  | nil =>
    rw [tokens]
    trivial
  | cons c rest =>
    rw [left] at first solid
    obtain ⟨later, cut⟩ := tokens_of_solid (fun _ => false) solid rest
    obtain ⟨list, map⟩ := first c rfl
    -- the first token completes the value, and what comes after it cannot change that
    have flat := Reading.flat_start (scanToken_flat (fun _ => false) list map rest)
    rw [cut, List.foldl_cons]
    exact Reading.Flat.finish (List.foldlRecOn later Reading.next flat
      fun _ flat token _ => flat.next token)

theorem Record.decoder_flat {α : Type} {r : Record α} {expected : String} {source : Source}
    {node : Node} (flat : node.Flat) (a : α) : r.decoder expected source node ≠ .ok a := by
  cases node with
  | array | object => exact flat.elim
  | _ =>
    unfold decoder
    exact Decoder.mismatch_ne_ok

end Json

open Json

namespace Frame

variable {now : Int} {f : Frame} {members : List (String × Json)} {text : String}

/-- The fields of a frame among the members of an object: a topic, data and a time if they are
there, none of them twice. -/
structure Readable (members : List (String × Json)) : Prop where
  topic : ∃ name, valuesOf "type" members = [.string name]
  data : (valuesOf "data" members).length ≤ 1
  timestamp : valuesOf "timestamp" members = [] ∨
    ∃ i, valuesOf "timestamp" members = [.int i] ∧ IsInt64 i

/-- The frame that the members of an object make at some time. The keys of its data are in order,
and of those that are given twice the last one counts. -/
structure IsReadFrom (now : Int) (members : List (String × Json)) (f : Frame) : Prop where
  topic : ∃ name, valuesOf "type" members = [.string name] ∧ f.topic = .ofName name
  data : (valuesOf "data" members = [] ∧ f.data = .null) ∨
    ∃ v, valuesOf "data" members = [v] ∧ f.data = v.sorted
  timestamp : (valuesOf "timestamp" members = [] ∧ f.timestamp = now) ∨
    (valuesOf "timestamp" members = [.int f.timestamp] ∧ IsInt64 f.timestamp)

theorem topic_eq_ok_iff {v : Json} {topic : Topic} : Topic.decoder .text (.ofJson v) = .ok topic ↔
    ∃ name, v = .string name ∧ topic = .ofName name := by
  constructor
  · intro read
    cases v with
    | string name =>
      exact ⟨name, rfl, (Except.ok.inj read).symm.trans (Topic.adopt_eq_ofName name)⟩
    | _ => cases read
  · rintro ⟨name, rfl, rfl⟩
    exact congrArg Except.ok (Topic.adopt_eq_ofName name)

theorem integer64_eq_ok_iff {v : Json} {i : Int} :
    Decoder.integer64 .text (.ofJson v) = .ok i ↔ v = .int i ∧ IsInt64 i := by
  constructor
  · intro read
    have bounds := Decoder.integer_bounds read
    cases v with
    | number n =>
      cases n with
      | int j =>
        change (if _ ∧ _ then Except.ok j else .error _) = _ at read
        split at read
        · obtain rfl := Except.ok.inj read
          exact ⟨rfl, bounds⟩
        · cases read
      | float x => cases read
    | _ => cases read
  · rintro ⟨rfl, bounds⟩
    exact if_pos bounds

theorem read_eq_ok_iff
    (distinct : Record.Distinct (record now).names Record.skipped (Node.ofMembers members)) :
    (record now).read .text (Record.memberSlot (Node.ofMembers members)) = .ok f ↔
      f.IsReadFrom now members := by
  have known : ∀ name ∈ ["type", "data", "timestamp"], name ∈ (record now).names := fun _ => id
  rw [record_read_eq_ok_iff, Record.field_ofMembers_iff distinct (known _ (by decide)),
    Record.defaulted_ofMembers_iff distinct (known _ (by decide)),
    Record.defaulted_ofMembers_iff distinct (known _ (by decide))]
  simp only [topic_eq_ok_iff, integer64_eq_ok_iff, Decoder.json, Decoder.readJson_ofJson,
    Except.ok.injEq]
  constructor
  · rintro ⟨⟨_, values, name, rfl, topic⟩, data, timestamp⟩
    refine ⟨⟨name, values, topic⟩, ?_, ?_⟩
    · rcases data with none | ⟨v, values, same⟩
      · exact .inl none
      · exact .inr ⟨v, values, same.symm⟩
    · rcases timestamp with none | ⟨_, values, rfl, bounds⟩
      · exact .inl none
      · exact .inr ⟨values, bounds⟩
  · rintro ⟨⟨name, values, topic⟩, data, timestamp⟩
    refine ⟨⟨_, values, name, rfl, topic⟩, ?_, ?_⟩
    · rcases data with none | ⟨v, values, same⟩
      · exact .inl none
      · exact .inr ⟨v, values, same.symm⟩
    · rcases timestamp with none | ⟨values, bounds⟩
      · exact .inl none
      · exact .inr ⟨_, values, rfl, bounds⟩

theorem Readable.once (readable : Readable members) :
    ∀ name ∈ ["type", "data", "timestamp"], (valuesOf name members).length ≤ 1 := by
  obtain ⟨⟨name, topic⟩, data, timestamp⟩ := readable
  simp only [List.forall_mem_cons]
  refine ⟨by simp [topic], data, ?_, List.forall_mem_nil _⟩
  rcases timestamp with none | ⟨i, one, -⟩
  · simp [none]
  · simp [one]

theorem readable_iff (now : Int) : Readable members ↔ ∃ f, IsReadFrom now members f := by
  constructor
  · rintro ⟨⟨name, topic⟩, once, time⟩
    obtain ⟨data, given⟩ : ∃ data, (valuesOf "data" members = [] ∧ data = .null) ∨
        ∃ v, valuesOf "data" members = [v] ∧ data = v.sorted := by
      rcases Nat.le_one_iff_eq_zero_or_eq_one.mp once with none | one
      · exact ⟨.null, .inl ⟨List.eq_nil_of_length_eq_zero none, rfl⟩⟩
      · obtain ⟨v, values⟩ := List.length_eq_one_iff.mp one
        exact ⟨v.sorted, .inr ⟨v, values, rfl⟩⟩
    obtain ⟨timestamp, stamped⟩ : ∃ i, (valuesOf "timestamp" members = [] ∧ i = now) ∨
        (valuesOf "timestamp" members = [.int i] ∧ IsInt64 i) := by
      rcases time with none | ⟨i, values, bounds⟩
      · exact ⟨now, .inl ⟨none, rfl⟩⟩
      · exact ⟨i, .inr ⟨values, bounds⟩⟩
    exact ⟨⟨.ofName name, data, timestamp⟩, ⟨name, topic, rfl⟩, given, stamped⟩
  · rintro ⟨f, ⟨name, topic, -⟩, data, timestamp⟩
    refine ⟨⟨name, topic⟩, ?_, ?_⟩
    · rcases data with ⟨none, -⟩ | ⟨v, one, -⟩
      · simp [none]
      · simp [one]
    · exact timestamp.imp And.left fun ⟨values, bounds⟩ => ⟨_, values, bounds⟩

theorem ofText_eq_ok_iff (spells : Spells text (.object members))
    (shallow : (Json.object members).depth ≤ 127) :
    ofText now text = .ok f ↔ f.IsReadFrom now members := by
  rw [ofText, Decoder.ofText, Document.ofText_spelled spells (Nat.lt_succ_of_le shallow),
    decoder, Node.ofJson, Record.ofDocument_eq_ok_iff]
  constructor
  · rintro ⟨distinct, read⟩
    exact (read_eq_ok_iff distinct).mp read
  · intro readFrom
    have distinct := Record.distinct_iff_once.mpr ((readable_iff now).mpr ⟨f, readFrom⟩).once
    exact ⟨distinct, (read_eq_ok_iff distinct).mpr readFrom⟩

theorem ofText_of_flat
    (first : ∀ c ∈ (text.toList.dropWhile Json.isBlank).head?, c ≠ '[' ∧ c ≠ '{') :
    ∃ fault, ofText now text = .error fault := by
  cases parsed : ofText now text with
  | error fault => exact ⟨fault, rfl⟩
  | ok f =>
    have flat := Document.flat_ofText first
    exact absurd (Decoder.read_of_ofText parsed) (Record.decoder_flat flat f)

/-- Whether an object is a frame, and which one, is settled by the values of the three fields. A
text that opens no bracket at first, as that of any value but an object or an array, is no frame. -/
theorem ofText_accepts (now : Int) :
    (∀ members text, Spells text (.object members) → (Json.object members).depth ≤ 127 →
      ((∃ f, ofText now text = .ok f) ↔ Readable members) ∧
      ∀ f, ofText now text = .ok f → f.IsReadFrom now members) ∧
    ∀ text : String, (∀ c ∈ (text.toList.dropWhile Json.isBlank).head?, c ≠ '[' ∧ c ≠ '{') →
      ∃ fault, ofText now text = .error fault := by
  refine ⟨fun members text spells shallow => ⟨?_, fun f parsed => ?_⟩, fun _ => ofText_of_flat⟩
  · simp only [ofText_eq_ok_iff spells shallow, readable_iff now]
  · exact (ofText_eq_ok_iff spells shallow).mp parsed

def chatText : String := " \x7b\"seq\":4 ,\"t\\u0079pe\": \"chat\",\n\"timestamp\":7\x7d"

def chatMembers : List (String × Json) :=
  [("seq", .int 4), ("type", .string "chat"), ("timestamp", .int 7)]

theorem spells_chatText : Spells chatText (.object chatMembers) := by
  have escaped : Quotes "type" ['"', 't', '\\', 'u', '0', '0', '7', '9', 'p', 'e', '"'] := by
    refine ⟨['t', '\\', 'u', '0', '0', '7', '9', 'p', 'e'], ?_, rfl⟩
    have rest : Escapes ['p', 'e'] ['p', 'e'] :=
      .plain (by decide) (by decide) (by decide) (.plain (by decide) (by decide) (by decide) .nil)
    exact .plain (by decide) (by decide) (by decide)
      (@Escapes.unit '0' '0' '7' '9' 121 _ _ rfl (by unfold IsSurrogate; decide) rest)
  have space : Blanks [' '] := List.forall_mem_singleton.mpr rfl
  have line : Blanks ['\n'] := List.forall_mem_singleton.mpr rfl
  have seq : Joined ':' (Padded (Quotes "seq")) (Padded (Spelled (.int 4))) "\"seq\":4 ".toList :=
    ⟨_, _, padded_of (quotes_quote "seq"), ⟨[], ['4'], [' '], nofun, ⟨by decide, rfl⟩, space, rfl⟩,
      rfl⟩
  have type : Joined ':' (Padded (Quotes "type")) (Padded (Spelled (.string "chat")))
      "\"t\\u0079pe\": \"chat\"".toList :=
    ⟨_, _, padded_of escaped, ⟨[' '], _, [], space, quotes_quote "chat", nofun, rfl⟩, rfl⟩
  have time : SpelledMembers [("timestamp", .int 7)] "\n\"timestamp\":7".toList :=
    ⟨_, _, ⟨['\n'], _, [], line, quotes_quote "timestamp", nofun, rfl⟩,
      padded_of ⟨by decide, rfl⟩, rfl⟩
  exact ⟨[' '], _, [], space, ⟨_, ⟨_, _, seq, ⟨_, _, type, time, rfl⟩, rfl⟩, rfl⟩, nofun, rfl⟩

theorem ofText_accepts_chatText : Spells chatText (.object chatMembers) ∧
    (∃ f, ofText 5 chatText = .ok f ∧ f.topic = .other "chat" ∧ f.data = .null ∧ f.timestamp = 7) ∧
    ∃ fault, ofText 5 " 7" = .error fault := by
  have digit : ∀ c ∈ (" 7".toList.dropWhile Json.isBlank).head?, c ≠ '[' ∧ c ≠ '\x7b' := by
    intro c first
    change some '7' = some c at first
    cases first
    exact ⟨by decide, by decide⟩
  obtain ⟨accepts, makes⟩ := (ofText_accepts 5).1 _ _ spells_chatText (by decide)
  obtain ⟨f, parsed⟩ := accepts.mpr ⟨⟨"chat", rfl⟩, by decide, .inr ⟨7, rfl, by decide⟩⟩
  refine ⟨spells_chatText, ⟨f, parsed, ?_⟩, (ofText_accepts 5).2 _ digit⟩
  obtain ⟨⟨name, values, topic⟩, data, time⟩ := makes f parsed
  change [Json.string "chat"] = _ at values
  cases values
  have none : f.data = .null := data.elim And.right fun ⟨v, values, _⟩ => by cases values
  have seven : 7 = f.timestamp := time.elim (fun stamped => by cases stamped.1) fun stamped =>
    Number.int.inj (Json.number.inj (List.cons.inj stamped.1).1)
  exact ⟨topic, none, seven.symm⟩

end Frame

end ControlPanel
