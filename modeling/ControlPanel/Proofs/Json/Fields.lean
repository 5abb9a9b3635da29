import ControlPanel.Proofs.Json.Members
import ControlPanel.Proofs.Json.Records
import ControlPanel.Proofs.Json.Sorted

/-!
# Reading written values

What a decoder gives for a document that was written from a value (`Decoder.Reads`), and what the
fields of a record are in a written object (`Record.Fills`). Both hold for every order of the
members, so they are proved once for each decoder and put together along the structure of a record.
-/

namespace ControlPanel.Json

variable {α β : Type}

/-! ## Values behind an order -/

theorem sorted_eq_null_iff {v : Json} : v.sorted = .null ↔ v = .null := by
  cases v <;> simp [sorted]

theorem sorted_eq_bool_iff {v : Json} {b : Bool} : v.sorted = .bool b ↔ v = .bool b := by
  cases v <;> simp [sorted]

theorem sorted_eq_number_iff {v : Json} {n : Number} : v.sorted = .number n ↔ v = .number n := by
  cases v <;> simp [sorted]

theorem sorted_eq_string_iff {v : Json} {s : String} : v.sorted = .string s ↔ v = .string s := by
  cases v <;> simp [sorted]

theorem exists_of_sorted_eq_array {v : Json} {items : List Json} (same : v.sorted = .array items) :
    ∃ items', v = .array items' ∧ items'.map sorted = items := by
  cases v with
  | array items' =>
    rw [sorted, sortedItems_eq_map] at same
    exact ⟨items', rfl, Json.array.inj same⟩
  | _ => simp [sorted] at same

theorem exists_of_sorted_eq_object {v : Json} {members : List (String × Json)}
    (same : v.sorted = .object members) :
    ∃ members', v = .object members' ∧ Keyed.ofList (sortedMembers members') = members := by
  cases v with
  | object members' => exact ⟨members', rfl, Json.object.inj same⟩
  | _ => simp [sorted] at same

theorem ofMembers_eq_map (members : List (String × Json)) :
    Node.ofMembers members =
      members.map fun member => (⟨.ok member.1, none⟩, .ofJson member.2) := by
  induction members with
  | nil => rfl
  | cons member rest ih => rw [Node.ofMembers, ih, List.map_cons]

/-! ## Members behind an order -/

variable {members : List (String × Json)} {j w : Json} {name : String}

theorem exists_of_under?_eq_some (once : NoRepeats (.object members))
    (same : (object members).sorted = j) (here : j.under? name = some w) :
    ∃ v, (name, v) ∈ members ∧ v.NoRepeats ∧ v.sorted = w := by
  subst same
  have listed := (mem_sorted_object_iff once.1 _).mp (Keyed.mem_of_find? here)
  rw [sortedMembers_eq_map] at listed
  obtain ⟨⟨k, v⟩, written, pair⟩ := List.exists_of_mem_map listed
  obtain ⟨rfl, inOrder⟩ := Prod.mk.inj pair
  exact ⟨v, written, noRepeatsMembers_iff.mp once.2 _ written, inOrder⟩

theorem notMem_of_under?_eq_none (once : NoRepeats (.object members))
    (same : (object members).sorted = j) (missing : j.under? name = none) (v : Json) :
    (name, v) ∉ members := by
  subst same
  intro listed
  refine Keyed.notMem_of_find?_eq_none missing v.sorted ((mem_sorted_object_iff once.1 _).mpr ?_)
  rw [sortedMembers_eq_map]
  exact List.mem_map_of_mem listed

namespace Record

theorem named_ofMembers_iff {node : Node} :
    Named (Node.ofMembers members) name node ↔ ∃ v, (name, v) ∈ members ∧ node = .ofJson v := by
  simp only [Named, ofMembers_eq_map, List.mem_map]
  constructor
  · rintro ⟨key, ⟨⟨k, v⟩, listed, same⟩, read⟩
    obtain ⟨rfl, rfl⟩ := Prod.mk.inj same
    cases read
    exact ⟨v, listed, rfl⟩
  · rintro ⟨v, listed, rfl⟩
    exact ⟨⟨.ok name, none⟩, ⟨(name, v), listed, rfl⟩, rfl⟩

theorem fieldNames_ofMembers (names : List String) (members : List (String × Json)) :
    fieldNames names (Node.ofMembers members) = (members.map (·.1)).filter (· ∈ names) := by
  rw [fieldNames, ofMembers_eq_map, List.filterMap_map, ← List.filterMap_eq_map]
  rfl

theorem distinct_ofMembers_iff {names : List String} {unknown : Node → Option Fault}
    (clear : ∀ member ∈ members, unknown (.ofJson member.2) = none) :
    Distinct names unknown (Node.ofMembers members) ↔
      ((members.map (·.1)).filter (· ∈ names)).Nodup := by
  rw [← fieldNames_ofMembers]
  constructor
  · exact Distinct.once
  · intro once
    refine ⟨fun member listed => ?_, once, fun name node here _ => ?_⟩
    · rw [ofMembers_eq_map] at listed
      obtain ⟨⟨k, v⟩, -, rfl⟩ := List.exists_of_mem_map listed
      exact ⟨k, rfl⟩
    · obtain ⟨v, listed, rfl⟩ := named_ofMembers_iff.mp here
      exact clear (name, v) listed

theorem distinct_ofMembers {names : List String} {unknown : Node → Option Fault}
    (once : (members.map (·.1)).Nodup)
    (clear : ∀ member ∈ members, unknown (.ofJson member.2) = none) :
    Distinct names unknown (Node.ofMembers members) :=
  (distinct_ofMembers_iff clear).mpr (once.sublist List.filter_sublist)

end Record

/-! ## Decoders -/

/-- The decoder reads the value from the document, in whatever order its members stand. -/
def Decoder.Reads (d : Decoder α) (w : Json) (a : α) : Prop :=
  ∀ v : Json, v.NoRepeats → v.sorted = w → d .text (.ofJson v) = .ok a

namespace Decoder.Reads

variable {d : Decoder α} {a : α}

theorem parsed {parse : String → Except ShapeFault α} {s : String} (expected : String)
    (parses : parse s = .ok a) : (Decoder.parsed expected parse).Reads (.string s) a := by
  intro v _ same
  obtain rfl := sorted_eq_string_iff.mp same
  change (parse s).mapError Fault.shape = _
  rw [parses]
  rfl

theorem string (s : String) : Decoder.string.Reads (.string s) s := parsed _ rfl

theorem bool (b : Bool) : Decoder.bool.Reads (.bool b) b := by
  intro v _ same
  obtain rfl := sorted_eq_bool_iff.mp same
  rfl

theorem integer (expected : String) {low high i : Int} (least : low ≤ i) (greatest : i ≤ high) :
    (Decoder.integer expected low high).Reads (.int i) i := by
  intro v _ same
  obtain rfl := sorted_eq_number_iff.mp same
  exact if_pos ⟨least, greatest⟩

theorem map (f : α → β) (reads : d.Reads w a) : (d.map f).Reads w (f a) := by
  intro v once same
  rw [Decoder.map, reads v once same]
  rfl

theorem word (n : UInt32) : Layout.wordDecoder.Reads (.nat n.toNat) n := by
  have bound := n.toNat_lt
  have largest : Int.pow 2 32 - 1 = 4294967295 := by decide
  have read : (Decoder.integer "u32" 0 (Int.pow 2 32 - 1)).Reads (.nat n.toNat) (n.toNat : Int) :=
    integer "u32" (by omega) (by omega)
  have words := (read.map Int.toNat).map UInt32.ofNat
  rwa [Int.toNat_natCast, UInt32.ofNat_toNat] at words

theorem natural64 {n : Nat} (bound : n < UInt64.size) : Decoder.natural64.Reads (.nat n) n := by
  have largest : Int.pow 2 64 - 1 = (UInt64.size : Int) - 1 := by decide
  exact (integer "u64" (i := (n : Int)) (by omega) (by omega)).map Int.toNat

theorem json (v : Json) : Decoder.json.Reads v v := by
  intro written _ same
  rw [Decoder.json, readJson_ofJson, same]

theorem some (reads : d.Reads w a) (present : w ≠ .null) : d.nullable.Reads w (some a) := by
  intro v once same
  refine nullable_of_eq_ok ?_ (reads v once same)
  cases v with
  | null => exact absurd same.symm present
  | _ => simp [Node.ofJson]

theorem none (d : Decoder α) : d.nullable.Reads .null .none := by
  intro v _ same
  obtain rfl := sorted_eq_null_iff.mp same
  rfl

theorem option {write : α → Json} {o : Option α}
    (each : ∀ a, o = .some a → d.Reads (write a) a ∧ write a ≠ .null) :
    d.nullable.Reads (ofOption write o) o := by
  cases o with
  | none => exact none d
  | some a => exact (each a rfl).1.some (each a rfl).2

theorem list {write : α → Json} {as : List α} (each : ∀ a ∈ as, d.Reads (write a) a) :
    d.list.Reads (.array (as.map write)) as := by
  intro v once same
  obtain ⟨written, rfl, inOrder⟩ := exists_of_sorted_eq_array same
  clear same
  have read : items (d .text) (Node.ofItems written) = .ok as := by
    induction as generalizing written with
    | nil =>
      obtain rfl := List.map_eq_nil_iff.mp inOrder
      rfl
    | cons a as ih =>
      obtain ⟨v, rest, rfl, here, later⟩ := List.map_eq_cons_iff.mp inOrder
      rw [NoRepeats, NoRepeatsItems] at once
      rw [Node.ofItems, items, each a (List.mem_cons_self ..) v once.1 here,
        ih (fun b listed => each b (List.mem_cons_of_mem _ listed)) rest later once.2]
      rfl
  simp [Node.ofJson, Decoder.list, read, bind, Except.bind, guardText, ListEnd.readFault]

theorem exists_members {map : Keyed α} (written : List (String × Json))
    (each : ∀ member ∈ written, ∃ a, (member.1, a) ∈ map ∧ d .text (.ofJson member.2) = .ok a) :
    ∃ pairs, Decoder.members (d .text) (Node.ofMembers written) = .ok pairs ∧
      pairs.map (·.1) = written.map (·.1) ∧ ∀ pair ∈ pairs, pair ∈ map := by
  induction written with
  | nil => exact ⟨[], rfl, rfl, fun _ listed => absurd listed List.not_mem_nil⟩
  | cons member rest ih =>
    obtain ⟨k, v⟩ := member
    obtain ⟨a, listed, read⟩ := each (k, v) (List.mem_cons_self ..)
    obtain ⟨pairs, readRest, keys, fromMap⟩ :=
      ih fun member later => each member (List.mem_cons_of_mem _ later)
    refine ⟨(k, a) :: pairs, ?_, congrArg (k :: ·) keys, ?_⟩
    · rw [Node.ofMembers, Decoder.members, read, readRest]
      rfl
    · intro pair member
      rcases List.mem_cons.mp member with rfl | later
      · exact listed
      · exact fromMap pair later

theorem dictionary {write : α → Json} {map : Keyed α}
    (each : ∀ entry ∈ map, d.Reads (write entry.2) entry.2) :
    d.dictionary.Reads (.object (map.map fun entry => (entry.1, write entry.2))) map := by
  intro v once same
  obtain ⟨written, rfl, shown⟩ := exists_of_sorted_eq_object same
  have inOrder : Keyed.Sorted map := by
    have built := Keyed.sorted_ofList (sortedMembers written)
    rw [shown] at built
    exact built.of_map (fun entry : String × α => (entry.1, write entry.2)) fun _ _ less => less
  have listed_iff (entry : String × Json) : entry ∈ sortedMembers written ↔
      entry ∈ map.map fun entry => (entry.1, write entry.2) := by
    rw [← mem_sorted_object_iff once.1, shown]
  have each' : ∀ member ∈ written,
      ∃ a, (member.1, a) ∈ map ∧ d .text (.ofJson member.2) = .ok a := by
    intro member listed
    have here : (member.1, member.2.sorted) ∈ sortedMembers written := by
      rw [sortedMembers_eq_map]
      exact List.mem_map_of_mem listed
    obtain ⟨entry, inMap, same⟩ := List.exists_of_mem_map ((listed_iff _).mp here)
    obtain ⟨name, value⟩ := Prod.mk.inj same
    refine ⟨entry.2, name ▸ inMap, each entry inMap member.2 ?_ value.symm⟩
    exact noRepeatsMembers_iff.mp once.2 member listed
  obtain ⟨pairs, read, keys, fromMap⟩ := exists_members written each'
  have whole : Keyed.ofList pairs = map := by
    refine Keyed.ext (Keyed.sorted_ofList pairs) inOrder fun entry => ?_
    rw [Keyed.mem_ofList_iff (by rw [keys]; exact once.1)]
    constructor
    · exact fromMap entry
    · intro inMap
      have named : entry.1 ∈ pairs.map (·.1) := by
        rw [keys, ← keys_sortedMembers]
        exact List.mem_map_of_mem ((listed_iff _).mpr (List.mem_map_of_mem inMap))
      obtain ⟨pair, listed, same⟩ := List.exists_of_mem_map named
      rwa [← inOrder.eq_of_key (fromMap pair listed) inMap same]
  simp [Node.ofJson, Decoder.dictionary, read, whole, bind, Except.bind, guardText,
    MapEnd.readFault]

theorem jsonMap (m : Members) : Decoder.jsonMap.Reads (.object m) m := by
  have reads : Decoder.jsonMap.Reads (.object (m.map fun entry => (entry.1, id entry.2))) m :=
    dictionary fun entry _ => json entry.2
  simpa using reads

theorem variant {table : List (String × α)} {entry : String × α}
    (found : table.find? (·.1 = name) = .some entry) :
    (Decoder.variant table).Reads (.string name) entry.2 := by
  intro v _ same
  obtain rfl := sorted_eq_string_iff.mp same
  change findVariant table name = _
  rw [findVariant, found]

theorem ofText {text : String} (reads : d.Reads w a) (writes : Writes text w) (whole : w.Whole)
    (shallow : w.depth < depthLimit) : d.ofText text = .ok a := by
  obtain ⟨v, once, same, document⟩ := writes.ofText whole shallow
  rw [Decoder.ofText, document, ofDocument, reads v once same]
  rfl

end Decoder.Reads

/-! ## Records -/

def Record.Fills (r : Record α) (j : Json) (a : α) : Prop :=
  ∀ members, NoRepeats (.object members) → (object members).sorted = j →
    r.read .text (memberSlot (Node.ofMembers members)) = .ok a

namespace Record.Fills

variable {r : Record α} {d : Decoder α} {a : α}

theorem seq {f : Record (α → β)} {g : α → β} (fills : f.Fills j g) (more : r.Fills j a) :
    (f <*> r).Fills j (g a) := by
  intro members once same
  exact and_read_eq_ok_iff.mpr ⟨g, a, fills members once same, more members once same, rfl⟩

theorem map (g : α → β) (fills : r.Fills j a) : (g <$> r).Fills j (g a) := by
  have start : (done g).Fills j g := fun _ _ _ => rfl
  exact start.seq fills

theorem exists_given (once : NoRepeats (.object members)) (same : (object members).sorted = j)
    (here : j.under? name = some w) (reads : d.Reads w a) : ∃ place node,
      memberSlot (Node.ofMembers members) name = .given place node ∧ d .text node = .ok a := by
  obtain ⟨v, listed, onceThere, inOrder⟩ := exists_of_under?_eq_some once same here
  have distinct : Distinct [name] (fun _ => none) (Node.ofMembers members) :=
    distinct_ofMembers once.1 fun _ _ => rfl
  obtain ⟨place, found⟩ := findMember_eq_some distinct (List.mem_singleton_self name)
    (named_ofMembers_iff.mpr ⟨v, listed, rfl⟩) 0
  exact ⟨place, .ofJson v, by rw [memberSlot, found], reads v onceThere inOrder⟩

theorem exists_absent (once : NoRepeats (.object members)) (same : (object members).sorted = j)
    (missing : j.under? name = none) :
    ∃ fault, memberSlot (Node.ofMembers members) name = .absent fault none none := by
  have absent : ∀ node, ¬ Named (Node.ofMembers members) name node := by
    intro node here
    obtain ⟨v, listed, -⟩ := named_ofMembers_iff.mp here
    exact notMem_of_under?_eq_none once same missing v listed
  exact ⟨_, by rw [memberSlot, findMember_eq_none absent]⟩

theorem field (here : j.under? name = some w) (reads : d.Reads w a) :
    (Record.field name d).Fills j a := by
  intro members once same
  obtain ⟨place, node, given, read⟩ := exists_given once same here reads
  simp [Record.field, given, readAt, mapError_eq_ok_iff, read]

theorem defaulted {default : α} (reads : ∀ w, j.under? name = some w → d.Reads w a)
    (missing : j.under? name = none → a = default) :
    (Record.defaulted name default d).Fills j a := by
  intro members once same
  cases here : j.under? name with
  | none =>
    obtain ⟨fault, absent⟩ := exists_absent once same here
    simp [Record.defaulted, absent, orFault, missing here]
  | some w =>
    obtain ⟨place, node, given, read⟩ := exists_given once same here (reads w here)
    simp [Record.defaulted, given, readAt, mapError_eq_ok_iff, read]

theorem given {default : α} (here : j.under? name = some w) (reads : d.Reads w a) :
    (Record.defaulted name default d).Fills j a := by
  refine defaulted (fun w' here' => ?_) fun missing => ?_
  · rw [Option.some.inj (here'.symm.trans here)]
    exact reads
  · cases here.symm.trans missing

theorem optional {write : α → Json} {o : Option α} (here : j.under? name = o.map write)
    (each : ∀ a, o = some a → d.Reads (write a) a ∧ write a ≠ .null) :
    (Record.optional name d).Fills j o := by
  intro members once same
  cases o with
  | none =>
    obtain ⟨fault, absent⟩ := exists_absent once same here
    simp [Record.optional, absent, orFault]
  | some a =>
    have reads := (each a rfl).1.some (each a rfl).2
    obtain ⟨place, node, given, read⟩ := exists_given once same here reads
    simp [Record.optional, given, readAt, mapError_eq_ok_iff, read]

theorem omitted {write : α → Json} {o : Option α} (here : j.under? name = o.map write)
    (each : ∀ a, o = some a → d.Reads (write a) a ∧ write a ≠ .null) :
    (Record.defaultedOption name d).Fills j o := by
  cases o with
  | none => exact defaulted (fun w found => by cases here.symm.trans found) fun _ => rfl
  | some a => exact given here ((each a rfl).1.some (each a rfl).2)

theorem ofMembers (unknown : Node → Option Fault) (fills : r.Fills j a)
    (once : NoRepeats (.object members)) (same : (object members).sorted = j)
    (clear : ∀ v, unknown (.ofJson v) = none) :
    r.ofMembers unknown .text (Node.ofMembers members) .closed = .ok a :=
  ofMembers_eq_ok_iff.mpr ⟨⟨rfl, distinct_ofMembers once.1 fun member _ => clear member.2⟩,
    fills members once same⟩

theorem reads {pairs : List (String × Json)} (expected : String)
    (fills : r.Fills (.ofMembers pairs) a) : (r.decoder expected).Reads (.ofMembers pairs) a := by
  intro v once same
  obtain ⟨members, rfl, -⟩ := exists_of_sorted_eq_object same
  refine fills.ofMembers skipped once same fun v => ?_
  rw [skipped, Node.skip_ofJson]
  rfl

end Record.Fills

end ControlPanel.Json
