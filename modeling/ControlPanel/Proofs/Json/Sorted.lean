import ControlPanel.Json.Decoder
import ControlPanel.Proofs.Json.Written
import ControlPanel.Proofs.Keyed

/-!
# The order of members

A value can be written with the members of its objects in any order (`Json.Writes`). Reading puts
them in order again (`Decoder.readJson_ofJson`).
-/

namespace ControlPanel.Json

mutual

def sorted : Json → Json
  | .null => .null
  | .bool b => .bool b
  | .number n => .number n
  | .string s => .string s
  | .array items => .array (sortedItems items)
  | .object members => .object (Keyed.ofList (sortedMembers members))

def sortedItems : List Json → List Json
  | [] => []
  | v :: rest => v.sorted :: sortedItems rest

def sortedMembers : List (String × Json) → List (String × Json)
  | [] => []
  | (k, v) :: rest => (k, v.sorted) :: sortedMembers rest

end

mutual

def NoRepeats : Json → Prop
  | .null | .bool _ | .number _ | .string _ => True
  | .array items => NoRepeatsItems items
  | .object members => (members.map (·.1)).Nodup ∧ NoRepeatsMembers members

def NoRepeatsItems : List Json → Prop
  | [] => True
  | v :: rest => v.NoRepeats ∧ NoRepeatsItems rest

def NoRepeatsMembers : List (String × Json) → Prop
  | [] => True
  | (_, v) :: rest => v.NoRepeats ∧ NoRepeatsMembers rest

end

/-- The text is the value, with the members of each object in some order. -/
def Writes (text : String) (v : Json) : Prop :=
  ∃ written : Json, written.NoRepeats ∧ written.sorted = v ∧ text = written.render

/-! ## Members one by one -/

theorem sortedMembers_eq_map (members : List (String × Json)) :
    sortedMembers members = members.map fun member => (member.1, member.2.sorted) := by
  induction members with
  | nil => rfl
  | cons member rest ih => rw [sortedMembers, ih, List.map_cons]

theorem sortedItems_eq_map (items : List Json) : sortedItems items = items.map sorted := by
  induction items with
  | nil => rfl
  | cons v rest ih => rw [sortedItems, ih, List.map_cons]

theorem keys_sortedMembers (members : List (String × Json)) :
    (sortedMembers members).map (·.1) = members.map (·.1) := by
  rw [sortedMembers_eq_map, List.map_map]
  rfl

theorem noRepeatsMembers_iff {members : List (String × Json)} :
    NoRepeatsMembers members ↔ ∀ member ∈ members, member.2.NoRepeats := by
  induction members with
  | nil => simp [NoRepeatsMembers]
  | cons member rest ih => simp [NoRepeatsMembers, ih]

theorem wholeItems_iff {items : List Json} : WholeItems items ↔ ∀ v ∈ items, v.Whole := by
  induction items with
  | nil => simp [WholeItems]
  | cons v rest ih => simp [WholeItems, ih]

theorem wholeMembers_iff {members : List (String × Json)} :
    WholeMembers members ↔ ∀ member ∈ members, member.2.Whole := by
  induction members with
  | nil => simp [WholeMembers]
  | cons member rest ih => simp [WholeMembers, ih]

theorem membersDepth_le_iff {members : List (String × Json)} {limit : Nat} :
    membersDepth members ≤ limit ↔ ∀ member ∈ members, member.2.depth ≤ limit := by
  induction members with
  | nil => simp [membersDepth]
  | cons member rest ih => rw [membersDepth, Nat.max_le, ih, List.forall_mem_cons]

theorem canonicalItems_iff {items : List Json} :
    CanonicalItems items ↔ ∀ v ∈ items, v.Canonical := by
  induction items with
  | nil => simp [CanonicalItems]
  | cons v rest ih => simp [CanonicalItems, ih]

theorem canonicalMembers_iff {members : List (String × Json)} :
    CanonicalMembers members ↔ ∀ member ∈ members, member.2.Canonical := by
  induction members with
  | nil => simp [CanonicalMembers]
  | cons member rest ih => simp [CanonicalMembers, ih]

/-! ## What order does not change -/

theorem mem_sorted_object_iff {members : List (String × Json)}
    (once : (members.map (·.1)).Nodup) (entry : String × Json) :
    entry ∈ Keyed.ofList (sortedMembers members) ↔ entry ∈ sortedMembers members :=
  Keyed.mem_ofList_iff (by rwa [keys_sortedMembers]) entry

mutual

theorem whole_of_sorted (v : Json) (once : v.NoRepeats) (whole : v.sorted.Whole) : v.Whole := by
  match v with
  | .null | .bool _ | .string _ => trivial
  | .number _ => exact whole
  | .array items => exact wholeItems_of_sorted items once whole
  | .object members =>
    refine wholeMembers_of_sorted members once.2 (wholeMembers_iff.mpr ?_)
    intro member listed
    exact wholeMembers_iff.mp whole member ((mem_sorted_object_iff once.1 member).mpr listed)

theorem wholeItems_of_sorted (items : List Json) (once : NoRepeatsItems items)
    (whole : WholeItems (sortedItems items)) : WholeItems items := by
  match items with
  | [] => trivial
  | v :: rest =>
    exact ⟨whole_of_sorted v once.1 whole.1, wholeItems_of_sorted rest once.2 whole.2⟩

theorem wholeMembers_of_sorted (members : List (String × Json)) (once : NoRepeatsMembers members)
    (whole : WholeMembers (sortedMembers members)) : WholeMembers members := by
  match members with
  | [] => trivial
  | (_, v) :: rest =>
    exact ⟨whole_of_sorted v once.1 whole.1, wholeMembers_of_sorted rest once.2 whole.2⟩

end

mutual

theorem depth_le_sorted (v : Json) (once : v.NoRepeats) : v.depth ≤ v.sorted.depth := by
  match v with
  | .null | .bool _ | .string _ | .number _ => exact Nat.zero_le _
  | .array items => exact Nat.succ_le_succ (itemsDepth_le_sorted items once)
  | .object members =>
    refine Nat.succ_le_succ (Nat.le_trans (membersDepth_le_sorted members once.2) ?_)
    apply membersDepth_le_iff.mpr
    intro member listed
    exact membersDepth_le_iff.mp (Nat.le_refl _) member
      ((mem_sorted_object_iff once.1 member).mpr listed)

theorem itemsDepth_le_sorted (items : List Json) (once : NoRepeatsItems items) :
    itemsDepth items ≤ itemsDepth (sortedItems items) := by
  match items with
  | [] => exact Nat.zero_le _
  | v :: rest =>
    have head := depth_le_sorted v once.1
    have tail := itemsDepth_le_sorted rest once.2
    simp only [itemsDepth, sortedItems]
    omega

theorem membersDepth_le_sorted (members : List (String × Json)) (once : NoRepeatsMembers members) :
    membersDepth members ≤ membersDepth (sortedMembers members) := by
  match members with
  | [] => exact Nat.zero_le _
  | (_, v) :: rest =>
    have head := depth_le_sorted v once.1
    have tail := membersDepth_le_sorted rest once.2
    simp only [membersDepth, sortedMembers]
    omega

end

/-! ## Values in order -/

mutual

theorem sorted_of_canonical (v : Json) (canonical : v.Canonical) : v.sorted = v := by
  match v with
  | .null | .bool _ | .string _ | .number _ => rfl
  | .array items => rw [sorted, sortedItems_of_canonical items canonical]
  | .object members =>
    rw [sorted, sortedMembers_of_canonical members canonical.2, canonical.1.ofList_eq]

theorem sortedItems_of_canonical (items : List Json) (canonical : CanonicalItems items) :
    sortedItems items = items := by
  match items with
  | [] => rfl
  | v :: rest =>
    rw [sortedItems, sorted_of_canonical v canonical.1, sortedItems_of_canonical rest canonical.2]

theorem sortedMembers_of_canonical (members : List (String × Json))
    (canonical : CanonicalMembers members) : sortedMembers members = members := by
  match members with
  | [] => rfl
  | (k, v) :: rest =>
    rw [sortedMembers, sorted_of_canonical v canonical.1,
      sortedMembers_of_canonical rest canonical.2]

end

mutual

theorem noRepeats_of_canonical (v : Json) (canonical : v.Canonical) : v.NoRepeats := by
  match v with
  | .null | .bool _ | .string _ | .number _ => trivial
  | .array items => exact noRepeatsItems_of_canonical items canonical
  | .object members =>
    exact ⟨canonical.1.keys_nodup, noRepeatsMembers_of_canonical members canonical.2⟩

theorem noRepeatsItems_of_canonical (items : List Json) (canonical : CanonicalItems items) :
    NoRepeatsItems items := by
  match items with
  | [] => trivial
  | v :: rest =>
    exact ⟨noRepeats_of_canonical v canonical.1, noRepeatsItems_of_canonical rest canonical.2⟩

theorem noRepeatsMembers_of_canonical (members : List (String × Json))
    (canonical : CanonicalMembers members) : NoRepeatsMembers members := by
  match members with
  | [] => trivial
  | (_, v) :: rest =>
    exact ⟨noRepeats_of_canonical v canonical.1, noRepeatsMembers_of_canonical rest canonical.2⟩

end

theorem writes_render {v : Json} (canonical : v.Canonical) : Writes v.render v :=
  ⟨v, noRepeats_of_canonical v canonical, sorted_of_canonical v canonical, rfl⟩

/-! ## Plain values -/

structure Plain (v : Json) : Prop where
  canonical : v.Canonical
  whole : v.Whole

@[simp] theorem plain_null : Plain .null := ⟨trivial, trivial⟩

@[simp] theorem plain_bool (b : Bool) : Plain (.bool b) := ⟨trivial, trivial⟩

@[simp] theorem plain_string (s : String) : Plain (.string s) := ⟨trivial, trivial⟩

theorem plain_nat {n : Nat} (small : n < UInt64.size) : (nat n).Plain := by
  have least : Number.minInt = -9223372036854775808 := by decide
  have greatest : Number.maxInt = 18446744073709551615 := by decide
  have size : UInt64.size = 18446744073709551616 := rfl
  refine ⟨trivial, ?_⟩
  change IsWord n
  simp only [IsWord]
  omega

@[simp] theorem plain_word (n : UInt32) : (nat n.toNat).Plain :=
  plain_nat (Nat.lt_trans n.toNat_lt (by decide))

theorem plain_array {items : List Json} (each : ∀ v ∈ items, v.Plain) : Plain (.array items) :=
  ⟨canonicalItems_iff.mpr fun v listed => (each v listed).canonical,
    wholeItems_iff.mpr fun v listed => (each v listed).whole⟩

theorem plain_object {members : Members} (inOrder : Keyed.Sorted members)
    (each : ∀ member ∈ members, member.2.Plain) : Plain (.object members) :=
  ⟨⟨inOrder, canonicalMembers_iff.mpr fun member listed => (each member listed).canonical⟩,
    wholeMembers_iff.mpr fun member listed => (each member listed).whole⟩

theorem plain_ofMembers {pairs : List (String × Json)} (each : ∀ pair ∈ pairs, pair.2.Plain) :
    (ofMembers pairs).Plain :=
  plain_object (Keyed.sorted_ofList pairs) fun pair listed =>
    each pair (Keyed.mem_of_mem_ofList listed)

theorem plain_ofOption {α : Type} {write : α → Json} {o : Option α}
    (each : ∀ a, o = some a → (write a).Plain) : (ofOption write o).Plain := by
  cases o with
  | none => exact plain_null
  | some a => exact each a rfl

theorem plain_member? {α : Type} {key : String} {write : α → Json} {o : Option α}
    (each : ∀ a, o = some a → (write a).Plain) : ∀ pair ∈ member? key write o, pair.2.Plain := by
  cases o with
  | none => exact fun _ listed => absurd listed List.not_mem_nil
  | some a => simpa [member?] using each a rfl

/-! ## Reading -/

theorem Writes.ofText {text : String} {v : Json} (writes : Writes text v) (whole : v.Whole)
    (shallow : v.depth < depthLimit) : ∃ written : Json, written.NoRepeats ∧ written.sorted = v ∧
      Document.ofText text = ⟨.ofJson written, false⟩ := by
  obtain ⟨written, once, rfl, rfl⟩ := writes
  refine ⟨written, once, rfl, Document.ofText_render (whole_of_sorted written once whole) ?_⟩
  exact Nat.lt_of_le_of_lt (depth_le_sorted written once) shallow

mutual

theorem Decoder.readJson_ofJson (v : Json) : Decoder.readJson (.ofJson v) = .ok v.sorted := by
  match v with
  | .null | .bool _ | .string _ | .number _ => rfl
  | .array items =>
    have read := readItems_ofItems items
    simp [Node.ofJson, Decoder.readJson, read, sorted, bind, Except.bind, Decoder.guardText,
      ListEnd.readFault]
  | .object members =>
    have read := readMembers_ofMembers members
    simp [Node.ofJson, Decoder.readJson, read, sorted, bind, Except.bind, Decoder.guardText,
      MapEnd.readFault]

theorem Decoder.readItems_ofItems (items : List Json) :
    Decoder.readItems (Node.ofItems items) = .ok (sortedItems items) := by
  match items with
  | [] => rfl
  | v :: rest =>
    rw [Node.ofItems, Decoder.readItems, readJson_ofJson v, readItems_ofItems rest]
    rfl

theorem Decoder.readMembers_ofMembers (members : List (String × Json)) :
    Decoder.readMembers (Node.ofMembers members) = .ok (sortedMembers members) := by
  match members with
  | [] => rfl
  | (k, v) :: rest =>
    rw [Node.ofMembers, Decoder.readMembers, readJson_ofJson v, readMembers_ofMembers rest]
    rfl

end

mutual

theorem Node.skip_ofJson (v : Json) : (Node.ofJson v).skip = none := by
  match v with
  | .null | .bool _ | .string _ | .number _ => rfl
  | .array items => simp [Node.ofJson, Node.skip, skipItems_ofItems items, ListEnd.skipFault]
  | .object members =>
    simp [Node.ofJson, Node.skip, skipMembers_ofMembers members, MapEnd.skipFault]

theorem Node.skipItems_ofItems (items : List Json) :
    Node.skipItems (Node.ofItems items) = none := by
  match items with
  | [] => rfl
  | v :: rest => simp [Node.ofItems, Node.skipItems, skip_ofJson v, skipItems_ofItems rest]

theorem Node.skipMembers_ofMembers (members : List (String × Json)) :
    Node.skipMembers (Node.ofMembers members) = none := by
  match members with
  | [] => rfl
  | (k, v) :: rest =>
    simp [Node.ofMembers, Node.skipMembers, skip_ofJson v, skipMembers_ofMembers rest]

end

end ControlPanel.Json
