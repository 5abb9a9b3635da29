import ControlPanel.Json.Decoder

/-!
# Reading the members of an object

A record is read from an object if and only if none of the members is at fault and every field can
be read (`Record.ofMembers_eq_ok_iff`). Then each field has at most one member, so a field with a
default can be read if and only if its member can (`Record.exists_defaultedOption_iff`).
-/

namespace ControlPanel.Json

theorem mapError_eq_ok_iff {α ε ε' : Type} {f : ε → ε'} {x : Except ε α} {a : α} :
    x.mapError f = .ok a ↔ x = .ok a := by
  cases x with
  | error => exact ⟨nofun, nofun⟩
  | ok =>
    constructor
    · exact fun same => congrArg Except.ok (Except.ok.inj same)
    · exact fun same => congrArg Except.ok (Except.ok.inj same)

theorem bind_eq_ok {ε α β : Type} {x : Except ε α} {f : α → Except ε β} {b : β}
    (done : x >>= f = .ok b) : ∃ a, x = .ok a ∧ f a = .ok b := by
  cases x with
  | error => cases done
  | ok a => exact ⟨a, rfl, done⟩

namespace Record

variable {α β : Type}

theorem before_eq_ok_iff {fault : Option PlacedFault} {result : Except PlacedFault α} {a : α} :
    before fault result = .ok a ↔ fault = none ∧ result = .ok a := by
  cases fault <;> cases result <;> simp [before, mapError_eq_ok_iff, earliest, Except.map]

theorem and_read_eq_ok_iff {f : Record (α → β)} {x : Record α} {source : Source}
    {slots : String → Slot} {b : β} :
    (f.and x).read source slots = .ok b ↔
      ∃ g a, f.read source slots = .ok g ∧ x.read source slots = .ok a ∧ g a = b := by
  cases hf : f.read source slots <;> cases hx : x.read source slots <;>
    simp [Record.and, hf, hx, earliest, Except.map]

/-! ## Faults of the members -/

def Named (members : List Member) (name : String) (node : Node) : Prop :=
  ∃ key, (key, node) ∈ members ∧ key.read = .ok name

def fieldNames (names : List String) (members : List Member) : List String :=
  (members.filterMap fun member => member.1.read.toOption).filter (· ∈ names)

structure Distinct (names : List String) (unknown : Node → Option Fault)
    (members : List Member) : Prop where
  keys : ∀ member ∈ members, ∃ name, member.1.read = .ok name
  once : (fieldNames names members).Nodup
  others : ∀ name node, Named members name node → name ∉ names → unknown node = none

variable {names : List String} {unknown : Node → Option Fault} {members : List Member}
  {key : Scalar String} {node : Node} {name : String}

theorem fieldNames_cons (read : key.read = .ok name) :
    fieldNames names ((key, node) :: members) =
      if name ∈ names then name :: fieldNames names members else fieldNames names members := by
  simp [fieldNames, read, Except.toOption, List.filter_cons]

theorem mem_fieldNames_iff :
    name ∈ fieldNames names members ↔ name ∈ names ∧ ∃ node, Named members name node := by
  simp only [fieldNames, List.mem_filter, List.mem_filterMap, decide_eq_true_eq, Named]
  constructor
  · rintro ⟨⟨⟨key, node⟩, listed, read⟩, known⟩
    refine ⟨known, node, key, listed, ?_⟩
    cases found : key.read <;> simp_all [Except.toOption]
  · rintro ⟨known, node, key, listed, read⟩
    exact ⟨⟨(key, node), listed, by simp [read, Except.toOption]⟩, known⟩

theorem named_cons_iff (read : key.read = .ok name) {other : String} {found : Node} :
    Named ((key, node) :: members) other found ↔
      (other = name ∧ found = node) ∨ Named members other found := by
  simp only [Named, List.mem_cons, Prod.mk.injEq]
  constructor
  · rintro ⟨key', ⟨rfl, rfl⟩ | listed, read'⟩
    · exact .inl ⟨Except.ok.inj (read'.symm.trans read), rfl⟩
    · exact .inr ⟨key', listed, read'⟩
  · rintro (⟨rfl, rfl⟩ | ⟨key', listed, read'⟩)
    · exact ⟨key, .inl ⟨rfl, rfl⟩, read⟩
    · exact ⟨key', .inr listed, read'⟩

theorem distinct_cons_iff (read : key.read = .ok name) :
    Distinct names unknown ((key, node) :: members) ↔ Distinct names unknown members ∧
      if name ∈ names then name ∉ fieldNames names members else unknown node = none := by
  have others : (∀ other found, Named ((key, node) :: members) other found → other ∉ names →
      unknown found = none) ↔ (name ∉ names → unknown node = none) ∧
        ∀ other found, Named members other found → other ∉ names → unknown found = none := by
    simp only [named_cons_iff read]
    grind
  constructor
  · rintro ⟨keys, once, rest⟩
    obtain ⟨here, rest⟩ := others.mp rest
    rw [fieldNames_cons read] at once
    split at once
    · rename_i known
      obtain ⟨new, once⟩ := List.nodup_cons.mp once
      exact ⟨⟨fun member listed => keys member (.tail _ listed), once, rest⟩, by rwa [if_pos known]⟩
    · rename_i stranger
      exact ⟨⟨fun member listed => keys member (.tail _ listed), once, rest⟩,
        by rw [if_neg stranger]; exact here stranger⟩
  · rintro ⟨⟨keys, once, rest⟩, here⟩
    refine ⟨?_, ?_, others.mpr ⟨fun unknown => ?_, rest⟩⟩
    · intro member listed
      rcases List.mem_cons.mp listed with rfl | listed
      · exact ⟨name, read⟩
      · exact keys member listed
    · rw [fieldNames_cons read]
      split
      · rename_i known
        exact List.nodup_cons.mpr ⟨by rwa [if_pos known] at here, once⟩
      · exact once
    · rwa [if_neg unknown] at here

theorem memberFault_eq_none_iff {ending : MapEnd Node} {place : Nat} {seen : List String} :
    memberFault names unknown ending place seen members = none ↔
      ending.readFault = none ∧ Distinct names unknown members ∧
        ∀ name ∈ fieldNames names members, name ∉ seen := by
  induction members generalizing place seen with
  | nil =>
    have clear : Distinct names unknown [] := ⟨by simp, List.nodup_nil, by simp [Named]⟩
    simp [memberFault, clear, fieldNames]
  | cons member members ih =>
    obtain ⟨key, node⟩ := member
    cases read : key.read with
    | error fault =>
      have unread : ¬ Distinct names unknown ((key, node) :: members) := by
        intro distinct
        obtain ⟨name, same⟩ := distinct.keys _ (List.mem_cons_self ..)
        cases read.symm.trans same
      simp [memberFault, read, unread]
    | ok name =>
      rw [distinct_cons_iff read, fieldNames_cons read]
      by_cases known : name ∈ names
      · by_cases again : name ∈ seen
        · simp [memberFault, read, known, again]
        · simp only [memberFault, read, known, again, if_true, if_false, ih, List.mem_cons]
          grind
      · cases wrong : unknown node with
        | none => simp [memberFault, read, known, wrong, ih]
        | some fault => simp [memberFault, read, known, wrong]

theorem ofMembers_eq_ok_iff {r : Record α} {source : Source} {ending : MapEnd Node} {a : α} :
    r.ofMembers unknown source members ending = .ok a ↔
      (ending.readFault = none ∧ Distinct r.names unknown members) ∧
        r.read source (memberSlot members) = .ok a := by
  rw [ofMembers, before_eq_ok_iff, memberFault_eq_none_iff]
  simp

theorem ofDocument_eq_ok_iff {r : Record α} {expected : String} {a : α} :
    (r.decoder expected).ofDocument ⟨.object false members .closed, false⟩ = .ok a ↔
      Distinct r.names skipped members ∧ r.read .text (memberSlot members) = .ok a := by
  have whole : (r.decoder expected).ofDocument ⟨.object false members .closed, false⟩ =
      r.ofMembers skipped .text members .closed := by
    change (ofMembers _ _ _ _ _ >>= fun value => Except.ok value) = _
    cases r.ofMembers skipped .text members .closed <;> rfl
  rw [whole, ofMembers_eq_ok_iff]
  exact and_congr_left fun _ => ⟨And.right, fun distinct => ⟨rfl, distinct⟩⟩

end Record

/-! ## Values that may be missing -/

namespace Decoder

variable {α : Type} (source : Source) {node : Node}

theorem nullable_of_eq_ok {source : Source} {d : Decoder α} {a : α} (present : node ≠ .null)
    (read : d source node = .ok a) : d.nullable source node = .ok (some a) := by
  cases node with
  | null => exact absurd rfl present
  | _ => simp [nullable, read, Except.map]

theorem exists_nullable_iff {source : Source} {d : Decoder α} :
    (∃ a, d.nullable source node = .ok a) ↔ node = .null ∨ ∃ a, d source node = .ok a := by
  cases node <;> simp only [nullable] <;> cases read : d source _ <;> simp_all [Except.map]

theorem mismatch_ne_ok {expected : String} {a : α} : mismatch node expected ≠ .ok a := by
  unfold mismatch
  split <;> simp

theorem bool_eq_ok_iff {b : Bool} : bool source node = .ok b ↔ node = .bool b := by
  cases node with
  | bool value => simp [bool]
  | _ => simp only [bool, mismatch_ne_ok, reduceCtorEq]

theorem string_eq_ok_iff {text : String} :
    string source node = .ok text ↔ ∃ scalar, node = .string scalar ∧ scalar.read = .ok text := by
  cases node with
  | string scalar =>
    have scanned {text : String} : readScalar scalar = .ok text ↔ scalar.read = .ok text :=
      mapError_eq_ok_iff
    cases read : readScalar scalar <;>
      simp [string, parsed, ← scanned, read, mapError_eq_ok_iff, bind, Except.bind]
  | _ => simp only [string, parsed, mismatch_ne_ok, reduceCtorEq, false_and, exists_false]

end Decoder

namespace Record

variable {α : Type} {names : List String} {unknown : Node → Option Fault} {members : List Member}
  {node : Node} {name : String}

/-! ## Fields with a default -/

theorem findMember_eq_none {place : Nat} (absent : ∀ node, ¬ Named members name node) :
    findMember name place members = none := by
  induction members generalizing place with
  | nil => rfl
  | cons member members ih =>
    obtain ⟨key, node⟩ := member
    have other : key.read.toOption ≠ some name := by
      intro same
      refine absent node ⟨key, .head _, ?_⟩
      cases read : key.read <;> simp_all [Except.toOption]
    rw [findMember, if_neg other]
    exact ih fun node ⟨key, listed, read⟩ => absent node ⟨key, .tail _ listed, read⟩

theorem findMember_eq_some (distinct : Distinct names unknown members) (field : name ∈ names)
    (here : Named members name node) (place : Nat) :
    ∃ found, findMember name place members = some (found, node) := by
  induction members generalizing place with
  | nil => simp [Named] at here
  | cons member members ih =>
    obtain ⟨key, first⟩ := member
    obtain ⟨other, read⟩ : ∃ other, key.read = .ok other := distinct.keys _ (.head _)
    obtain ⟨rest, new⟩ := (distinct_cons_iff read).mp distinct
    rcases (named_cons_iff read).mp here with ⟨rfl, rfl⟩ | later
    · exact ⟨place, by simp [findMember, read, Except.toOption]⟩
    · have differs : other ≠ name := by
        rintro rfl
        rw [if_pos field] at new
        exact new (mem_fieldNames_iff.mpr ⟨field, node, later⟩)
      simpa [findMember, read, Except.toOption, differs] using ih rest later (place + 1)

theorem defaulted_eq_ok_iff {default : α} {d : Decoder α} {source : Source} {a : α}
    (distinct : Distinct names unknown members) (field : name ∈ names)
    (here : Named members name node) :
    (defaulted name default d).read source (memberSlot members) = .ok a ↔
      d source node = .ok a := by
  obtain ⟨place, found⟩ := findMember_eq_some distinct field here 0
  simp [defaulted, memberSlot, found, readAt, mapError_eq_ok_iff]

theorem defaulted_of_absent {default : α} {d : Decoder α} {source : Source}
    (absent : ∀ node, ¬ Named members name node) :
    (defaulted name default d).read source (memberSlot members) = .ok default := by
  simp [defaulted, memberSlot, findMember_eq_none absent, orFault]

theorem field_eq_ok_iff {d : Decoder α} {source : Source} {a : α}
    (distinct : Distinct names unknown members) (known : name ∈ names) :
    (field name d).read source (memberSlot members) = .ok a ↔
      ∃ node, Named members name node ∧ d source node = .ok a := by
  by_cases here : ∃ node, Named members name node
  · obtain ⟨node, here⟩ := here
    obtain ⟨place, found⟩ := findMember_eq_some distinct known here 0
    have only : ∀ other, Named members name other → other = node := fun other there => by
      obtain ⟨place', found'⟩ := findMember_eq_some distinct known there 0
      cases found.symm.trans found'
      rfl
    simp only [field, memberSlot, found, readAt, mapError_eq_ok_iff]
    exact ⟨fun read => ⟨node, here, read⟩, fun ⟨other, there, read⟩ => only other there ▸ read⟩
  · have absent := not_exists.mp here
    simp only [field, memberSlot, findMember_eq_none absent, reduceCtorEq, absent, false_and,
      exists_false]

theorem exists_defaultedOption_iff {d : Decoder α} {source : Source}
    (distinct : Distinct names unknown members) (field : name ∈ names) :
    (∃ a, (defaultedOption name d).read source (memberSlot members) = .ok a) ↔
      ∀ node, Named members name node → node = .null ∨ ∃ a, d source node = .ok a := by
  simp only [← Decoder.exists_nullable_iff]
  constructor
  · rintro ⟨a, read⟩ node here
    exact ⟨a, (defaulted_eq_ok_iff distinct field here).mp read⟩
  · intro readable
    by_cases here : ∃ node, Named members name node
    · obtain ⟨node, here⟩ := here
      obtain ⟨a, read⟩ := readable node here
      exact ⟨a, (defaulted_eq_ok_iff distinct field here).mpr read⟩
    · exact ⟨none, defaulted_of_absent (not_exists.mp here)⟩

/-! ## Where the fields stand -/

end Record

inductive Node.Inside : Node → Node → Prop where
  | item {items : List Node} {ending : ListEnd} {node : Node} (listed : node ∈ items) :
      Inside node (.array false items ending)
  | member {members : List Member} {ending : MapEnd Node} {key : Scalar String} {node : Node}
      (listed : (key, node) ∈ members) : Inside node (.object false members ending)

namespace Record

theorem mem_of_findMember {found place : Nat}
    (here : findMember name place members = some (found, node)) : ∃ key, (key, node) ∈ members := by
  induction members generalizing place with
  | nil => cases here
  | cons member rest ih =>
    obtain ⟨key, first⟩ := member
    rw [findMember] at here
    split at here
    · cases here
      exact ⟨key, .head _⟩
    · obtain ⟨key, listed⟩ := ih here
      exact ⟨key, .tail _ listed⟩

/-- A record is read from fields that are given inside the node, if they are given at all. -/
theorem exists_slots_of_decoder {r : Record α} {expected : String} {source : Source} {a : α}
    (decoded : r.decoder expected source node = .ok a) :
    ∃ slots, r.read source slots = .ok a ∧
      ∀ name place inner, slots name = .given place inner → inner.Inside node := by
  unfold decoder at decoded
  split at decoded
  · next deep members ending =>
    cases deep with
    | true => cases decoded
    | false =>
      refine ⟨_, (before_eq_ok_iff.mp decoded).2, fun name place inner given => ?_⟩
      unfold memberSlot at given
      split at given
      · next found =>
        obtain ⟨rfl, rfl⟩ := Slot.given.inj given
        obtain ⟨key, listed⟩ := mem_of_findMember found
        exact .member listed
      · cases given
  · next deep items ending =>
    cases deep with
    | true => cases decoded
    | false =>
      refine ⟨_, (before_eq_ok_iff.mp decoded).2, fun name place inner given => ?_⟩
      unfold itemSlot at given
      dsimp only at given
      split at given
      · next found =>
        obtain ⟨rfl, rfl⟩ := Slot.given.inj given
        exact .item (List.mem_of_getElem? found)
      · split at given <;> cases given
  · exact absurd decoded Decoder.mismatch_ne_ok

end Record

theorem Decoder.read_of_ofText {d : Decoder α} {text : String} {a : α}
    (parsed : d.ofText text = .ok a) : d .text (Document.ofText text).root = .ok a := by
  obtain ⟨value, read, finished⟩ := bind_eq_ok parsed
  split at finished
  · cases finished
  · cases finished
    exact read

end ControlPanel.Json
