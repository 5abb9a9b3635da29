import ControlPanel.Proofs.Json.Records
import ControlPanel.Proofs.Json.Sorted

/-!
# Reading any text

What can be said of every text, well formed or not. The containers of a document that are not too
deep stand inside one another to less than the nesting limit (`Document.height_ofText`), so a value
that is read from it is no deeper; and its members are in order (`Decoder.readJson_bounds`).
-/

namespace ControlPanel.Json

mutual

def Node.height : Node → Nat
  | .array deep items _ => if deep then 0 else Node.itemsHeight items + 1
  | .object deep members _ => if deep then 0 else Node.membersHeight members + 1
  | _ => 0

def Node.itemsHeight : List Node → Nat
  | [] => 0
  | node :: rest => max node.height (Node.itemsHeight rest)

def Node.membersHeight : List (Scalar String × Node) → Nat
  | [] => 0
  | (_, node) :: rest => max node.height (Node.membersHeight rest)

end

namespace Node

theorem itemsHeight_le_iff {items : List Node} {limit : Nat} :
    itemsHeight items ≤ limit ↔ ∀ node ∈ items, node.height ≤ limit := by
  induction items with
  | nil => simp [itemsHeight]
  | cons node rest ih => rw [itemsHeight, Nat.max_le, ih, List.forall_mem_cons]

theorem membersHeight_le_iff {members : List Member} {limit : Nat} :
    membersHeight members ≤ limit ↔ ∀ member ∈ members, member.2.height ≤ limit := by
  induction members with
  | nil => simp [membersHeight]
  | cons member rest ih => rw [membersHeight, Nat.max_le, ih, List.forall_mem_cons]

theorem Inside.height_lt {inner outer : Node} (inside : inner.Inside outer) :
    inner.height < outer.height := by
  cases inside with
  | item listed =>
    simp only [height]
    exact Nat.lt_succ_of_le (itemsHeight_le_iff.mp (Nat.le_refl _) _ listed)
  | member listed =>
    simp only [height]
    exact Nat.lt_succ_of_le (membersHeight_le_iff.mp (Nat.le_refl _) _ listed)

end Node

/-! ## Values that are read -/

namespace Decoder

theorem guardText_eq_ok {α : Type} {fault : Option TextFault} {value a : α}
    (done : guardText fault value = .ok a) : value = a := by
  cases fault with
  | none => exact Except.ok.inj done
  | some => cases done

mutual

theorem readJson_bounds (node : Node) {v : Json} (read : readJson node = .ok v) :
    v.depth ≤ node.height ∧ v.Canonical := by
  match node with
  | .broken _ | .badWord _ => cases read
  | .null | .bool _ =>
    cases read
    exact ⟨Nat.zero_le _, trivial⟩
  | .number s | .string s =>
    obtain ⟨_, -, same⟩ := bind_eq_ok read
    cases same
    exact ⟨Nat.zero_le _, trivial⟩
  | .array deep nodes ending =>
    cases deep with
    | true => cases read
    | false =>
      obtain ⟨items, readItems, ended⟩ := bind_eq_ok read
      obtain rfl := guardText_eq_ok ended
      obtain ⟨shallow, canonical⟩ := readItems_bounds nodes readItems
      exact ⟨Nat.succ_le_succ shallow, canonical⟩
  | .object deep nodes ending =>
    cases deep with
    | true => cases read
    | false =>
      obtain ⟨members, readMembers, ended⟩ := bind_eq_ok read
      obtain rfl := guardText_eq_ok ended
      obtain ⟨shallow, canonical⟩ := readMembers_bounds nodes readMembers
      refine ⟨Nat.succ_le_succ (Nat.le_trans ?_ shallow), Keyed.sorted_ofList members, ?_⟩
      · exact membersDepth_le_iff.mpr fun member listed =>
          membersDepth_le_iff.mp (Nat.le_refl _) member (Keyed.mem_of_mem_ofList listed)
      · exact canonicalMembers_iff.mpr fun member listed =>
          canonicalMembers_iff.mp canonical member (Keyed.mem_of_mem_ofList listed)

theorem readItems_bounds (nodes : List Node) {items : List Json}
    (read : readItems nodes = .ok items) :
    itemsDepth items ≤ Node.itemsHeight nodes ∧ CanonicalItems items := by
  match nodes with
  | [] =>
    cases read
    exact ⟨Nat.zero_le _, trivial⟩
  | node :: rest =>
    obtain ⟨v, readHead, read⟩ := bind_eq_ok read
    obtain ⟨later, readRest, same⟩ := bind_eq_ok read
    cases same
    have head := readJson_bounds node readHead
    have tail := readItems_bounds rest readRest
    refine ⟨?_, head.2, tail.2⟩
    simp only [itemsDepth, Node.itemsHeight]
    omega

theorem readMembers_bounds (nodes : List (Scalar String × Node)) {members : List (String × Json)}
    (read : readMembers nodes = .ok members) :
    membersDepth members ≤ Node.membersHeight nodes ∧ CanonicalMembers members := by
  match nodes with
  | [] =>
    cases read
    exact ⟨Nat.zero_le _, trivial⟩
  | (key, node) :: rest =>
    obtain ⟨name, -, read⟩ := bind_eq_ok read
    obtain ⟨v, readHead, read⟩ := bind_eq_ok read
    obtain ⟨later, readRest, same⟩ := bind_eq_ok read
    cases same
    have head := readJson_bounds node readHead
    have tail := readMembers_bounds rest readRest
    refine ⟨?_, head.2, tail.2⟩
    simp only [membersDepth, Node.membersHeight]
    omega

end

end Decoder

/-! ## Documents that are cut -/

def room (level : Nat) : Nat := depthLimit - 1 - level

def Fitting : List Frame → Prop
  | [] => True
  | .list items :: frames =>
    (∀ node ∈ items, node.height ≤ room (frames.length + 1)) ∧ Fitting frames
  | .map members _ :: frames =>
    (∀ member ∈ members, member.2.height ≤ room (frames.length + 1)) ∧ Fitting frames

theorem isDeep_iff {frames : List Frame} :
    isDeep frames = false ↔ frames.length < depthLimit - 1 := by
  rw [isDeep, Bool.not_eq_false', List.isEmpty_iff, List.drop_eq_nil_iff]
  simp only [depthLimit]
  omega

theorem listNode_height {frames : List Frame} {items : List Node} {ending : ListEnd}
    (fit : ∀ node ∈ items, node.height ≤ room (frames.length + 1)) :
    (listNode frames items ending).height ≤ room frames.length := by
  have bound : Node.itemsHeight items.reverse ≤ room (frames.length + 1) :=
    Node.itemsHeight_le_iff.mpr fun node listed => fit node (List.mem_reverse.mp listed)
  rw [listNode, Node.height]
  split
  · exact Nat.zero_le _
  · rename_i shallow
    have level := isDeep_iff.mp ((Bool.not_eq_true _).mp shallow)
    simp only [room] at *
    omega

theorem mapNode_height {frames : List Frame} {members : List Member} {ending : MapEnd Node}
    (fit : ∀ member ∈ members, member.2.height ≤ room (frames.length + 1)) :
    (mapNode frames members ending).height ≤ room frames.length := by
  have bound : Node.membersHeight members.reverse ≤ room (frames.length + 1) :=
    Node.membersHeight_le_iff.mpr fun member listed => fit member (List.mem_reverse.mp listed)
  rw [mapNode, Node.height]
  split
  · exact Nat.zero_le _
  · rename_i shallow
    have level := isDeep_iff.mp ((Bool.not_eq_true _).mp shallow)
    simp only [room] at *
    omega

theorem cut_height {node : Node} {frames : List Frame} (fit : node.height ≤ room frames.length)
    (fitting : Fitting frames) : (cut node frames).root.height ≤ room 0 := by
  induction frames generalizing node with
  | nil => exact fit
  | cons frame frames ih =>
    cases frame with
    | list items => exact ih (listNode_height (List.forall_mem_cons.mpr ⟨fit, fitting.1⟩)) fitting.2
    | map members key =>
      exact ih (mapNode_height (List.forall_mem_cons.mpr ⟨fit, fitting.1⟩)) fitting.2

namespace Reading

def Fitting : Reading → Prop
  | value frames => Json.Fitting frames
  | item _ items frames => Json.Fitting (.list items :: frames)
  | key _ members frames =>
    (∀ member ∈ members, member.2.height ≤ room (frames.length + 1)) ∧ Json.Fitting frames
  | colon members name frames => Json.Fitting (.map members name :: frames)
  | separator node frames => node.height ≤ room frames.length ∧ Json.Fitting frames
  | done document => document.root.height ≤ room 0

variable {frames : List Frame}

theorem Fitting.stopAt {node : Node} (fit : node.height ≤ room frames.length)
    (fitting : Json.Fitting frames) : (stopAt node frames).Fitting := cut_height fit fitting

theorem Fitting.scalar {α : Type} (s : Scalar α) {node : Node} (flat : node.height = 0)
    (fitting : Json.Fitting frames) : (scalar s node frames).Fitting := by
  have fit : node.height ≤ room frames.length := flat ▸ Nat.zero_le _
  unfold Reading.scalar
  split
  · exact .stopAt fit fitting
  · exact ⟨fit, fitting⟩

theorem Fitting.start (fitting : Json.Fitting frames) (token : Token) :
    (start frames token).Fitting := by
  cases token with
  | openList => exact ⟨fun _ listed => absurd listed List.not_mem_nil, fitting⟩
  | openMap => exact ⟨fun _ listed => absurd listed List.not_mem_nil, fitting⟩
  | null => exact ⟨Nat.zero_le _, fitting⟩
  | bool b => exact ⟨Nat.zero_le _, fitting⟩
  | number s => exact .scalar s rfl fitting
  | string s => exact .scalar s rfl fitting
  | badWord fault => exact .stopAt (Nat.zero_le _) fitting
  | _ => exact .stopAt (Nat.zero_le _) fitting

theorem Fitting.next {reading : Reading} (fitting : reading.Fitting) (token : Token) :
    (reading.next token).Fitting := by
  have flat (level : Nat) : (0 : Nat) ≤ room level := Nat.zero_le _
  unfold Reading.next
  split
  case h_1 => exact .start fitting token
  case h_2 => exact ⟨listNode_height fitting.1, fitting.2⟩
  case h_3 => exact .stopAt (listNode_height fitting.1) fitting.2
  case h_4 => exact .start fitting token
  case h_5 =>
    split
    · split
      · exact .stopAt (mapNode_height (List.forall_mem_cons.mpr ⟨flat _, fitting.1⟩)) fitting.2
      · exact fitting
    · exact ⟨mapNode_height fitting.1, fitting.2⟩
    · exact .stopAt (mapNode_height fitting.1) fitting.2
    · exact .stopAt (mapNode_height fitting.1) fitting.2
  case h_6 => exact fitting
  case h_7 =>
    exact .stopAt (mapNode_height (List.forall_mem_cons.mpr ⟨flat _, fitting.1⟩)) fitting.2
  case h_8 _ node items frames =>
    obtain ⟨fit, later, fitting⟩ := fitting
    have all : ∀ inner ∈ node :: items, inner.height ≤ room (frames.length + 1) :=
      List.forall_mem_cons.mpr ⟨fit, later⟩
    split
    · exact ⟨all, fitting⟩
    · exact ⟨listNode_height all, fitting⟩
    · exact .stopAt (listNode_height all) fitting
  case h_9 _ node members name frames =>
    obtain ⟨fit, later, fitting⟩ := fitting
    have all : ∀ member ∈ (name, node) :: members, member.2.height ≤ room (frames.length + 1) :=
      List.forall_mem_cons.mpr ⟨fit, later⟩
    split
    · exact ⟨all, fitting⟩
    · exact ⟨mapNode_height all, fitting⟩
    · exact .stopAt (mapNode_height all) fitting
  case h_10 => exact fitting.1
  case h_11 => exact fitting

theorem Fitting.finish {reading : Reading} (fitting : reading.Fitting) :
    reading.finish.root.height ≤ room 0 := by
  have flat (level : Nat) : (0 : Nat) ≤ room level := Nat.zero_le _
  unfold Reading.finish
  split
  · exact cut_height (flat _) fitting
  · exact cut_height (listNode_height fitting.1) fitting.2
  · exact cut_height (listNode_height fitting.1) fitting.2
  · exact cut_height (mapNode_height fitting.1) fitting.2
  · exact cut_height (mapNode_height fitting.1) fitting.2
  · exact cut_height (mapNode_height (List.forall_mem_cons.mpr ⟨flat _, fitting.1⟩)) fitting.2
  · exact fitting.1
  · obtain ⟨fit, later, fitting⟩ := fitting
    exact cut_height (listNode_height (List.forall_mem_cons.mpr ⟨fit, later⟩)) fitting
  · obtain ⟨fit, later, fitting⟩ := fitting
    exact cut_height (mapNode_height (List.forall_mem_cons.mpr ⟨fit, later⟩)) fitting
  · exact fitting

end Reading

theorem Document.height_ofText (text : String) : (ofText text).root.height < depthLimit := by
  have run (tokens : List Token) (reading : Reading) (fitting : reading.Fitting) :
      (tokens.foldl Reading.next reading).Fitting := by
    induction tokens generalizing reading with
    | nil => exact fitting
    | cons token rest ih => exact ih _ (fitting.next token)
  have bound := (run (tokens (fun _ => false) text.toList) (.value []) trivial).finish
  exact Nat.lt_of_le_of_lt bound (by decide)

end ControlPanel.Json
