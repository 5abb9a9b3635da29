import ControlPanel.Json.Reader
import ControlPanel.Proofs.Json.Spelling

/-!
# Reading what was written

The document of a text that spells a value is the node of the value
(`Json.Document.ofText_spelled`), as long as no more than 127 of its containers stand inside one
another. The compact text spells a value whose numbers are whole ones of 64 bits
(`Json.Document.ofText_render`).
-/

namespace ControlPanel.Json

mutual

def depth : Json → Nat
  | .null | .bool _ | .number _ | .string _ => 0
  | .array items => itemsDepth items + 1
  | .object members => membersDepth members + 1

def itemsDepth : List Json → Nat
  | [] => 0
  | v :: rest => max v.depth (itemsDepth rest)

def membersDepth : List (String × Json) → Nat
  | [] => 0
  | (_, v) :: rest => max v.depth (membersDepth rest)

end

/-! ## Frames -/

theorem isDeep_eq_false {frames : List Frame} (shallow : frames.length < depthLimit - 1) :
    isDeep frames = false := by
  have none : frames.drop (depthLimit - 2) = [] := List.drop_eq_nil_of_le (by
    simp only [depthLimit] at *; omega)
  rw [isDeep, none]
  rfl

theorem listNode_eq {frames : List Frame} (shallow : frames.length < depthLimit - 1)
    (items : List Node) (ending : ListEnd) :
    listNode frames items ending = .array false items.reverse ending := by
  rw [listNode, isDeep_eq_false shallow]

theorem mapNode_eq {frames : List Frame} (shallow : frames.length < depthLimit - 1)
    (members : List Member) (ending : MapEnd Node) :
    mapNode frames members ending = .object false members.reverse ending := by
  rw [mapNode, isDeep_eq_false shallow]

theorem symbols_ne_closeList (v : Json) :
    ∃ first later, v.symbols = first :: later ∧ first ≠ .closeList := by
  cases v with
  | _ => exact ⟨_, _, rfl, nofun⟩

namespace Reading

theorem foldl_item (v : Json) (first : Bool) (items : List Node) (frames : List Frame) :
    v.symbols.foldl next (.item first items frames) =
      v.symbols.foldl next (.value (.list items :: frames)) := by
  obtain ⟨token, later, same, opens⟩ := v.symbols_ne_closeList
  rw [same, List.foldl_cons, List.foldl_cons]
  congr 1
  cases token with
  | closeList => exact absurd rfl opens
  | _ => cases first <;> rfl

mutual

theorem foldl_symbols (v : Json) (frames : List Frame)
    (shallow : frames.length + v.depth < depthLimit) :
    v.symbols.foldl next (.value frames) = .separator (.ofJson v) frames := by
  match v with
  | .null | .bool _ | .number _ | .string _ => rfl
  | .array items =>
    rw [depth] at shallow
    rw [symbols, List.foldl_cons]
    change List.foldl next (.item true [] frames) _ = _
    rw [foldl_itemSymbols items true [] frames (.inl rfl) (by omega), listNode_eq (by omega)]
    simp [Node.ofJson]
  | .object members =>
    rw [depth] at shallow
    rw [symbols, List.foldl_cons]
    change List.foldl next (.key true [] frames) _ = _
    rw [foldl_memberSymbols members true [] frames (.inl rfl) (by omega), mapNode_eq (by omega)]
    simp [Node.ofJson]

theorem foldl_itemSymbols (items : List Json) (first : Bool) (read : List Node)
    (frames : List Frame) (more : first = true ∨ items ≠ [])
    (shallow : frames.length + 1 + itemsDepth items < depthLimit) :
    (itemSymbols items ++ [Token.closeList]).foldl next (.item first read frames) =
      .separator (listNode frames ((Node.ofItems items).reverse ++ read) .closed) frames := by
  match items with
  | [] =>
    rw [more.resolve_right (· rfl)]
    rfl
  | v :: later =>
    rw [itemsDepth] at shallow
    have head : v.symbols.foldl next (.item first read frames) =
        .separator (.ofJson v) (.list read :: frames) := by
      rw [foldl_item]
      exact foldl_symbols v (.list read :: frames) (by rw [List.length_cons]; omega)
    cases later with
    | nil =>
      rw [itemSymbols, List.foldl_append, head]
      rfl
    | cons w later =>
      rw [itemSymbols, List.append_assoc, List.foldl_append, head, List.cons_append,
        List.foldl_cons]
      · change List.foldl next (.item false (.ofJson v :: read) frames) _ = _
        rw [foldl_itemSymbols (w :: later) false _ frames (.inr nofun) (by omega)]
        simp [Node.ofItems]
      · nofun

theorem foldl_memberSymbols (members : List (String × Json)) (first : Bool) (read : List Member)
    (frames : List Frame) (more : first = true ∨ members ≠ [])
    (shallow : frames.length + 1 + membersDepth members < depthLimit) :
    (memberSymbols members ++ [Token.closeMap]).foldl next (.key first read frames) =
      .separator (mapNode frames ((Node.ofMembers members).reverse ++ read) .closed) frames := by
  match members with
  | [] =>
    rw [more.resolve_right (· rfl)]
    rfl
  | (k, v) :: later =>
    rw [membersDepth] at shallow
    have head : v.symbols.foldl next (.value (.map read ⟨.ok k, none⟩ :: frames)) =
        .separator (.ofJson v) (.map read ⟨.ok k, none⟩ :: frames) :=
      foldl_symbols v (.map read ⟨.ok k, none⟩ :: frames) (by rw [List.length_cons]; omega)
    have named : next (next (.key first read frames) (.string ⟨.ok k, none⟩)) .colon =
        .value (.map read ⟨.ok k, none⟩ :: frames) := by
      cases first <;> rfl
    cases later with
    | nil =>
      rw [memberSymbols, List.cons_append, List.cons_append, List.foldl_cons, List.foldl_cons,
        named, List.foldl_append, head]
      rfl
    | cons w later =>
      rw [memberSymbols, List.cons_append, List.cons_append, List.append_assoc, List.foldl_cons,
        List.foldl_cons, named, List.foldl_append, head, List.cons_append, List.foldl_cons]
      · change List.foldl next (.key false ((⟨.ok k, none⟩, .ofJson v) :: read) frames) _ = _
        rw [foldl_memberSymbols (w :: later) false _ frames (.inr nofun) (by omega)]
        simp [Node.ofMembers]
      · nofun

end

end Reading

namespace Document

theorem ofText_spelled {text : String} {v : Json} (spells : Spells text v)
    (shallow : v.depth < depthLimit) : ofText text = ⟨.ofJson v, false⟩ := by
  rw [ofText, ofChars, ofTokens, tokens_spelled spells,
    Reading.foldl_symbols v [] (by simpa using shallow)]
  rfl

theorem ofText_render {v : Json} (whole : v.Whole) (shallow : v.depth < depthLimit) :
    ofText v.render = ⟨.ofJson v, false⟩ :=
  ofText_spelled (spells_render whole) shallow

end Document

end ControlPanel.Json
