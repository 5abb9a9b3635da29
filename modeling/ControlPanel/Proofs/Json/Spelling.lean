import ControlPanel.Proofs.Json.Scan

/-!
# Texts of a value

The texts that spell a value (`Json.Spells`): with blanks around every token, any characters of its
strings escaped, and the members of its objects in their order. All of them are cut into the same
tokens (`Json.tokens_spelled`); the compact text is one of them.
-/

namespace ControlPanel.Json

/-! ## Spellings -/

def Blanks (text : List Char) : Prop := ∀ c ∈ text, isBlank c = true

def Padded (P : List Char → Prop) (text : List Char) : Prop :=
  ∃ before inner after, Blanks before ∧ P inner ∧ Blanks after ∧ text = before ++ (inner ++ after)

def Joined (mark : Char) (P Q : List Char → Prop) (text : List Char) : Prop :=
  ∃ left right, P left ∧ Q right ∧ text = left ++ mark :: right

def Enclosed (opening closing : Char) (P : List Char → Prop) (text : List Char) : Prop :=
  ∃ inner, P inner ∧ text = opening :: (inner ++ [closing])

mutual

/-- The texts of a value, without blanks around them. The numbers are whole ones of 64 bits. -/
def Spelled : Json → List Char → Prop
  | .null, text => text = ['n', 'u', 'l', 'l']
  | .bool true, text => text = ['t', 'r', 'u', 'e']
  | .bool false, text => text = ['f', 'a', 'l', 's', 'e']
  | .number (.int i), text => IsWord i ∧ text = (Number.int i).text.toList
  | .number (.float _), _ => False
  | .string s, text => Quotes s text
  | .array items, text => Enclosed '[' ']' (SpelledItems items) text
  | .object members, text => Enclosed '{' '}' (SpelledMembers members) text

def SpelledItems : List Json → List Char → Prop
  | [], text => Blanks text
  | [v], text => Padded (Spelled v) text
  | v :: rest, text => Joined ',' (Padded (Spelled v)) (SpelledItems rest) text

def SpelledMembers : List (String × Json) → List Char → Prop
  | [], text => Blanks text
  | [(k, v)], text => Joined ':' (Padded (Quotes k)) (Padded (Spelled v)) text
  | (k, v) :: rest, text =>
    Joined ',' (Joined ':' (Padded (Quotes k)) (Padded (Spelled v))) (SpelledMembers rest) text

end

def Spells (text : String) (v : Json) : Prop := Padded v.Spelled text.toList

/-! ## Tokens -/

mutual

def symbols : Json → List Token
  | .null => [.null]
  | .bool b => [.bool b]
  | .number n => [.number ⟨.ok n, none⟩]
  | .string s => [.string ⟨.ok s, none⟩]
  | .array items => .openList :: (itemSymbols items ++ [.closeList])
  | .object members => .openMap :: (memberSymbols members ++ [.closeMap])

def itemSymbols : List Json → List Token
  | [] => []
  | [v] => v.symbols
  | v :: rest => v.symbols ++ .comma :: itemSymbols rest

def memberSymbols : List (String × Json) → List Token
  | [] => []
  | [(k, v)] => .string ⟨.ok k, none⟩ :: .colon :: v.symbols
  | (k, v) :: rest =>
    .string ⟨.ok k, none⟩ :: .colon :: (v.symbols ++ .comma :: memberSymbols rest)

end

def Cuts (P : List Char → Prop) (symbols : List Token) : Prop :=
  ∀ text, P text → ∀ rest, Ends rest →
    tokens (fun _ => false) (text ++ rest) = symbols ++ tokens (fun _ => false) rest

def Marks (c : Char) (token : Token) : Prop :=
  ∀ rest, tokens (fun _ => false) (c :: rest) = token :: tokens (fun _ => false) rest

theorem marks_comma : Marks ',' .comma := fun _ => tokens_of_scanned rfl rfl

theorem marks_colon : Marks ':' .colon := fun _ => tokens_of_scanned rfl rfl

variable {P Q : List Char → Prop} {left right : List Token}

theorem tokens_blanks {isStray : Char → Bool} {text : List Char} (blank : Blanks text)
    (rest : List Char) : tokens isStray (text ++ rest) = tokens isStray rest := by
  induction text with
  | nil => rfl
  | cons c text ih =>
    rw [List.cons_append, tokens, if_pos (blank c (.head _))]
    exact ih fun c listed => blank c (.tail _ listed)

theorem Ends.mark {c : Char} (mark : c ∈ [',', ':', ']', '}']) (rest : List Char) :
    Ends (c :: rest) :=
  .inr ⟨c, List.mem_append_left [' ', '\t', '\n', '\r'] mark, rest, rfl⟩

theorem Ends.blanks {text rest : List Char} (blank : Blanks text) (ends : Ends rest) :
    Ends (text ++ rest) := by
  cases text with
  | nil => exact ends
  | cons c text =>
    have here : isBlank c = true := blank c (.head _)
    simp only [isBlank, Bool.or_eq_true, decide_eq_true_eq] at here
    exact .inr ⟨c, by grind, text ++ rest, rfl⟩

theorem cuts_blanks : Cuts Blanks [] := fun _ blank rest _ => tokens_blanks blank rest

theorem Cuts.padded (cuts : Cuts P left) : Cuts (Padded P) left := by
  rintro _ ⟨before, inner, after, blank, spelled, blank', rfl⟩ rest ends
  rw [List.append_assoc, tokens_blanks blank, List.append_assoc,
    cuts inner spelled _ (.blanks blank' ends), tokens_blanks blank']

theorem Cuts.joined {mark : Char} {token : Token} (known : mark ∈ [',', ':', ']', '}'])
    (marks : Marks mark token) (cuts : Cuts P left) (cuts' : Cuts Q right) :
    Cuts (Joined mark P Q) (left ++ token :: right) := by
  rintro _ ⟨first, later, spelled, spelled', rfl⟩ rest ends
  rw [List.append_assoc, List.cons_append, cuts first spelled _ (.mark known _), marks,
    cuts' later spelled' rest ends, List.append_assoc, List.cons_append]

theorem Cuts.enclosed {opening closing : Char} {first last : Token}
    (known : closing ∈ [',', ':', ']', '}']) (opens : Marks opening first)
    (closes : Marks closing last) (cuts : Cuts P left) :
    Cuts (Enclosed opening closing P) (first :: (left ++ [last])) := by
  rintro _ ⟨inner, spelled, rfl⟩ rest ends
  rw [List.cons_append, opens, List.append_assoc, List.singleton_append,
    cuts inner spelled _ (.mark known rest), closes]
  simp

theorem cuts_quotes (s : String) : Cuts (Quotes s) [.string ⟨.ok s, none⟩] :=
  fun _ quotes rest _ => tokens_string quotes rest

mutual

theorem cuts_spelled (v : Json) : Cuts v.Spelled v.symbols := by
  -- on the value: spellings and tokens of a value are put together from its parts the same way
  match v with
  | .null =>
    rintro _ rfl rest -
    exact tokens_of_scanned rfl rfl
  | .bool b =>
    cases b <;>
    · rintro _ rfl rest -
      exact tokens_of_scanned rfl rfl
  | .number (.int i) =>
    rintro _ ⟨word, rfl⟩ rest ends
    exact tokens_number word ends
  | .number (.float x) => exact fun _ spelled => spelled.elim
  | .string s => exact cuts_quotes s
  | .array items =>
    exact (cuts_items items).enclosed (by decide) (fun _ => tokens_of_scanned rfl rfl)
      fun _ => tokens_of_scanned rfl rfl
  | .object members =>
    exact (cuts_members members).enclosed (by decide) (fun _ => tokens_of_scanned rfl rfl)
      fun _ => tokens_of_scanned rfl rfl

theorem cuts_items (items : List Json) : Cuts (SpelledItems items) (itemSymbols items) := by
  match items with
  | [] => exact cuts_blanks
  | [v] => exact (cuts_spelled v).padded
  | v :: w :: later =>
    rw [itemSymbols]
    · exact (cuts_spelled v).padded.joined (by decide) marks_comma (cuts_items (w :: later))
    · nofun

theorem cuts_members (members : List (String × Json)) :
    Cuts (SpelledMembers members) (memberSymbols members) := by
  match members with
  | [] => exact cuts_blanks
  | [(k, v)] =>
    exact (cuts_quotes k).padded.joined (by decide) marks_colon (cuts_spelled v).padded
  | (k, v) :: w :: later =>
    rw [memberSymbols]
    · have first := (cuts_quotes k).padded.joined (by decide) marks_colon (cuts_spelled v).padded
      exact first.joined (by decide) marks_comma (cuts_members (w :: later))
    · nofun

end

/-! ## The compact text -/

mutual

def Whole : Json → Prop
  | .null | .bool _ | .string _ => True
  | .number (.int i) => IsWord i
  | .number (.float _) => False
  | .array items => WholeItems items
  | .object members => WholeMembers members

def WholeItems : List Json → Prop
  | [] => True
  | v :: rest => v.Whole ∧ WholeItems rest

def WholeMembers : List (String × Json) → Prop
  | [] => True
  | (_, v) :: rest => v.Whole ∧ WholeMembers rest

end

theorem hexValue4_control {n : Nat} (control : n < 32) :
    hexValue4 '0' '0' (hexDigit (n / 16)) (hexDigit (n % 16)) = some n := by
  have all : ∀ n : Fin 32, hexValue4 '0' '0' (hexDigit (n / 16)) (hexDigit (n % 16)) =
      some n.val := by decide
  exact all ⟨n, control⟩

theorem Escapes.escapeChar {cs s : List Char} (escapes : Escapes cs s) (c : Char) :
    Escapes (escapeChar c ++ cs) (c :: s) := by
  unfold Json.escapeChar
  split
  case h_8 noQuote noEscape _ _ _ _ _ =>
    split
    · rename_i control
      have unit := Escapes.unit (hexValue4_control control) (by unfold IsSurrogate; omega) escapes
      rwa [Char.ofNat_toNat] at unit
    · rename_i solid
      exact .plain (Nat.not_lt.mp solid) noQuote noEscape escapes
  all_goals exact .letter rfl escapes

theorem quotes_quote (s : String) : Quotes s (quote s) := by
  refine ⟨s.toList.flatMap Json.escapeChar, ?_, rfl⟩
  induction s.toList with
  | nil => exact .nil
  | cons c cs ih => exact ih.escapeChar c

theorem padded_of {text : List Char} (spelled : P text) : Padded P text :=
  ⟨[], text, [], nofun, spelled, nofun, (List.append_nil text).symm⟩

mutual

theorem spelled_chars (v : Json) (whole : v.Whole) : v.Spelled v.chars := by
  match v with
  | .null => rfl
  | .bool b => cases b <;> rfl
  | .number (.int i) => exact ⟨whole, rfl⟩
  | .number (.float x) => exact whole
  | .string s => exact quotes_quote s
  | .array items => exact ⟨_, spelled_itemsChars items whole, rfl⟩
  | .object members => exact ⟨_, spelled_membersChars members whole, rfl⟩

theorem spelled_itemsChars (items : List Json) (whole : WholeItems items) :
    SpelledItems items (itemsChars items) := by
  match items with
  | [] => exact nofun
  | [v] => exact padded_of (spelled_chars v whole.1)
  | v :: w :: later =>
    rw [SpelledItems, itemsChars]
    · exact ⟨_, _, padded_of (spelled_chars v whole.1),
        spelled_itemsChars (w :: later) whole.2, rfl⟩
    all_goals nofun

theorem spelled_membersChars (members : List (String × Json)) (whole : WholeMembers members) :
    SpelledMembers members (membersChars members) := by
  match members with
  | [] => exact nofun
  | [(k, v)] => exact ⟨_, _, padded_of (quotes_quote k), padded_of (spelled_chars v whole.1), rfl⟩
  | (k, v) :: w :: later =>
    rw [SpelledMembers, membersChars]
    · refine ⟨quote k ++ ':' :: v.chars, _, ?_, spelled_membersChars (w :: later) whole.2, ?_⟩
      · exact ⟨_, _, padded_of (quotes_quote k), padded_of (spelled_chars v whole.1), rfl⟩
      · simp
    all_goals nofun

end

theorem spells_render {v : Json} (whole : v.Whole) : Spells v.render v := by
  rw [Spells, render, String.toList_ofList]
  exact padded_of (spelled_chars v whole)

theorem tokens_spelled {text : String} {v : Json} (spells : Spells text v) :
    tokens (fun _ => false) text.toList = v.symbols := by
  have cut := (cuts_spelled v).padded text.toList spells [] (.inl rfl)
  rwa [List.append_nil, tokens, List.append_nil] at cut

end ControlPanel.Json
