import ControlPanel.Dashboard.Request

/-!
# Looking into documents

What stands under a key of an object, and the positions and grids that a document tells. An object
written from pairs has under a key what the last pair with that key has (`Json.under?_ofMembers`),
so what is written can be read back (`Position.ofJson?_encode`, `Grid.ofJson?_encode`).
-/

namespace ControlPanel

namespace Keyed

variable {α : Type}

theorem find?_insert (map : Keyed α) (key : String) (value : α) (other : String) :
    (map.insert key value).find? other = if key = other then some value else map.find? other := by
  induction map with
  | nil => rfl
  | cons pair rest ih =>
    obtain ⟨k, v⟩ := pair
    unfold insert
    split
    · rfl
    · split
      · rename_i same
        subst same
        simp only [find?]
        split <;> rfl
      · rename_i ne
        simp only [find?, ih]
        grind

end Keyed

namespace Json

def under? (j : Json) (key : String) : Option Json :=
  match j with
  | .object members => Keyed.find? members key
  | _ => none

def latest (key : String) (pairs : List (String × Json)) (found : Option Json) : Option Json :=
  pairs.foldl (fun found pair => if pair.1 = key then some pair.2 else found) found

@[simp] theorem latest_nil (key : String) (found : Option Json) : latest key [] found = found := rfl

@[simp] theorem latest_cons (key : String) (pair : String × Json) (pairs : List (String × Json))
    (found : Option Json) : latest key (pair :: pairs) found =
      latest key pairs (if pair.1 = key then some pair.2 else found) := rfl

@[simp] theorem latest_append (key : String) (pairs pairs' : List (String × Json))
    (found : Option Json) :
    latest key (pairs ++ pairs') found = latest key pairs' (latest key pairs found) :=
  List.foldl_append

@[simp] theorem latest_member? {α : Type} (key k : String) (write : α → Json) (value : Option α)
    (found : Option Json) : latest key (member? k write value) found =
      if k = key then (value.map write).or found else found := by
  cases value with
  | none => simp [member?]
  | some a => simp [member?]

theorem under?_ofMembers (pairs : List (String × Json)) (key : String) :
    (ofMembers pairs).under? key = latest key pairs none := by
  have built (members : Members) : Keyed.find? (pairs.foldl (fun map pair =>
      Keyed.insert map pair.1 pair.2) members) key = latest key pairs (members.find? key) := by
    induction pairs generalizing members with
    | nil => rfl
    | cons pair pairs ih => rw [List.foldl_cons, ih, Keyed.find?_insert, latest_cons]
  exact built []

def word? (j : Json) (key : String) : Option UInt32 :=
  ((j.under? key).bind natural?).map UInt32.ofNat

theorem word?_eq_some {j : Json} {key : String} {word : UInt32}
    (here : j.under? key = some (.nat word.toNat)) : j.word? key = some word := by
  have small : (word.toNat : Int) ≤ Number.maxInt := by
    have bound := word.toNat_lt
    have largest : Number.maxInt = 2 ^ 64 - 1 := rfl
    omega
  simp [word?, here, natural?, nat, Number.natural?, small]

end Json

/-! ## Positions and grids -/

def Position.ofJson? (j : Json) : Option Position := do
  return ⟨← j.word? "x", ← j.word? "y", ← j.word? "width", ← j.word? "height"⟩

def Grid.ofJson? (j : Json) : Option Grid := do
  return ⟨← j.word? "columns", ← j.word? "rows", ← j.word? "cell_width", ← j.word? "cell_height",
    ← j.word? "gap"⟩

theorem Position.ofJson?_eq_some {j : Json} {p : Position}
    (x : j.under? "x" = some (.nat p.x.toNat)) (y : j.under? "y" = some (.nat p.y.toNat))
    (width : j.under? "width" = some (.nat p.width.toNat))
    (height : j.under? "height" = some (.nat p.height.toNat)) : Position.ofJson? j = some p := by
  simp [ofJson?, Json.word?_eq_some x, Json.word?_eq_some y, Json.word?_eq_some width,
    Json.word?_eq_some height]

theorem Position.ofJson?_encode (p : Position) : Position.ofJson? p.encode = some p := by
  apply Position.ofJson?_eq_some <;> simp [encode, Json.under?_ofMembers]

theorem LayoutEntry.ofJson?_encode (e : LayoutEntry) :
    Position.ofJson? e.encode = some e.position := by
  apply Position.ofJson?_eq_some <;> simp [encode, Json.under?_ofMembers]

theorem Grid.ofJson?_encode (g : Grid) : Grid.ofJson? g.encode = some g := by
  have columns : g.encode.word? "columns" = some g.columns :=
    Json.word?_eq_some (by simp [encode, Json.under?_ofMembers])
  have rows : g.encode.word? "rows" = some g.rows :=
    Json.word?_eq_some (by simp [encode, Json.under?_ofMembers])
  have cellWidth : g.encode.word? "cell_width" = some g.cellWidth :=
    Json.word?_eq_some (by simp [encode, Json.under?_ofMembers])
  have cellHeight : g.encode.word? "cell_height" = some g.cellHeight :=
    Json.word?_eq_some (by simp [encode, Json.under?_ofMembers])
  have gap : g.encode.word? "gap" = some g.gap :=
    Json.word?_eq_some (by simp [encode, Json.under?_ofMembers])
  simp [ofJson?, columns, rows, cellWidth, cellHeight, gap]

end ControlPanel
