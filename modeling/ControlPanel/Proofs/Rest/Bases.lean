import Mathlib.Data.List.TakeWhile
import ControlPanel.Rest.Address

/-!
# Bases that can be used

Whether an address can be read is settled by its base: what is asked for under `/api` does not
matter (`Address.ofText?_isSome`). The host ends at the first slash of `/api` at the latest, and
neither the edges nor the characters that are dropped reach over that slash.
-/

namespace ControlPanel.Address

/-! ## The steps of reading -/

def apiRoot : List Char := "/api".toList

def trimmed (cs : List Char) : List Char :=
  (Text.dropEndWhile isEdge (cs.dropWhile isEdge)).filter (!isDropped ·)

def ofParts? (scheme : List Char) : List Char → Option Address
  | '/' :: '/' :: rest =>
    if isScheme scheme then ofRest? (rest.dropWhile isSlash)
    else none
  | _ => none

def ofTrimmed? (cs : List Char) : Option Address :=
  let scheme := cs.takeWhile (· != ':')
  match cs.drop scheme.length with
  | ':' :: rest => ofParts? scheme rest
  | _ => none

theorem ofText?_eq (text : String) : ofText? text = ofTrimmed? (trimmed text.toList) := by
  unfold ofText? ofTrimmed? ofParts? trimmed
  dsimp only
  split
  · rename_i found
    rw [found]
    rfl
  · rename_i other
    split
    · rename_i found
      split
      · exact absurd found (other _)
      · rfl
    · rfl

/-! ## What stands behind `/api` -/

theorem trimmed_append (before : List Char) : ∃ before', ∀ behind, ∃ behind',
    trimmed (before ++ (apiRoot ++ '/' :: behind)) = before' ++ (apiRoot ++ '/' :: behind') := by
  refine ⟨(before.dropWhile isEdge).filter (!isDropped ·), fun behind => ?_⟩
  have starts : (before ++ (apiRoot ++ '/' :: behind)).dropWhile isEdge =
      before.dropWhile isEdge ++ apiRoot ++ '/' :: behind := by
    rw [List.dropWhile_append, List.append_assoc]
    split
    · rename_i empty
      rw [List.isEmpty_iff.mp empty]
      rfl
    · rfl
  have ends (l : List Char) : Text.dropEndWhile isEdge (l ++ '/' :: behind) =
      l ++ '/' :: Text.dropEndWhile isEdge behind := by
    have solid : isEdge '/' = false := rfl
    rw [Text.dropEndWhile, Text.dropEndWhile, List.reverse_append, List.reverse_cons,
      List.append_assoc, List.dropWhile_append]
    split
    · rename_i empty
      rw [List.isEmpty_iff.mp empty]
      simp [solid]
    · simp
  refine ⟨(Text.dropEndWhile isEdge behind).filter (!isDropped ·), ?_⟩
  rw [trimmed, starts, ends]
  simp [apiRoot, isDropped]

theorem ofRest?_isSome {authority : List Char} (solid : ∃ c ∈ authority, isSlash c = false)
    (behind behind' : List Char) :
    (ofRest? ((authority ++ '/' :: behind).dropWhile isSlash)).isSome =
      (ofRest? ((authority ++ '/' :: behind').dropWhile isSlash)).isSome := by
  let within (c : Char) : Bool := !(isSlash c || c = '?' || c = '#')
  have opens (behind : List Char) : (authority ++ '/' :: behind).dropWhile isSlash =
      authority.dropWhile isSlash ++ '/' :: behind := by
    obtain ⟨c, listed, plain⟩ := solid
    rw [List.dropWhile_append, if_neg]
    intro empty
    have all := List.dropWhile_eq_nil_iff.mp (List.isEmpty_iff.mp empty) c listed
    cases plain.symm.trans all
  have host (behind : List Char) : (authority.dropWhile isSlash ++ '/' :: behind).takeWhile within =
      (authority.dropWhile isSlash).takeWhile within := by
    rw [List.takeWhile_append]
    split
    · rename_i whole
      rw [(List.takeWhile_prefix _).eq_of_length whole]
      exact List.append_nil _
    · rfl
  have told (rest : List Char) : (ofRest? rest).isSome = isAuthority (rest.takeWhile within) := by
    rw [ofRest?]
    dsimp only
    split
    · rename_i valid
      exact valid.symm
    · rename_i invalid
      exact ((Bool.not_eq_true _).mp invalid).symm
  rw [told, told, opens, opens, host, host]

theorem ofParts?_isSome (scheme before behind behind' : List Char) :
    (ofParts? scheme (before ++ (apiRoot ++ '/' :: behind))).isSome =
      (ofParts? scheme (before ++ (apiRoot ++ '/' :: behind'))).isSome := by
  obtain ⟨a, b, rest, split⟩ : ∃ a b rest, before ++ apiRoot = a :: b :: rest := by
    match before with
    | [] => exact ⟨_, _, _, rfl⟩
    | [a] => exact ⟨_, _, _, rfl⟩
    | a :: b :: rest => exact ⟨_, _, _, rfl⟩
  have solid : ∃ c ∈ rest, isSlash c = false := by
    have last : ((before ++ apiRoot).drop 2).getLast? = some 'i' := by
      simp [apiRoot, List.getLast?_drop]
    rw [split] at last
    exact ⟨'i', List.mem_of_getLast? last, rfl⟩
  rw [← List.append_assoc, ← List.append_assoc, split]
  simp only [List.cons_append]
  by_cases slashes : a = '/' ∧ b = '/'
  · obtain ⟨rfl, rfl⟩ := slashes
    simp only [ofParts?]
    split
    · exact ofRest?_isSome solid behind behind'
    · rfl
  · have other (rest : List Char) : ofParts? scheme (a :: b :: rest) = none := by
      unfold ofParts?
      split <;> simp_all
    rw [other, other]

theorem not_scheme_of_slash {cs : List Char} (slash : '/' ∈ cs) : isScheme cs ≠ true := by
  intro known
  have lower : '/' ∈ cs.map Char.toLower := List.mem_map_of_mem slash
  rcases List.mem_cons.mp (of_decide_eq_true known) with same | known
  · simp [same] at lower
  · simp [List.mem_singleton.mp known] at lower

theorem ofTrimmed?_isSome (before behind behind' : List Char) :
    (ofTrimmed? (before ++ (apiRoot ++ '/' :: behind))).isSome =
      (ofTrimmed? (before ++ (apiRoot ++ '/' :: behind'))).isSome := by
  by_cases colon : ':' ∈ before
  · obtain ⟨scheme, more, rfl, first⟩ := List.eq_append_cons_of_mem colon
    have plain : ∀ c ∈ scheme, (c != ':') = true := fun c listed => by
      simpa using fun same : c = ':' => first (same ▸ listed)
    have read (behind : List Char) :
        ofTrimmed? (scheme ++ ':' :: more ++ (apiRoot ++ '/' :: behind)) =
          ofParts? scheme (more ++ (apiRoot ++ '/' :: behind)) := by
      have taken : (scheme ++ ':' :: (more ++ (apiRoot ++ '/' :: behind))).takeWhile (· != ':') =
          scheme := by
        rw [List.takeWhile_append_of_pos plain]
        simp
      rw [List.append_assoc, List.cons_append, ofTrimmed?]
      simp only [taken, List.drop_left]
    rw [read, read]
    exact ofParts?_isSome scheme more behind behind'
  · -- then the scheme would reach over the slash
    have none (behind : List Char) : ofTrimmed? (before ++ (apiRoot ++ '/' :: behind)) = none := by
      have held : ∀ c ∈ before ++ apiRoot, (c != ':') = true := by
        intro c listed
        rcases List.mem_append.mp listed with here | root
        · simpa using fun same : c = ':' => colon (same ▸ here)
        · simp only [apiRoot, String.reduceToList, List.mem_cons, List.not_mem_nil] at root
          grind
      have slash : '/' ∈ (before ++ (apiRoot ++ '/' :: behind)).takeWhile (· != ':') := by
        rw [← List.append_assoc, List.takeWhile_append_of_pos held]
        simp
      rw [ofTrimmed?]
      split
      · unfold ofParts?
        split
        · rw [if_neg (not_scheme_of_slash slash)]
        · rfl
      · rfl
    rw [none, none]

theorem ofText?_isSome (base path path' : String) :
    (ofText? (base ++ ("/api/" ++ path))).isSome =
      (ofText? (base ++ ("/api/" ++ path'))).isSome := by
  have parted (path : String) : (base ++ ("/api/" ++ path)).toList =
      base.toList ++ (apiRoot ++ '/' :: path.toList) := by
    simp [apiRoot]
  obtain ⟨before, trims⟩ := trimmed_append base.toList
  obtain ⟨behind, here⟩ := trims path.toList
  obtain ⟨behind', there⟩ := trims path'.toList
  rw [ofText?_eq, ofText?_eq, parted, parted, here, there]
  exact ofTrimmed?_isSome before behind behind'

end ControlPanel.Address
