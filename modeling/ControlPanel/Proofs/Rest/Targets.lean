import Mathlib.Data.List.Infix
import Mathlib.Data.List.TakeWhile
import ControlPanel.Rest.Address

/-!
# Paths that are sent as they stand

A part of a path that has no slash, no character with a meaning of its own and no dots for a name
is sent as it stands. Under a base that is an address without a query or a number sign, a path of
such parts comes behind one and the same stem (`Address.ofText?_path`).
-/

namespace ControlPanel.Address

def isPlain (c : Char) : Bool :=
  0x20 < c.toNat && c.toNat < 0x7F && !isSlash c && !pathSpecials.contains c

structure IsSegment (part : String) : Prop where
  plain : ∀ c ∈ part.toList, isPlain c = true
  here : dots? part.toList ≠ some 1
  up : dots? part.toList ≠ some 2

/-- An address that ends before a query, and in which nothing is dropped. -/
structure IsBase (base : String) : Prop where
  read : ∃ address, ofText? base = some address
  plain : ∀ c ∈ base.toList, isEdge c = false ∧ c ≠ '?' ∧ c ≠ '#'

def pathOf (parts : List String) : String := "/" ++ "/".intercalate parts

/-! ## Parts between slashes -/

variable {part : String} {parts : List String}

theorem segments_ne_nil (cs : List Char) : segments cs ≠ [] := by
  cases cs with
  | nil => exact List.cons_ne_nil _ _
  | cons c rest =>
    rw [segments]
    split
    · exact List.cons_ne_nil _ _
    · split <;> exact List.cons_ne_nil _ _

theorem segments_append (before after : List Char) :
    segments (before ++ '/' :: after) = segments before ++ segments after := by
  induction before with
  | nil => rfl
  | cons c before ih =>
    rw [List.cons_append, segments, segments]
    split
    · rw [ih, List.cons_append]
    · rw [ih]
      cases parted : segments before with
      | nil => exact absurd parted (segments_ne_nil before)
      | cons segment more => rfl

theorem IsSegment.not_slash (plain : IsSegment part) {c : Char} (listed : c ∈ part.toList) :
    isSlash c = false := by
  have := plain.plain c listed
  grind [isPlain]

theorem segments_of_not_slash {cs : List Char} (plain : ∀ c ∈ cs, isSlash c = false) :
    segments cs = [cs] := by
  induction cs with
  | nil => rfl
  | cons c rest ih =>
    rw [List.forall_mem_cons] at plain
    rw [segments, plain.1, ih plain.2]
    rfl

theorem segments_pathOf (nonempty : parts ≠ []) (plain : ∀ part ∈ parts, IsSegment part) :
    segments ("/".intercalate parts).toList = parts.map String.toList := by
  induction parts with
  | nil => exact absurd rfl nonempty
  | cons part rest ih =>
    rw [List.forall_mem_cons] at plain
    have alone : segments part.toList = [part.toList] :=
      segments_of_not_slash fun c listed => plain.1.not_slash listed
    cases rest with
    | nil => simpa using alone
    | cons next rest =>
      have split : ("/".intercalate (part :: next :: rest)).toList =
          part.toList ++ '/' :: ("/".intercalate (next :: rest)).toList := by
        simp [String.intercalate_cons_cons]
      rw [split, segments_append, alone, ih (List.cons_ne_nil _ _) plain.2]
      rfl

/-! ## Resolving -/

def passed (before : List (List Char)) (segment : List Char) : List (List Char) :=
  match dots? segment with
  | some 1 => before
  | some 2 => goUp before
  | _ => segment :: before

theorem resolveFrom_cons (before : List (List Char)) (segment : List Char)
    {rest : List (List Char)} (nonempty : rest ≠ []) :
    resolveFrom before (segment :: rest) = resolveFrom (passed before segment) rest := by
  rw [resolveFrom, if_neg]
  · rfl
  · rintro ⟨empty, -⟩
    exact nonempty (List.isEmpty_iff.mp empty)

theorem IsSegment.resolveFrom_cons (plain : IsSegment part) (before rest : List (List Char)) :
    resolveFrom before (part.toList :: rest) = resolveFrom (part.toList :: before) rest := by
  rw [resolveFrom, if_neg]
  · split
    · exact absurd ‹_› plain.here
    · exact absurd ‹_› plain.up
    · rfl
  · rintro ⟨-, here | up⟩
    · exact plain.here here
    · exact plain.up up

theorem resolveFrom_segments (plain : ∀ part ∈ parts, IsSegment part) (before : List (List Char)) :
    resolveFrom before (parts.map String.toList) = before.reverse ++ parts.map String.toList := by
  induction parts generalizing before with
  | nil => exact (List.append_nil _).symm
  | cons part rest ih =>
    rw [List.forall_mem_cons] at plain
    rw [List.map_cons, plain.1.resolveFrom_cons, ih plain.2, List.reverse_cons, List.append_assoc]
    rfl

theorem resolveFrom_append (before segments : List (List Char)) :
    ∃ resolved, ∀ parts : List String, parts ≠ [] → (∀ part ∈ parts, IsSegment part) →
      resolveFrom before (segments ++ parts.map String.toList) =
        resolved ++ parts.map String.toList := by
  induction segments generalizing before with
  | nil => exact ⟨_, fun parts _ plain => resolveFrom_segments plain before⟩
  | cons segment rest ih =>
    obtain ⟨resolved, resolves⟩ := ih (passed before segment)
    refine ⟨resolved, fun parts nonempty plain => ?_⟩
    have more : rest ++ parts.map String.toList ≠ [] := by simp [nonempty]
    rw [List.cons_append, resolveFrom_cons before segment more, resolves parts nonempty plain]

theorem IsSegment.encode (plain : IsSegment part) :
    String.ofList (part.toList.flatMap (encodeChar pathSpecials)) = part := by
  have same (c : Char) (listed : c ∈ part.toList) : encodeChar pathSpecials c = [c] := by
    have := plain.plain c listed
    grind [isPlain, encodeChar]
  rw [List.flatMap_congr same, List.flatMap_singleton', String.ofList_toList]

def written (resolved : List (List Char)) : String :=
  pathOf (resolved.map fun segment => String.ofList (segment.flatMap (encodeChar pathSpecials)))

theorem written_append (resolved : List (List Char)) :
    ∃ stem, ∀ parts : List String, parts ≠ [] → (∀ part ∈ parts, IsSegment part) →
      written (resolved ++ parts.map String.toList) = stem ++ pathOf parts := by
  have same {parts : List String} (plain : ∀ part ∈ parts, IsSegment part) :
      (parts.map String.toList).map
        (fun segment => String.ofList (segment.flatMap (encodeChar pathSpecials))) = parts := by
    rw [List.map_map]
    exact (List.map_congr_left fun part listed => (plain part listed).encode).trans (List.map_id _)
  cases resolved with
  | nil =>
    refine ⟨"", fun parts _ plain => ?_⟩
    rw [List.nil_append, written, same plain, String.empty_append]
  | cons first rest =>
    refine ⟨written (first :: rest), fun parts nonempty plain => ?_⟩
    simp only [written, pathOf, List.map_append, same plain]
    rw [String.intercalate_append_of_ne_nil (by simp) nonempty]
    simp only [String.append_assoc]

theorem toList_pathOf : (pathOf parts).toList = '/' :: ("/".intercalate parts).toList := by
  simp [pathOf]

theorem mem_pathOf {c : Char} (listed : c ∈ (pathOf parts).toList) (nonempty : parts ≠ []) :
    c = '/' ∨ ∃ part ∈ parts, c ∈ part.toList := by
  rw [toList_pathOf] at listed
  induction parts with
  | nil => exact absurd rfl nonempty
  | cons part rest ih =>
    cases rest with
    | nil => simpa using listed
    | cons next rest =>
      have split : c ∈ part.toList ∨ c ∈ '/' :: ("/".intercalate (next :: rest)).toList := by
        simp only [String.intercalate_cons_cons, String.toList_append] at listed
        grind
      rcases split with here | later
      · exact .inr ⟨part, List.mem_cons_self .., here⟩
      · rcases ih later (List.cons_ne_nil _ _) with slash | ⟨other, among, here⟩
        · exact .inl slash
        · exact .inr ⟨other, List.mem_cons_of_mem _ among, here⟩

theorem plain_pathOf {c : Char} (listed : c ∈ (pathOf parts).toList) (nonempty : parts ≠ [])
    (plain : ∀ part ∈ parts, IsSegment part) : isEdge c = false ∧ c ≠ '?' ∧ c ≠ '#' := by
  rcases mem_pathOf listed nonempty with rfl | ⟨part, among, here⟩
  · decide
  · have plain := (plain part among).plain c here
    refine ⟨by grind [isPlain, isEdge], ?_, ?_⟩
    · rintro rfl
      exact absurd plain (by decide)
    · rintro rfl
      exact absurd plain (by decide)

theorem pathText_append (before : List Char) (slash : ∀ c ∈ before.head?, isSlash c = true) :
    ∃ stem, ∀ parts : List String, parts ≠ [] → (∀ part ∈ parts, IsSegment part) →
      pathText (before ++ (pathOf parts).toList) = stem ++ pathOf parts := by
  have written_eq (path : List Char) (c : Char) (slash : isSlash c = true) :
      pathText (c :: path) = written (resolveFrom [] (segments path)) := by
    simp only [pathText, slash, if_true]
    rfl
  cases before with
  | nil =>
    obtain ⟨stem, stays⟩ := written_append []
    refine ⟨stem, fun parts nonempty plain => ?_⟩
    rw [List.nil_append, toList_pathOf, written_eq _ _ rfl, segments_pathOf nonempty plain,
      resolveFrom_segments plain]
    exact stays parts nonempty plain
  | cons c rest =>
    obtain ⟨resolved, resolves⟩ := resolveFrom_append [] (segments rest)
    obtain ⟨stem, stays⟩ := written_append resolved
    refine ⟨stem, fun parts nonempty plain => ?_⟩
    rw [List.cons_append, toList_pathOf, written_eq _ _ (slash c rfl), segments_append,
      segments_pathOf nonempty plain, resolves parts nonempty plain]
    exact stays parts nonempty plain

/-! ## Addresses -/

structure Opens (cs scheme rest : List Char) : Prop where
  split : cs = scheme ++ ':' :: '/' :: '/' :: rest
  colon : ∀ c ∈ scheme, c ≠ ':'
  known : isScheme scheme = true

theorem isEdge_of_isDropped {c : Char} (dropped : isDropped c = true) : isEdge c = true := by
  simp only [isDropped, Bool.or_eq_true, decide_eq_true_eq] at dropped
  rcases dropped with (rfl | rfl) | rfl <;> rfl

theorem tidy {cs : List Char} (clean : ∀ c ∈ cs, isEdge c = false) :
    (Text.dropEndWhile isEdge (cs.dropWhile isEdge)).filter (!isDropped ·) = cs := by
  have stays (l : List Char) (clean : ∀ c ∈ l, isEdge c = false) : l.dropWhile isEdge = l :=
    List.dropWhile_eq_self_iff.mpr fun some => by simp [clean _ (List.getElem_mem some)]
  rw [stays cs clean, Text.dropEndWhile, stays cs.reverse fun c listed =>
    clean c (List.mem_reverse.mp listed), List.reverse_reverse]
  refine List.filter_eq_self.mpr fun c listed => ?_
  cases dropped : isDropped c with
  | false => rfl
  | true => cases (isEdge_of_isDropped dropped).symm.trans (clean c listed)

theorem ofText?_of_opens {text : String} {scheme rest : List Char}
    (clean : ∀ c ∈ text.toList, isEdge c = false) (opens : Opens text.toList scheme rest) :
    ofText? text = ofRest? (rest.dropWhile isSlash) := by
  have first : text.toList.takeWhile (· != ':') = scheme := by
    have before (c : Char) (listed : c ∈ scheme) : (c != ':') = true := by
      simpa using opens.colon c listed
    rw [opens.split, List.takeWhile_append_of_pos before]
    simp
  have behind : text.toList.drop scheme.length = ':' :: '/' :: '/' :: rest := by
    rw [opens.split, List.drop_left]
  rw [ofText?, tidy clean]
  simp only [first, behind, opens.known, if_true]

theorem opens_of_ofText? {text : String} {address : Address}
    (clean : ∀ c ∈ text.toList, isEdge c = false) (read : ofText? text = some address) :
    ∃ scheme rest, Opens text.toList scheme rest ∧
      ofRest? (rest.dropWhile isSlash) = some address := by
  rw [ofText?, tidy clean] at read
  split at read
  · rename_i rest behind
    split at read
    · rename_i known
      refine ⟨_, rest, ⟨?_, ?_, known⟩, read⟩
      · rw [← behind]
        exact (List.prefix_append_drop (List.takeWhile_prefix (· != ':')))
      · intro c listed
        simpa using List.mem_takeWhile_imp listed
    · cases read
  · cases read

structure Splits (rest authority beyond : List Char) : Prop where
  split : rest = authority ++ beyond
  valid : isAuthority authority = true
  inside : ∀ c ∈ authority, isSlash c = false
  slash : ∀ c ∈ beyond.head?, isSlash c = true

variable {rest authority beyond : List Char}

theorem ofRest?_of_splits (clean : ∀ c ∈ rest, c ≠ '?' ∧ c ≠ '#')
    (splits : Splits rest authority beyond) :
    ofRest? rest = some ⟨String.ofList authority, pathText beyond⟩ := by
  obtain ⟨rfl, valid, inside, slash⟩ := splits
  rw [List.forall_mem_append] at clean
  let within (c : Char) : Bool := !(isSlash c || c = '?' || c = '#')
  have host (c : Char) (listed : c ∈ authority) : within c = true := by
    simp [within, inside c listed, clean.1 c listed]
  have ends : beyond.takeWhile within = [] ∧ beyond.dropWhile within = beyond := by
    cases beyond with
    | nil => exact ⟨rfl, rfl⟩
    | cons c more => simp [within, slash c rfl]
  have first : (authority ++ beyond).takeWhile within = authority := by
    rw [List.takeWhile_append_of_pos host, ends.1, List.append_nil]
  have later : (authority ++ beyond).dropWhile within = beyond := by
    rw [List.dropWhile_append_of_pos host, ends.2]
  have path (c : Char) (listed : c ∈ beyond) : (c != '?' && c != '#') = true := by
    simpa using clean.2 c listed
  have whole : beyond.takeWhile (fun c => c != '?' && c != '#') = beyond :=
    List.takeWhile_eq_self_iff.mpr path
  have none : beyond.dropWhile (fun c => c != '?' && c != '#') = [] :=
    List.dropWhile_eq_nil_iff.mpr path
  have text : pathText beyond ++ queryText [] = pathText beyond := String.append_empty
  simp only [ofRest?, within] at first later ⊢
  simp only [first, later, whole, none, text, valid, if_true]

theorem splits_of_ofRest? {address : Address} (clean : ∀ c ∈ rest, c ≠ '?' ∧ c ≠ '#')
    (read : ofRest? rest = some address) :
    ∃ authority beyond, Splits rest authority beyond := by
  rw [ofRest?] at read
  dsimp only at read
  split at read
  · rename_i valid
    refine ⟨_, _, List.takeWhile_append_dropWhile.symm, valid, ?_, ?_⟩
    · intro c listed
      have outside := List.mem_takeWhile_imp listed
      grind
    · intro c first
      have stops := List.head?_dropWhile_not (fun c => !(isSlash c || c = '?' || c = '#')) rest
      have listed := clean c ((List.dropWhile_sublist _).subset (List.mem_of_mem_head? first))
      rw [Option.mem_def.mp first] at stops
      simpa [listed] using stops
  · cases read

/-- Paths of plain parts under one base are sent as they stand, behind the same stem. -/
theorem ofText?_path {base : String} (usable : IsBase base) :
    ∃ authority stem, ∀ parts : List String, parts ≠ [] → (∀ part ∈ parts, IsSegment part) →
      ofText? (base ++ pathOf parts) = some ⟨authority, stem ++ pathOf parts⟩ := by
  obtain ⟨⟨address, read⟩, plain⟩ := usable
  obtain ⟨scheme, rest, opens, found⟩ := opens_of_ofText? (fun c listed => (plain c listed).1) read
  have inside (c : Char) (listed : c ∈ rest.dropWhile isSlash) : c ≠ '?' ∧ c ≠ '#' := by
    have : c ∈ rest := (List.dropWhile_sublist isSlash).subset listed
    refine (plain c ?_).2
    rw [opens.split]
    simp [this]
  obtain ⟨authority, beyond, splits⟩ := splits_of_ofRest? inside found
  obtain ⟨stem, stays⟩ := pathText_append beyond splits.slash
  refine ⟨String.ofList authority, stem, fun parts nonempty plainParts => ?_⟩
  have clean (c : Char) (listed : c ∈ (pathOf parts).toList) :=
    plain_pathOf listed nonempty plainParts
  have goesOn : Opens (base ++ pathOf parts).toList scheme (rest ++ (pathOf parts).toList) := by
    refine ⟨?_, opens.colon, opens.known⟩
    rw [String.toList_append, opens.split]
    simp
  have someone : (rest.dropWhile isSlash).isEmpty = false := by
    cases asked : rest.dropWhile isSlash with
    | nil =>
      obtain ⟨rfl, rfl⟩ := List.nil_eq_append_iff.mp (asked.symm.trans splits.split)
      cases splits.valid
    | cons => rfl
  have splitsOn : Splits (rest.dropWhile isSlash ++ (pathOf parts).toList) authority
      (beyond ++ (pathOf parts).toList) := by
    refine ⟨?_, splits.valid, splits.inside, ?_⟩
    · rw [splits.split, List.append_assoc]
    · rw [toList_pathOf]
      cases beyond with
      | nil => simp [isSlash]
      | cons c more => exact splits.slash
  rw [ofText?_of_opens ?_ goesOn, List.dropWhile_append, someone, if_neg (by decide),
    ofRest?_of_splits ?_ splitsOn, stays parts nonempty plainParts]
  · exact List.forall_mem_append.mpr ⟨inside, fun c listed => (clean c listed).2⟩
  · rw [String.toList_append]
    exact List.forall_mem_append.mpr
      ⟨fun c listed => (plain c listed).1, fun c listed => (clean c listed).1⟩

end ControlPanel.Address
