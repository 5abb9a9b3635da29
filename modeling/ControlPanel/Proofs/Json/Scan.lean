import ControlPanel.Json.Printer
import ControlPanel.Json.Token

/-!
# Cutting text

How numbers and strings are cut from the text before it, whatever follows them: whole numbers of 64
bits keep their digits (`Json.tokens_number`), and strings get their characters back from the
escapes (`Json.tokens_string`).
-/

namespace ControlPanel.Json

/-! ## Digits -/

theorem toDigits_cons_zero {n : Nat} {rest : List Char} (h : Nat.toDigits 10 n = '0' :: rest) :
    rest = [] := by
  induction n using Nat.strongRecOn generalizing rest with
  | ind n ih =>
    by_cases small : n < 10
    · rw [Nat.toDigits_of_lt_base small] at h
      exact (List.cons.inj h).2.symm
    · rw [Nat.toDigits_of_base_le (by decide) (by omega)] at h
      cases first : Nat.toDigits 10 (n / 10) with
      | nil => exact absurd first Nat.toDigits_ne_nil
      | cons c cs =>
        rw [first] at h
        obtain ⟨rfl, -⟩ := List.cons.inj h
        have single := ih (n / 10) (by omega) first
        -- then the digits before the last are those of zero
        rw [single] at first
        have back := Nat.ofDigitChars_toDigits (b := 10) (n := n / 10) (by decide) (by decide)
        rw [first] at back
        simp [Nat.ofDigitChars] at back
        omega

theorem takeDigits_eq {digits : List Char} {significand : Nat}
    (small : Nat.ofDigitChars 10 digits significand < UInt64.size) :
    takeDigits significand digits = (Nat.ofDigitChars 10 digits significand, digits.length) := by
  induction digits generalizing significand with
  | nil => rfl
  | cons c cs ih =>
    have next : 10 * significand + (c.toNat - 48) = significand * 10 + (c.toNat - 48) := by omega
    rw [Nat.ofDigitChars_cons] at small ⊢
    change Nat.ofDigitChars 10 cs (10 * significand + (c.toNat - 48)) < _ at small
    change _ = (Nat.ofDigitChars 10 cs (10 * significand + (c.toNat - 48)), _)
    rw [next] at small ⊢
    have grows : significand * 10 + (c.toNat - 48) ≤
        Nat.ofDigitChars 10 cs (significand * 10 + (c.toNat - 48)) := by
      rw [Nat.ofDigitChars_eq_ofDigitChars_zero]
      exact Nat.le_add_right_of_le (Nat.le_mul_of_pos_left _ (Nat.pow_pos (by decide)))
    have fits : significand * 10 + (c.toNat - 48) < UInt64.size := by omega
    simp only [takeDigits, if_pos fits, ih small, List.length_cons]

theorem takeDigits_toDigits {n : Nat} (small : n < UInt64.size) :
    takeDigits 0 (Nat.toDigits 10 n) = (n, (Nat.toDigits 10 n).length) := by
  have value : Nat.ofDigitChars 10 (Nat.toDigits 10 n) 0 = n :=
    Nat.ofDigitChars_toDigits (by decide) (by decide)
  rw [takeDigits_eq (by rwa [value]), value]

/-! ## Numbers -/

def Ends (rest : List Char) : Prop :=
  rest = [] ∨ ∃ c ∈ [',', ':', ']', '}', ' ', '\t', '\n', '\r'], ∃ cs, rest = c :: cs

theorem Ends.split_digits {rest : List Char} (ends : Ends rest) {digits : List Char}
    (all : ∀ c ∈ digits, c.isDigit = true) :
    (digits ++ rest).takeWhile Char.isDigit = digits ∧
      (digits ++ rest).dropWhile Char.isDigit = rest := by
  have stops : rest.takeWhile Char.isDigit = [] ∧ rest.dropWhile Char.isDigit = rest := by
    rcases ends with rfl | ⟨c, mark, cs, rfl⟩
    · exact ⟨rfl, rfl⟩
    · have solid : c.isDigit = false := by
        simp only [List.mem_cons, List.not_mem_nil, or_false] at mark
        rcases mark with rfl | rfl | rfl | rfl | rfl | rfl | rfl | rfl <;> rfl
      exact ⟨List.takeWhile_cons_of_neg (by simp [solid]),
        List.dropWhile_cons_of_neg (by simp [solid])⟩
  rw [List.takeWhile_append_of_pos all, List.dropWhile_append_of_pos all, stops.1, stops.2]
  exact ⟨List.append_nil _, rfl⟩

theorem Ends.scanFraction {rest : List Char} (ends : Ends rest) (t : NumberText) :
    scanFraction t rest = (⟨t.value, none⟩, rest) := by
  rcases ends with rfl | ⟨c, mark, cs, rfl⟩
  · rfl
  · simp only [List.mem_cons, List.not_mem_nil, or_false] at mark
    rcases mark with rfl | rfl | rfl | rfl | rfl | rfl | rfl | rfl <;> rfl

theorem scanNumber_toDigits (negative : Bool) (n : Nat) {rest : List Char} (ends : Ends rest) :
    scanNumber negative (Nat.toDigits 10 n ++ rest) =
      (⟨NumberText.value ⟨negative, Nat.toDigits 10 n, none, none⟩, none⟩, rest) := by
  have all : ∀ c ∈ Nat.toDigits 10 n, c.isDigit = true := fun c listed =>
    Nat.isDigit_of_mem_toDigits (by decide) (by decide) listed
  obtain ⟨digits, left⟩ := ends.split_digits all
  unfold scanNumber
  rw [digits, left]
  dsimp only
  split
  · exact absurd (by assumption) Nat.toDigits_ne_nil
  · rename_i c cs found
    cases toDigits_cons_zero found
  · exact ends.scanFraction _

theorem value_toDigits {n : Nat} (small : n < UInt64.size) :
    NumberText.value ⟨false, Nat.toDigits 10 n, none, none⟩ = .ok (.int n) := by
  simp [NumberText.value, takeDigits_toDigits small]

theorem value_neg_toDigits {n : Nat} (positive : 0 < n) (small : n ≤ 1 <<< 63) :
    NumberText.value ⟨true, Nat.toDigits 10 n, none, none⟩ = .ok (.int (-n)) := by
  have fits : n < UInt64.size := Nat.lt_of_le_of_lt small (by decide)
  have nonzero : n ≠ 0 := by omega
  have shifted : 1 <<< 63 = 9223372036854775808 := rfl
  rw [shifted] at small
  simp [NumberText.value, takeDigits_toDigits fits, small, nonzero]

def IsWord (i : Int) : Prop := Number.minInt ≤ i ∧ i ≤ Number.maxInt

instance (i : Int) : Decidable (IsWord i) := inferInstanceAs (Decidable (_ ∧ _))

theorem isDigit_not_blank {c : Char} (digit : c.isDigit = true) : isBlank c = false := by
  rw [Bool.eq_false_iff]
  intro blank
  simp only [isBlank, Bool.or_eq_true, decide_eq_true_eq] at blank
  rcases blank with ((rfl | rfl) | rfl) | rfl <;> cases digit

theorem scanToken_minus (isStray : Char → Bool) (rest : List Char) : scanToken isStray '-' rest =
    (.number (scanNumber true rest).1,
      if (scanNumber true rest).1.skip.isSome then none else some (scanNumber true rest).2) :=
  rfl

theorem scanToken_digit {isStray : Char → Bool} {c : Char} (digit : c.isDigit = true)
    (rest : List Char) : scanToken isStray c rest =
      (.number (scanNumber false (c :: rest)).1,
        if (scanNumber false (c :: rest)).1.skip.isSome then none
        else some (scanNumber false (c :: rest)).2) := by
  unfold scanToken
  split
  all_goals try cases digit
  simp only [digit, if_true]

theorem tokens_of_scanned {isStray : Char → Bool} {c : Char} {cs rest : List Char} {token : Token}
    (solid : isBlank c = false) (scanned : scanToken isStray c cs = (token, some rest)) :
    tokens isStray (c :: cs) = token :: tokens isStray rest := by
  rw [tokens, solid]
  simp only [Bool.false_eq_true, if_false]
  split <;> simp_all

theorem tokens_number {isStray : Char → Bool} {i : Int} (word : IsWord i) {rest : List Char}
    (ends : Ends rest) : tokens isStray ((Number.int i).text.toList ++ rest) =
      .number ⟨.ok (.int i), none⟩ :: tokens isStray rest := by
  have least : Number.minInt = -(2 ^ 63) := rfl
  have largest : Number.maxInt = 2 ^ 64 - 1 := rfl
  obtain ⟨low, high⟩ := word
  by_cases negative : i < 0
  · have text : (Number.int i).text.toList = '-' :: Nat.toDigits 10 i.natAbs := by
      simp [Number.text, negative]
    have value : NumberText.value ⟨true, Nat.toDigits 10 i.natAbs, none, none⟩ =
        .ok (.int i) := by
      have small : i.natAbs ≤ 1 <<< 63 := by
        have shifted : 1 <<< 63 = 2 ^ 63 := rfl
        omega
      rw [value_neg_toDigits (by omega) small]
      congr
      omega
    rw [text, List.cons_append]
    refine tokens_of_scanned rfl ?_
    rw [scanToken_minus, scanNumber_toDigits true _ ends, value]
    rfl
  · have text : (Number.int i).text.toList = Nat.toDigits 10 i.natAbs := by
      simp [Number.text, negative]
    have value : NumberText.value ⟨false, Nat.toDigits 10 i.natAbs, none, none⟩ =
        .ok (.int i) := by
      have size : UInt64.size = 2 ^ 64 := rfl
      rw [value_toDigits (by omega)]
      congr
      omega
    have scanned := scanNumber_toDigits false i.natAbs ends
    rw [text]
    cases digits : Nat.toDigits 10 i.natAbs with
    | nil => exact absurd digits Nat.toDigits_ne_nil
    | cons c cs =>
      have digit : c.isDigit = true :=
        Nat.isDigit_of_mem_toDigits (b := 10) (n := i.natAbs) (by decide) (by decide)
          (by rw [digits]; exact List.mem_cons_self ..)
      rw [digits, List.cons_append] at scanned
      rw [digits] at value
      rw [List.cons_append]
      refine tokens_of_scanned (isDigit_not_blank digit) ?_
      rw [scanToken_digit digit, scanned, value]
      rfl

/-! ## Strings -/

def IsSurrogate (n : Nat) : Prop := 0xD800 ≤ n ∧ n ≤ 0xDFFF

/-- The first list of characters is the second with some of its characters escaped. -/
inductive Escapes : List Char → List Char → Prop
  | nil : Escapes [] []
  | plain {c : Char} {cs s : List Char} : 32 ≤ c.toNat → c ≠ '"' → c ≠ '\\' → Escapes cs s →
      Escapes (c :: cs) (c :: s)
  | letter {l c : Char} {cs s : List Char} : escapedChar l = some c → Escapes cs s →
      Escapes ('\\' :: l :: cs) (c :: s)
  | unit {a b c d : Char} {n : Nat} {cs s : List Char} : hexValue4 a b c d = some n →
      ¬ IsSurrogate n → Escapes cs s →
      Escapes ('\\' :: 'u' :: a :: b :: c :: d :: cs) (Char.ofNat n :: s)
  | pair {a b c d a' b' c' d' : Char} {high low : Nat} {cs s : List Char} :
      hexValue4 a b c d = some high → 0xD800 ≤ high → high ≤ 0xDBFF →
      hexValue4 a' b' c' d' = some low → 0xDC00 ≤ low → low ≤ 0xDFFF → Escapes cs s →
      Escapes ('\\' :: 'u' :: a :: b :: c :: d :: '\\' :: 'u' :: a' :: b' :: c' :: d' :: cs)
        (Char.ofNat ((high - 0xD800) * 0x400 + (low - 0xDC00) + 0x10000) :: s)

theorem scanString_letter {l c : Char} (known : escapedChar l = some c) (rest : List Char) :
    scanString ('\\' :: l :: rest) = (scanString rest).push (.char c) := by
  unfold escapedChar at known
  split at known
  all_goals first | cases known; rfl | cases known

theorem scanString_plain {c : Char} (solid : 32 ≤ c.toNat) (noQuote : c ≠ '"')
    (noEscape : c ≠ '\\') (rest : List Char) :
    scanString (c :: rest) = (scanString rest).push (.char c) := by
  rw [scanString.eq_def (c :: rest)]
  split <;> simp_all [Nat.not_lt_of_le]

theorem scanString_escapes {cs s : List Char} (escapes : Escapes cs s) (rest : List Char) :
    ∃ pieces, scanString (cs ++ '"' :: rest) = ⟨pieces, .closed, rest⟩ ∧
      joinPieces .closed pieces = .ok s := by
  -- every escape adds the piece it stands for, and a pair of halves adds two
  induction escapes with
  | nil => exact ⟨[], rfl, rfl⟩
  | @plain c cs s solid noQuote noEscape _ ih =>
    obtain ⟨pieces, scanned, joined⟩ := ih
    refine ⟨.char c :: pieces, ?_, ?_⟩
    · rw [List.cons_append, scanString_plain solid noQuote noEscape, scanned]
      rfl
    · rw [joinPieces, joined]
      rfl
  | @letter l c cs s known _ ih =>
    obtain ⟨pieces, scanned, joined⟩ := ih
    refine ⟨.char c :: pieces, ?_, ?_⟩
    · rw [List.cons_append, List.cons_append, scanString_letter known, scanned]
      rfl
    · rw [joinPieces, joined]
      rfl
  | @unit a b c d n cs s value whole _ ih =>
    obtain ⟨pieces, scanned, joined⟩ := ih
    refine ⟨.unit n :: pieces, ?_, ?_⟩
    · simp only [List.cons_append, scanString, value, scanned]
      rfl
    · have low : ¬ (0xDC00 ≤ n ∧ n ≤ 0xDFFF) := fun half => whole ⟨by omega, half.2⟩
      have high : ¬ (0xD800 ≤ n ∧ n ≤ 0xDBFF) := fun half => whole ⟨half.1, by omega⟩
      rw [joinPieces.eq_def _ (.unit n :: pieces)]
      simp only [if_neg low, if_neg high, joined]
      rfl
  | @pair a b c d a' b' c' d' high low cs s value first last value' first' last' _ ih =>
    obtain ⟨pieces, scanned, joined⟩ := ih
    refine ⟨.unit high :: .unit low :: pieces, ?_, ?_⟩
    · simp only [List.cons_append, scanString, value, value', scanned]
      rfl
    · have notLow : ¬ (0xDC00 ≤ high ∧ high ≤ 0xDFFF) := by omega
      rw [joinPieces.eq_def _ (.unit high :: .unit low :: pieces)]
      simp only [if_neg notLow, if_pos (And.intro first last), if_pos (And.intro first' last'),
        joined]
      rfl

def Quotes (s : String) (text : List Char) : Prop :=
  ∃ inner, Escapes inner s.toList ∧ text = '"' :: (inner ++ ['"'])

theorem tokens_string {s : String} {text : List Char} (quotes : Quotes s text) (rest : List Char) :
    tokens (fun _ => false) (text ++ rest) =
      .string ⟨.ok s, none⟩ :: tokens (fun _ => false) rest := by
  obtain ⟨inner, escapes, rfl⟩ := quotes
  obtain ⟨pieces, scanned, joined⟩ := scanString_escapes escapes rest
  rw [List.cons_append, List.append_assoc, List.singleton_append]
  refine tokens_of_scanned rfl ?_
  change (Token.string ((scanString _).scalar _), _) = _
  rw [scanned]
  simp [StringText.scalar, StringEnd.fault, joined]

end ControlPanel.Json
