import ControlPanel.Proofs.Time.Calendar
import ControlPanel.Time.Timestamp

/-!
# Written timestamps

What is written for an instant is read as that instant (`Instant.ofText_text`), for every instant
of a year that can be named. Each part of a timestamp is read back from its characters, whatever
follows them.
-/

namespace ControlPanel

theorem Json.digitsValue_eq (digits : List Char) :
    Json.digitsValue digits = Nat.ofDigitChars 10 digits 0 := by
  have folds (n : Nat) : digits.foldl (fun n c => n * 10 + (c.toNat - 48)) n =
      Nat.ofDigitChars 10 digits n := by
    induction digits generalizing n with
    | nil => rfl
    | cons c cs ih =>
      rw [List.foldl_cons, ih, Nat.ofDigitChars_cons, Nat.mul_comm]
      rfl
  exact folds 0

theorem Text.isBlank_of_isDigit {c : Char} (digit : c.isDigit = true) : isBlank c = false := by
  have bounds : 48 ≤ c.toNat ∧ c.toNat ≤ 57 := by
    simpa [Char.isDigit, UInt32.le_iff_toNat_le] using digit
  simp [isBlank]
  omega

namespace Instant

/-! ## Padded numbers -/

theorem isDigit_of_mem_padded {width n : Nat} {c : Char} (listed : c ∈ padded width n) :
    c.isDigit = true := by
  rcases List.mem_append.mp listed with zero | digit
  · rw [List.eq_of_mem_replicate zero]
    rfl
  · rw [Nat.toList_repr] at digit
    exact Nat.isDigit_of_mem_toDigits (by decide) (by decide) digit

theorem padded_ne_nil (width n : Nat) : padded width n ≠ [] := by
  rw [padded, Nat.toList_repr]
  exact fun none => Nat.toDigits_ne_nil (List.append_eq_nil_iff.mp none).2

theorem length_padded {width limit n : Nat} (positive : 0 < width)
    (power : Nat.pow 10 width = limit) (small : n < limit) : (padded width n).length = width := by
  subst power
  have bound := (Nat.length_toDigits_le_iff (b := 10) (n := n) (by decide) positive).mpr small
  rw [padded, Nat.toList_repr, List.length_append, List.length_replicate]
  omega

theorem digitsValue_padded (width n : Nat) : Json.digitsValue (padded width n) = n := by
  have zeros (count : Nat) : Nat.ofDigitChars 10 (List.replicate count '0') 0 = 0 := by
    induction count with
    | zero => rfl
    | succ count ih => rw [List.replicate_succ, Nat.ofDigitChars_cons, Nat.mul_zero]; exact ih
  rw [Json.digitsValue_eq, padded, Nat.toList_repr, Nat.ofDigitChars_append, zeros]
  exact Nat.ofDigitChars_toDigits (by decide) (by decide)

/-! ## Parts -/

theorem digitsPart_append (width : Nat) {digits : List Char} (rest : List Char) (some : digits ≠ [])
    (all : ∀ c ∈ digits, c.isDigit = true)
    (ends : digits.length = width ∨
      digits.length ≤ width ∧ ∃ c cs, rest = c :: cs ∧ c.isDigit = false) :
    digitsPart width (digits ++ rest) = .ok (digits, rest) := by
  have taken : ((digits ++ rest).take width).takeWhile Char.isDigit = digits := by
    rcases ends with rfl | ⟨fits, c, cs, rfl, other⟩
    · have whole : (digits ++ []).takeWhile Char.isDigit = digits ++ [].takeWhile Char.isDigit :=
        List.takeWhile_append_of_pos all
      rw [List.takeWhile_nil, List.append_nil] at whole
      rw [List.take_left, whole]
    · rw [List.take_append, List.take_of_length_le fits, List.takeWhile_append_of_pos all]
      cases width - digits.length with
      | zero => simp
      | succ more => simp [other]
  simp [digitsPart, taken, some]

theorem trimStart_digits {digits : List Char} (all : ∀ c ∈ digits, c.isDigit = true)
    (some : digits ≠ []) (rest : List Char) : Text.trimStart (digits ++ rest) = digits ++ rest := by
  cases digits with
  | nil => exact absurd rfl some
  | cons c cs =>
    have solid := Text.isBlank_of_isDigit (all c (List.mem_cons_self ..))
    simp [Text.trimStart, solid]

theorem numberPart_padded {low high n : Nat} (least : low ≤ n) (greatest : n ≤ high)
    (small : n < 100) (rest : List Char) :
    numberPart 2 low high (padded 2 n ++ rest) = .ok (n, rest) := by
  have digits := digitsPart_append 2 rest (padded_ne_nil 2 n)
    (fun _ listed => isDigit_of_mem_padded listed) (.inl (length_padded (by decide) rfl small))
  rw [numberPart, trimStart_digits (fun _ listed => isDigit_of_mem_padded listed)
    (padded_ne_nil 2 n), digits]
  simp [bind, Except.bind, digitsValue_padded, least, greatest]

-- The limit is a variable here: a comparison with the number itself would be evaluated.
theorem bounded_eq_ok {part : Except TimestampFault (List Char × List Char)}
    (value : List Char → Int) {limit : Int} {digits rest : List Char}
    (read : part = .ok (digits, rest)) (fits : -limit ≤ value digits ∧ value digits < limit) :
    (do
      let (digits, rest) ← part
      let (year, rest) ← pure (value digits, rest)
      if -limit ≤ year ∧ year < limit then Except.ok (year, rest)
      else .error TimestampFault.outOfRange) = .ok (value digits, rest) := by
  rw [read]
  exact if_pos fits

theorem year_fits {year : Int} (small : year.natAbs < 2147483648) :
    -(Int.pow 2 31) ≤ year ∧ year < Int.pow 2 31 := by
  have largest : Int.pow 2 31 = 2147483648 := by decide
  rw [largest]
  omega

theorem yearPart_digits {digits rest : List Char} (some : digits ≠ [])
    (all : ∀ c ∈ digits, c.isDigit = true) (four : digits.length = 4)
    (small : Json.digitsValue digits < 10000) :
    yearPart (digits ++ rest) = .ok (Json.digitsValue digits, rest) := by
  have read := digitsPart_append 4 rest some all (.inl four)
  rw [yearPart, trimStart_digits all some]
  cases digits with
  | nil => exact absurd rfl some
  | cons c cs =>
    have digit := all c (List.mem_cons_self ..)
    rw [List.cons_append] at read ⊢
    split
    · rename_i same
      obtain ⟨rfl, -⟩ := List.cons.inj same
      cases digit
    · rename_i same
      obtain ⟨rfl, -⟩ := List.cons.inj same
      cases digit
    · exact bounded_eq_ok (fun digits => (Json.digitsValue digits : Int)) read
        (year_fits (show (Json.digitsValue (c :: cs) : Int).natAbs < _ by omega))

theorem yearPart_chars {year : Int} (least : CivilDate.minYear ≤ year)
    (greatest : year ≤ CivilDate.maxYear) (rest : List Char) :
    yearPart (yearChars year ++ '-' :: rest) = .ok (year, '-' :: rest) := by
  simp only [CivilDate.minYear, CivilDate.maxYear] at least greatest
  unfold yearChars
  split
  · rename_i unsigned
    have value := digitsValue_padded 4 year.toNat
    rw [yearPart_digits (padded_ne_nil 4 _) (fun _ listed => isDigit_of_mem_padded listed)
      (length_padded (by decide) (show Nat.pow 10 4 = 10000 from rfl) (by omega))
      (by rw [value]; omega), value]
    congr
    omega
  · have read := digitsPart_append (padded 4 year.natAbs ++ '-' :: rest).length ('-' :: rest)
      (padded_ne_nil 4 year.natAbs) (fun _ listed => isDigit_of_mem_padded listed)
      (.inr ⟨by rw [List.length_append]; omega, '-', rest, rfl, rfl⟩)
    have value := digitsValue_padded 4 year.natAbs
    split
    · rename_i negative
      have trimmed (cs : List Char) : Text.trimStart ('-' :: cs) = '-' :: cs := rfl
      have size : -(Json.digitsValue (padded 4 year.natAbs) : Int) = year := by omega
      rw [List.cons_append, yearPart, trimmed]
      have bounded := bounded_eq_ok (fun digits => -(Json.digitsValue digits : Int)) read
        (year_fits (by omega))
      rwa [size] at bounded
    · rename_i positive
      have trimmed (cs : List Char) : Text.trimStart ('+' :: cs) = '+' :: cs := rfl
      have size : (Json.digitsValue (padded 4 year.natAbs) : Int) = year := by omega
      rw [List.cons_append, yearPart, trimmed]
      have bounded := bounded_eq_ok (fun digits => (Json.digitsValue digits : Int)) read
        (year_fits (by omega))
      rwa [size] at bounded

theorem fractionPart_padded {width limit scale n : Nat} (positive : 0 < width) (fits : width ≤ 9)
    (power : Nat.pow 10 width = limit) (rest : Nat.pow 10 (9 - width) = scale)
    (small : n < limit) :
    fractionPart ('.' :: padded width n ++ ['Z']) = .ok (n * scale, ['Z']) := by
  subst rest
  have length := length_padded positive power small
  have read := digitsPart_append 9 ['Z'] (padded_ne_nil width n)
    (fun _ listed => isDigit_of_mem_padded listed)
    (.inr ⟨by rw [length]; exact fits, 'Z', [], rfl, rfl⟩)
  simp only [fractionPart, List.cons_append, read]
  simp [bind, Except.bind, digitsValue_padded, length]

theorem fractionPart_chars {nanos : Nat} (small : nanos < 1000000000) :
    fractionPart (fractionChars nanos ++ ['Z']) = .ok (nanos, ['Z']) := by
  unfold fractionChars
  split
  · rename_i none
    rw [none]
    rfl
  · split
    · rw [fractionPart_padded (by decide) (by decide) (show Nat.pow 10 3 = 1000 from rfl)
        (show Nat.pow 10 6 = 1000000 from rfl) (by omega)]
      congr
      omega
    · split
      · rw [fractionPart_padded (by decide) (by decide) (show Nat.pow 10 6 = 1000000 from rfl)
          (show Nat.pow 10 3 = 1000 from rfl) (by omega)]
        congr
        omega
      · rw [fractionPart_padded (by decide) (by decide) (show Nat.pow 10 9 = 1000000000 from rfl)
          (show Nat.pow 10 0 = 1 from rfl) (by omega)]
        congr
        omega

/-! ## Whole timestamps -/

/-- Instants in the years that can be named. A leap second is the last of its minute. -/
structure IsNamed (t : Instant) : Prop where
  first : CivilDate.minYear ≤ (CivilDate.ofDays (t.seconds / 86400)).year
  last : (CivilDate.ofDays (t.seconds / 86400)).year ≤ CivilDate.maxYear
  nanos : t.nanos < 2000000000
  leap : 1000000000 ≤ t.nanos → t.seconds % 60 = 59

theorem ofChars_parts {year : Int} {month day hour minute second nanos : Nat}
    (first : CivilDate.minYear ≤ year) (last : year ≤ CivilDate.maxYear)
    (monthOfYear : 1 ≤ month ∧ month ≤ 12) (dayOfMonth : 1 ≤ day ∧ day ≤ 31) (hours : hour ≤ 23)
    (minutes : minute ≤ 59) (seconds : second ≤ 60) (small : nanos < 1000000000)
    (valid : CivilDate.isValid ⟨year, month, day⟩ = true)
    (back : CivilDate.ofDays (CivilDate.toDays ⟨year, month, day⟩) = ⟨year, month, day⟩) :
    ofChars (yearChars year ++ '-' :: (padded 2 month ++ '-' :: (padded 2 day ++ 'T' ::
      (padded 2 hour ++ ':' :: (padded 2 minute ++ ':' :: (padded 2 second ++
        (fractionChars nanos ++ ['Z']))))))) =
      .ok ⟨CivilDate.toDays ⟨year, month, day⟩ * 86400 +
        (hour * 3600 + minute * 60 + (min second 59 : Nat)),
        if second = 60 then nanos + 1000000000 else nanos⟩ := by
  have zone : zonePart ['Z'] = .ok (0, []) := rfl
  have dash (rest : List Char) : separatorPart '-' ('-' :: rest) = .ok rest := rfl
  have colon (rest : List Char) : separatorPart ':' (':' :: rest) = .ok rest := rfl
  simp only [ofChars, yearPart_chars first last, dash, colon, bind, Except.bind,
    numberPart_padded monthOfYear.1 monthOfYear.2 (by omega),
    numberPart_padded dayOfMonth.1 dayOfMonth.2 (by omega),
    numberPart_padded (Nat.zero_le hour) hours (by omega),
    numberPart_padded (Nat.zero_le minute) minutes (by omega),
    numberPart_padded (Nat.zero_le second) seconds (by omega), fractionPart_chars small, zone]
  have sameDay : (CivilDate.toDays ⟨year, month, day⟩ * 86400 +
      ((hour : Int) * 3600 + minute * 60 + (min second 59 : Nat)) - 0) / 86400 =
        CivilDate.toDays ⟨year, month, day⟩ := by
    omega
  have inRange : ¬ (year < CivilDate.minYear ∨ CivilDate.maxYear < year) := by omega
  rw [sameDay, back, if_neg (by decide), if_neg (by simp [valid]), if_neg (by decide),
    if_neg inRange, Int.sub_zero]

theorem ofText_text {t : Instant} (named : t.IsNamed) : ofText t.text = .ok t := by
  obtain ⟨total, nanos⟩ := t
  obtain ⟨first, last, bound, leap⟩ := named
  dsimp only at first last bound leap
  have valid := (CivilDate.ofDays_isValid (total / 86400)).mpr ⟨first, last⟩
  have day := CivilDate.toDays_ofDays (total / 86400)
  have back : CivilDate.ofDays (CivilDate.ofDays (total / 86400)).toDays =
      CivilDate.ofDays (total / 86400) := by rw [day]
  obtain ⟨month, firstDay, lastDay⟩ := CivilDate.ofDays_bounds (total / 86400)
  have month31 := CivilDate.daysInMonth_le (CivilDate.ofDays (total / 86400)).year
    (CivilDate.ofDays (total / 86400)).month
  generalize clock : (total % 86400).toNat = c
  generalize extra : (if 1000000000 ≤ nanos then 1 else 0) = e
  have hours : c / 3600 ≤ 23 := by omega
  have minutes : c / 60 % 60 ≤ 59 := by omega
  have seconds : c % 60 + e ≤ 60 := by
    split at extra <;> omega
  have small : nanos % 1000000000 < 1000000000 := by omega
  have read := ofChars_parts first last month ⟨firstDay, Nat.le_trans lastDay month31⟩ hours minutes
    seconds small valid back
  rw [ofText, text, String.toList_ofList, chars]
  simp only [List.append_assoc, List.cons_append, clock, extra] at read ⊢
  rw [read, day]
  congr 1
  rw [Instant.mk.injEq]
  split at extra
  · have minuteEnd := leap (by assumption)
    subst extra
    have lastSecond : c % 60 + 1 = 60 := by omega
    rw [lastSecond, if_pos rfl]
    omega
  · subst extra
    have inMinute : ¬ (c % 60 + 0 = 60) := by omega
    rw [if_neg inMinute]
    omega

end Instant

end ControlPanel
