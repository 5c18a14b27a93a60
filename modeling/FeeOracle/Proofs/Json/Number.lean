import FeeOracle.Json.Decode
import FeeOracle.Proofs.Double.Accuracy
import FeeOracle.Proofs.Text.Numeral

/-!
# Short numbers in documents

A number without a sign and an exponent is read part by part (`readDocument_of_isPlainNumber`). If
it has no more than 53 binary digits and 22 places, it is the quotient of its significand and a
power of ten, rounded once (`double?_bind_datum?`).
-/

namespace FeeOracle.Json

open Text

variable {cs digits rest : List Char}

/-- Is this a number without a sign and an exponent, as documents write it? -/
structure IsPlainNumber (cs : List Char) : Prop where
  whole : IsWholeNumeral (wholePart cs)
  fraction : ∀ c ∈ fractionPart cs, c.isDigit = true
  some_place : '.' ∈ cs → fractionPart cs ≠ []

/-! ### Reading -/

/-- Digits are read up to what is none. -/
theorem readDigits_append (hdigits : ∀ c ∈ digits, c.isDigit = true) (hsome : digits ≠ [])
    (hrest : ∀ c ∈ rest.head?, c.isDigit = false) :
    readDigits (digits ++ rest) = .ok (digits, rest) := by
  have hnone : rest.takeWhile Char.isDigit = [] ∧ rest.dropWhile Char.isDigit = rest := by
    cases rest with
    | nil => exact ⟨rfl, rfl⟩
    | cons c rest => simp [hrest c rfl]
  rw [readDigits, List.takeWhile_append_of_pos hdigits, List.dropWhile_append_of_pos hdigits,
    hnone.1, hnone.2, List.append_nil]
  simp [hsome]

theorem readWhole_append (hdigits : IsWholeNumeral digits)
    (hrest : ∀ c ∈ rest.head?, c.isDigit = false) :
    readWhole (digits ++ rest) = .ok (digits, rest) := by
  have hsome : digits ≠ [] := by cases hdigits <;> simp
  have hfirst : ¬ (digits.head? = some '0' ∧ digits.length > 1) := by
    cases hdigits with
    | zero => simp
    | positive _ hpositive => simp [hpositive]
  simp only [readWhole, readDigits_append hdigits.isDigit hsome hrest, bind, Except.bind,
    if_neg hfirst]

theorem IsPlainNumber.isPlainNumeral (h : IsPlainNumber cs) : IsPlainNumeral cs where
  whole := h.whole.isDigit
  fraction := h.fraction
  some_digit hnone := by
    have hwhole := h.whole
    rw [(List.append_eq_nil_iff.1 hnone).1] at hwhole
    cases hwhole

theorem IsPlainNumber.exists_digit (h : IsPlainNumber cs) :
    ∃ c rest, cs = c :: rest ∧ c.isDigit = true := by
  have hwhole := h.whole
  cases cs with
  | nil => cases hwhole
  | cons c rest =>
    refine ⟨c, rest, rfl, (h.isPlainNumeral.isDigit_or_point c List.mem_cons_self).resolve_right ?_⟩
    rintro rfl
    cases hwhole

/-- What stands behind the whole part is read as the fraction. -/
theorem exists_readWhole_eq (h : IsPlainNumber cs) :
    ∃ rest,
      readWhole cs = .ok (wholePart cs, rest) ∧ readFraction rest = .ok (fractionPart cs, []) := by
  rcases eq_wholePart_or cs with ⟨hcs, hfraction⟩ | hcs
  · refine ⟨[], ?_, by rw [hfraction]; rfl⟩
    have hread : readWhole (wholePart cs ++ []) = .ok (wholePart cs, []) :=
      readWhole_append h.whole (by simp)
    rwa [List.append_nil, show readWhole (wholePart cs) = readWhole cs by rw [← hcs]] at hread
  · have hplace := h.some_place (by rw [hcs]; simp)
    have hfraction : readDigits (fractionPart cs ++ []) = .ok (fractionPart cs, []) :=
      readDigits_append h.fraction hplace (by simp)
    have hwhole : readWhole (wholePart cs ++ '.' :: fractionPart cs) =
        .ok (wholePart cs, '.' :: fractionPart cs) :=
      readWhole_append h.whole (by simp)
    rw [List.append_nil] at hfraction
    rw [← hcs] at hwhole
    exact ⟨'.' :: fractionPart cs, hwhole, hfraction⟩

theorem readNumeral_of_isPlainNumber (h : IsPlainNumber cs) :
    readNumeral cs =
      .ok ({ negative := false, whole := wholePart cs, fraction := fractionPart cs,
             exponent := none }, []) := by
  obtain ⟨rest, hwhole, hfraction⟩ := exists_readWhole_eq h
  obtain ⟨first, later, hcs, hdigit⟩ := h.exists_digit
  unfold readNumeral
  split
  next negative unsigned hunsigned =>
    obtain ⟨rfl, rfl⟩ : negative = false ∧ unsigned = cs := by
      subst hcs
      split at hunsigned
      next heq =>
        obtain ⟨rfl, -⟩ := List.cons.inj heq
        cases hdigit
      next =>
        cases hunsigned
        exact ⟨rfl, rfl⟩
    simp only [hwhole, hfraction, bind, Except.bind]
    rfl

/-- A document that is a number is read as it is written. -/
theorem readDocument_of_isPlainNumber (h : IsPlainNumber cs) :
    readDocument (String.ofList cs) =
      .ok (.number { negative := false, whole := wholePart cs, fraction := fractionPart cs,
                     exponent := none }) := by
  obtain ⟨first, later, hcs, hdigit⟩ := h.exists_digit
  have hspaces : skipSpaces cs = cs := by
    rw [hcs, skipSpaces, List.dropWhile_cons_of_neg]
    intro hspace
    simp only [isSpace, Bool.or_eq_true, beq_iff_eq] at hspace
    rcases hspace with ((rfl | rfl) | rfl) | rfl <;> cases hdigit
  have hfirst : ∀ {c rest}, cs = c :: rest → c.isDigit = true := by
    intro c rest heq
    rw [hcs] at heq
    rwa [← (List.cons.inj heq).1]
  have hvalue : readValue (2 * cs.length + 2) cs = .ok (.number
      { negative := false, whole := wholePart cs, fraction := fractionPart cs, exponent := none },
          []) := by
    unfold readValue
    rw [hspaces]
    split
    next => cases hfirst rfl
    next => cases hfirst rfl
    next => cases hfirst rfl
    next => cases hfirst rfl
    next => cases hfirst rfl
    next => cases hfirst rfl
    next =>
      rw [readNumeral_of_isPlainNumber h]
      rfl
  simp only [readDocument, String.toList_ofList, hvalue]
  rfl

/-! ### Values -/

section Value

variable {significand places : ℕ}

/-- Digits that fit into 64 bits are all taken. -/
theorem takeFitting_eq (h : significand * 10 ^ digits.length + digitsValue digits < wordBound) :
    takeFitting significand digits =
      (significand * 10 ^ digits.length + digitsValue digits, []) := by
  induction digits generalizing significand with
  | nil => simp [takeFitting, digitsValue]
  | cons c digits ih =>
    rw [mul_add_digitsValue_cons] at h ⊢
    have hgrows := Nat.le_mul_of_pos_right (10 * significand + digitValue c)
      (Nat.pow_pos (n := digits.length) (by decide : 0 < 10))
    rw [takeFitting, if_pos (by omega), ih h]

/-- A short significand is divided by a power of ten in one step. -/
theorem scaled?_neg (hsignificand : significand ≤ 2 ^ (53 : Nat)) (hpositive : 0 < places)
    (hplaces : places ≤ 22) :
    scaled? significand (-(places : ℤ)) =
      some (Double.ofRatio false significand (10 ^ places)) := by
  have hquotient :=
    Double.div_of_isNat (Double.isNat_ofNat hsignificand) (Double.isNat_ofNat_ten_pow hplaces)
    (Nat.pow_pos (by decide))
  rw [scaled?, if_pos (by omega), Int.neg_neg, Int.toNat_natCast, divideByPower,
    if_pos (by omega), hquotient]

/-- A whole number within 64 bits is rounded once. -/
theorem double?_bind_datum?_of_whole {whole : List Char} (h : digitsValue whole < wordBound) :
    ({ negative := false, whole, fraction := [], exponent := none } : Numeral).datum?.bind
        Datum.double? =
      some (Double.ofRatio false (digitsValue whole) 1) := by
  simp only [Numeral.datum?, ne_eq, not_true_eq_false, Option.isSome_none, Bool.false_eq_true,
    or_self, if_false, if_pos h, Option.bind_some, Datum.double?]
  rw [Double.ofInt, Int.natAbs_natCast, decide_eq_false (by omega)]

/-- A short number is its digits over a power of ten, rounded once. -/
theorem double?_bind_datum?_of_digits {whole fraction : List Char}
    (hsignificand : digitsValue (whole ++ fraction) ≤ 2 ^ (53 : Nat))
    (hplaces : fraction.length ≤ 22) :
    ({ negative := false, whole, fraction, exponent := none } : Numeral).datum?.bind Datum.double? =
      some (Double.ofRatio false (digitsValue (whole ++ fraction)) (10 ^ fraction.length)) := by
  have hvalue := digitsValue_append whole fraction
  have hword : 2 ^ (53 : Nat) < wordBound := by decide
  by_cases hwhole : fraction = []
  · subst hwhole
    rw [List.append_nil] at hsignificand ⊢
    exact double?_bind_datum?_of_whole (Nat.lt_of_le_of_lt hsignificand hword)
  · have hlength : 0 < fraction.length := List.length_pos_of_ne_nil hwhole
    have hgrows := Nat.le_mul_of_pos_right (digitsValue whole)
      (Nat.pow_pos (n := fraction.length) (by decide : 0 < 10))
    have htaken : takeFitting 0 whole = (digitsValue whole, []) := by
      have htaken := @takeFitting_eq whole 0 (by omega)
      rwa [Nat.zero_mul, Nat.zero_add] at htaken
    have htakenAll :
        takeFitting (digitsValue whole) fraction = (digitsValue (whole ++ fraction), []) := by
      rw [takeFitting_eq (by omega), hvalue]
    simp only [Numeral.datum?, Numeral.double?, hwhole, ne_eq, not_false_eq_true, true_or, if_true,
      htaken, htakenAll, List.length_nil, Nat.sub_zero, Int.natCast_zero, Int.zero_sub,
      scaled?_neg hsignificand hlength hplaces]
    rfl

/-- A short plain number is its significand over a power of ten, rounded once. -/
theorem double?_bind_datum? (hsignificand : Text.significand cs ≤ 2 ^ (53 : Nat))
    (hplaces : (fractionPart cs).length ≤ 22) :
    ({ negative := false, whole := wholePart cs, fraction := fractionPart cs, exponent := none } :
      Numeral).datum?.bind Datum.double? =
        some (Double.ofRatio false (Text.significand cs) (10 ^ (fractionPart cs).length)) :=
  double?_bind_datum?_of_digits hsignificand hplaces

end Value

/-! ### Exact values -/

/-- The number that is written, before it is rounded to a double. -/
def Numeral.toRat (numeral : Numeral) : ℚ :=
  let size : ℚ := digitsValue (numeral.whole ++ numeral.fraction) / 10 ^ numeral.fraction.length
  let power : ℚ := match numeral.exponent with
    | none => 1
    | some (false, digits) => 10 ^ digitsValue digits
    | some (true, digits) => 1 / 10 ^ digitsValue digits
  if numeral.negative then -(size * power) else size * power

/-- Is this a number without a sign and an exponent that is a whole number within 64 bits, or has no
    more than 53 binary digits and 22 places? -/
inductive Numeral.IsShort : Numeral → Prop
  | whole {whole : List Char} (h : digitsValue whole < wordBound) :
      IsShort { negative := false, whole, fraction := [], exponent := none }
  | pointed {whole fraction : List Char}
      (hsignificand : digitsValue (whole ++ fraction) ≤ 2 ^ (53 : Nat))
      (hplaces : fraction.length ≤ 22) :
      IsShort { negative := false, whole, fraction, exponent := none }

/-- A short number is rounded once. -/
theorem Numeral.IsShort.exists_ofRatio {numeral : Numeral} (h : numeral.IsShort) :
    ∃ num den : ℕ, 0 < den ∧ numeral.toRat = num / den ∧
      numeral.datum?.bind Datum.double? = some (Double.ofRatio false num den) := by
  cases h with
  | @whole whole h =>
    exact ⟨_, 1, Nat.one_pos, by simp [Numeral.toRat], double?_bind_datum?_of_whole h⟩
  | pointed hsignificand hplaces =>
    exact ⟨_, _, Nat.pow_pos (by decide), by simp [Numeral.toRat],
      double?_bind_datum?_of_digits hsignificand hplaces⟩

end FeeOracle.Json
