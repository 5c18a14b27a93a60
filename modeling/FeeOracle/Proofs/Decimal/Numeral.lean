import FeeOracle.Decimal.Binary
import FeeOracle.Decimal.Nearest
import FeeOracle.Proofs.Text.Numeral

/-!
# Numerals of decimal numbers

A decimal number that is not negative is written as the plain numeral of its coefficient over the
power of ten of its scale (`toList_text`), which is canonical once the zeros are stripped
(`isCanonicalNumeral_text_canonical`). What is computed from numbers that are not negative is not
negative.
-/

namespace FeeOracle.Decimal

open Text

section Text

/-- Zeros in front fill the digits up to one before the point. -/
theorem replicate_append_toDigits (n scale : Nat) :
    List.replicate (scale + 1 - (Nat.toDigits 10 n).length) '0' ++ Nat.toDigits 10 n =
      Nat.toDigits 10 (n / 10 ^ scale) ++ lastDigits n scale := by
  induction scale generalizing n with
  | zero =>
    have hsome : 0 < (Nat.toDigits 10 n).length := Nat.length_toDigits_pos
    rw [Nat.sub_eq_zero_of_le (by omega), Nat.pow_zero, Nat.div_one]
    simp [lastDigits]
  | succ scale ih =>
    have hquotient : n / 10 ^ (scale + 1) = n / 10 / 10 ^ scale := by
      rw [Nat.pow_succ', Nat.div_div_eq_div_mul]
    rw [lastDigits, hquotient, ← List.append_assoc, ← ih]
    by_cases hsmall : n < 10
    · have hzero : n / 10 = 0 := by omega
      rw [Nat.toDigits_of_lt_base hsmall, hzero, Nat.toDigits_zero, Nat.mod_eq_of_lt hsmall]
      simp [← List.replicate_succ']
    · rw [Nat.toDigits_of_base_le (by decide) (Nat.le_of_not_lt hsmall), List.length_append,
        List.length_singleton, List.append_assoc, Nat.add_sub_add_right]

theorem pointedDigits_toDigits (n scale : Nat) :
    pointedDigits (Nat.toDigits 10 n) scale = numeralText n scale := by
  have hlength : (Nat.toDigits 10 (n / 10 ^ scale) ++ lastDigits n scale).length - scale =
      (Nat.toDigits 10 (n / 10 ^ scale)).length := by simp [length_lastDigits]
  simp only [pointedDigits, numeralText, replicate_append_toDigits, hlength, List.take_left,
    List.drop_left]

theorem toList_text {x : Decimal} (h : x.negative = false) :
    x.text.toList = numeralText x.coefficient x.scale := by
  simp [text, h, pointedDigits_toDigits]

theorem toRat_eq_div {x : Decimal} (h : x.negative = false) :
    x.toRat = x.coefficient / 10 ^ x.scale := by
  simp [toRat, h, Rat.mkRat_eq_div]

@[simp] theorem negative_canonical (x : Decimal) : x.canonical.negative = x.negative := rfl

/-- The number of least scale is the same number. -/
theorem toRat_canonical {x : Decimal} (h : x.negative = false) : x.canonical.toRat = x.toRat := by
  have hvalue : x.canonical.coefficient * 10 ^ (x.scale - x.canonical.scale) = x.coefficient :=
    stripZeros_value ..
  have hscale : x.canonical.scale ≤ x.scale := (stripZeros_le ..).2
  rw [toRat_eq_div h, toRat_eq_div (by rwa [negative_canonical]),
    div_eq_div_iff (by positivity) (by positivity)]
  norm_cast
  calc x.canonical.coefficient * 10 ^ x.scale
      = x.canonical.coefficient * 10 ^ (x.scale - x.canonical.scale) * 10 ^ x.canonical.scale := by
        rw [Nat.mul_assoc, ← Nat.pow_add, Nat.sub_add_cancel hscale]
    _ = x.coefficient * 10 ^ x.canonical.scale := by rw [hvalue]

/-- The text of a number writes its value. -/
theorem numeralValue_text {x : Decimal} (h : x.negative = false) :
    numeralValue x.text.toList = x.toRat := by
  rw [toList_text h, numeralValue_numeralText, toRat_eq_div h]

theorem isReduced_stripZeros (coefficient scale : Nat) :
    IsReduced (stripZeros coefficient scale).1 (stripZeros coefficient scale).2 := by
  induction scale generalizing coefficient with
  | zero => exact .inl rfl
  | succ scale ih =>
    simp only [stripZeros]
    split
    next => exact ih (coefficient / 10)
    next hrest => exact .inr hrest

/-- The text of the number of least scale is canonical. -/
theorem isCanonicalNumeral_text_canonical {x : Decimal} (h : x.negative = false) {places : Nat}
    (hscale : x.scale ≤ places) : IsCanonicalNumeral places x.canonical.text.toList := by
  rw [toList_text (x.negative_canonical.trans h)]
  exact isCanonicalNumeral_numeralText (Nat.le_trans (stripZeros_le ..).2 hscale)
    (isReduced_stripZeros ..)

end Text

section Sign

theorem negative_of_of? {negative : Bool} {coefficient scale : Nat} {x : Decimal}
    (h : of? negative coefficient scale = some x) (hsign : negative = false) :
    x.negative = false := by
  unfold of? at h
  split at h
  · cases h
    simp [hsign]
  · cases h

theorem negative_of_nearest? {negative : Bool} {num den : Nat} {x : Decimal}
    (h : nearest? negative num den = some x) (hsign : negative = false) : x.negative = false := by
  unfold nearest? at h
  generalize maxScale = scale at h
  induction scale with
  | zero => exact negative_of_of? h hsign
  | succ scale ih =>
    simp only [nearestWithin?] at h
    split at h
    next y hfits =>
      cases h
      exact negative_of_of? hfits hsign
    next => exact ih h

theorem negative_of_mul? {x y z : Decimal} (h : x.mul? y = some z) (hx : x.negative = false)
    (hy : y.negative = false) : z.negative = false :=
  negative_of_nearest? h (by simp [hx, hy])

theorem negative_of_div? {x y z : Decimal} (h : x.div? y = some z) (hx : x.negative = false)
    (hy : y.negative = false) : z.negative = false := by
  unfold div? at h
  split at h
  · cases h
  · exact negative_of_nearest? h (by simp [hx, hy])

theorem negative_of_ofParts? {negative : Bool} {coefficient places : Nat} {x : Decimal}
    (h : ofParts? negative coefficient places = some x) (hsign : negative = false) :
    x.negative = false :=
  negative_of_of? h hsign

theorem negative_of_ofDouble? {price : Double} {x : Decimal} (h : ofDouble? price = some x)
    (hsign : price.negative = false) : x.negative = false := by
  unfold ofDouble? at h
  split at h
  · cases h
  · dsimp only at h
    rcases ite_eq_iff.1 h with ⟨-, h⟩ | ⟨-, h⟩
    · exact negative_of_ofParts? h hsign
    · rcases ite_eq_iff.1 h with ⟨-, h⟩ | ⟨-, h⟩
      · exact negative_of_ofParts? h hsign
      · cases h

end Sign

end FeeOracle.Decimal
