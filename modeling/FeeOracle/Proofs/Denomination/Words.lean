import FeeOracle.Proofs.Denomination.Steps

/-!
# Shifts in machine words

The shift of a conversion is the difference of two numbers of 32 bits, and its power of ten is a
whole number. Neither needs more than the words that a machine computes with: the difference is
taken in 64 bits and the power in 128 bits, both with a sign. The power is found by repeated
squaring, which ends after as many rounds as the exponent has binary digits, and a product that does
not fit is noticed at once (`wordPower?_eq`). So the machine comes to the same power as
`powerOfTen`, and refuses the same shifts (`wordPowerOfTen_wordShift`).
-/

namespace FeeOracle.Denomination

open Decimal

/-- The bound of numbers of 128 bits with a sign. -/
def wordBound : ℕ := 2 ^ (127 : Nat)

/-- The product of two numbers, if it fits a word. -/
def wordProduct? (x y : ℕ) : Option ℕ := if x * y < wordBound then some (x * y) else none

/-- `total · base ^ exponent` by repeated squaring, if every product on the way fits a word. The
    base is squared only as long as it is needed. -/
def wordPower? (total base exponent : ℕ) : Option ℕ :=
  if exponent = 0 then some total
  else
    (if exponent % 2 = 1 then wordProduct? total base else some total).bind fun total =>
      if exponent = 1 then some total
      else (wordProduct? base base).bind fun base => wordPower? total base (exponent / 2)
termination_by exponent
decreasing_by omega

/-- The shift in 64 bits with a sign. -/
def wordShift (assetDecimals nativeUnitDecimals : UInt32) : Int64 :=
  Int64.ofNat assetDecimals.toNat - Int64.ofNat nativeUnitDecimals.toNat

/-- The power of ten of a shift in words, for a shift of at most 32 bits apart from its sign. -/
def wordPowerOfTen (shift : Int64) : Except ConversionError Decimal :=
  let digits := shift.toInt.natAbs
  let power :=
    if 2 ^ (32 : Nat) ≤ digits then none
    else if 0 ≤ shift then (wordPower? 1 10 digits).bind (of? false · 0)
    else of? false 1 digits
  match power with
  | some x => .ok x
  | none => .error (.shiftOutOfRange shift.toInt)

/-- Nothing on the way to a power is greater than the power itself, so it is found if and only if it
    fits. -/
theorem wordPower?_eq {total base : ℕ} (exponent : ℕ) (htotal : 0 < total) (hbase : 0 < base)
    (hfits : total < wordBound) :
    wordPower? total base exponent =
      if total * base ^ exponent < wordBound then some (total * base ^ exponent) else none := by
  induction exponent using Nat.strongRecOn generalizing total base with
  | ind exponent ih =>
    rw [wordPower?]
    by_cases hzero : exponent = 0
    · simp [hzero, hfits]
    · -- One round takes the last binary digit of the exponent into the total.
      have hround : (if exponent % 2 = 1 then wordProduct? total base else some total) =
          if total * base ^ (exponent % 2) < wordBound then some (total * base ^ (exponent % 2))
              else none := by
        rcases Nat.mod_two_eq_zero_or_one exponent with heven | hodd
        · simp [heven, hfits]
        · simp [hodd, wordProduct?]
      have hpower : total * base ^ exponent =
          total * base ^ (exponent % 2) * (base * base) ^ (exponent / 2) := by
        rw [← pow_two, ← pow_mul, mul_assoc, ← pow_add, Nat.mod_add_div]
      have hpositive : 0 < total * base ^ (exponent % 2) := by positivity
      rw [if_neg hzero, hround, hpower]
      generalize total * base ^ (exponent % 2) = next at *
      by_cases hnext : next < wordBound
      · rw [if_pos hnext, Option.bind_some]
        by_cases hone : exponent = 1
        · simp [hone, hnext]
        · have hsquare : base * base ≤ next * (base * base) ^ (exponent / 2) :=
            calc base * base ≤ (base * base) ^ (exponent / 2) := Nat.le_self_pow (by omega) _
              _ ≤ next * (base * base) ^ (exponent / 2) := Nat.le_mul_of_pos_left _ hpositive
          rw [if_neg hone, wordProduct?]
          by_cases hbaseFits : base * base < wordBound
          · rw [if_pos hbaseFits, Option.bind_some]
            exact ih (exponent / 2) (by omega) hpositive (by positivity) hnext
          · rw [if_neg hbaseFits, if_neg (by omega)]
            rfl
      · have hgrows : next ≤ next * (base * base) ^ (exponent / 2) :=
          Nat.le_mul_of_pos_right _ (Nat.pow_pos (Nat.mul_pos hbase hbase))
        rw [if_neg hnext, if_neg (by omega)]
        rfl

/-- The difference of two numbers of 32 bits fits 64 bits. -/
theorem toInt_wordShift (assetDecimals nativeUnitDecimals : UInt32) :
    (wordShift assetDecimals nativeUnitDecimals).toInt =
      (assetDecimals.toNat : ℤ) - nativeUnitDecimals.toNat := by
  have hasset := assetDecimals.toNat_lt
  have hnative := nativeUnitDecimals.toNat_lt
  rw [wordShift, Int64.toInt_sub, Int64.toInt_ofNat_of_lt (by omega),
    Int64.toInt_ofNat_of_lt (by omega)]
  exact Int.bmod_eq_of_le (by omega) (by omega)

/-- A power of ten that fits the coefficient of a decimal number fits a word, and one that fits no
    word is out of range of both. -/
theorem bind_wordPower?_of? (digits : ℕ) :
    (wordPower? 1 10 digits).bind (of? false · 0) = of? false (10 ^ min digits 29) 0 := by
  have hbounds : 10 ^ 29 < wordBound ∧ coefficientBound ≤ 10 ^ 29 := by decide +kernel
  rw [wordPower?_eq digits (by decide) (by decide) (by decide +kernel), Nat.one_mul]
  rcases Nat.lt_or_ge digits 29 with hfew | hmany
  · have hfits : 10 ^ digits < wordBound :=
      Nat.lt_trans (Nat.pow_lt_pow_right (by decide) hfew) hbounds.1
    rw [if_pos hfits, Option.bind_some, Nat.min_eq_left (Nat.le_of_lt hfew)]
  · have hrefused (n : ℕ) (hn : 10 ^ 29 ≤ n) : of? false n 0 = none :=
      (of?_eq_none_iff (Nat.zero_le _)).2 (Nat.le_trans hbounds.2 hn)
    rw [Nat.min_eq_right hmany, hrefused _ le_rfl]
    split
    · exact hrefused _ (Nat.pow_le_pow_right (by decide) hmany)
    · rfl

/-- In words the power of ten of a shift, or the refusal of the shift, is the same as without any
    bounds. -/
theorem wordPowerOfTen_wordShift (assetDecimals nativeUnitDecimals : UInt32) :
    wordPowerOfTen (wordShift assetDecimals nativeUnitDecimals) =
      powerOfTen ((assetDecimals.toNat : ℤ) - nativeUnitDecimals.toNat) := by
  have hasset := assetDecimals.toNat_lt
  have hnative := nativeUnitDecimals.toNat_lt
  have hsign : 0 ≤ wordShift assetDecimals nativeUnitDecimals ↔
      (0 : ℤ) ≤ (assetDecimals.toNat : ℤ) - nativeUnitDecimals.toNat := by
    rw [Int64.le_iff_toInt_le, toInt_wordShift]
    rfl
  have hdigits :
      ¬ 2 ^ (32 : Nat) ≤ ((assetDecimals.toNat : ℤ) - nativeUnitDecimals.toNat).natAbs := by omega
  simp only [wordPowerOfTen, toInt_wordShift, hsign, if_neg hdigits, bind_wordPower?_of?]
  rfl

/-- The greatest shift of all is refused after a few rounds. -/
example : wordPower? 1 10 (2 ^ 32 - 1) = none := by decide +kernel

end FeeOracle.Denomination
