import FeeOracle.Exchange.PriceField
import FeeOracle.Proofs.Consensus.Mean
import FeeOracle.Proofs.Decimal.Double
import FeeOracle.Proofs.Decimal.Reader
import FeeOracle.Proofs.Json.Number
import FeeOracle.Proofs.Json.Record
import FeeOracle.Proofs.Ticker

/-!
# Short prices

A short price has 15 digits at most, 22 places at most, and is above zero (`IsShortPrice`). Written
as a text it is read as a decimal number and converted; written as a number it is a significand that
is divided by a power of ten. Both ways end with the same single rounding, so that both give the
nearest double.
-/

namespace FeeOracle.Exchange

open Text

/-- Is this a plain numeral above zero, with 15 digits at most apart from zeros in front, and 22
    places at most? -/
structure IsShortPrice (cs : List Char) : Prop extends IsPlainNumeral cs where
  short : ((wholePart cs ++ fractionPart cs).dropWhile (· == '0')).length ≤ 15
  places : (fractionPart cs).length ≤ 22
  positive : 0 < numeralValue cs

/-- The quotient of the digits and the power of ten of the places, rounded once. -/
def roundedPrice (cs : List Char) : Double :=
  Double.ofRatio false (significand cs) (10 ^ (fractionPart cs).length)

namespace IsShortPrice

variable {cs lead trail : List Char}

theorem significand_lt (h : IsShortPrice cs) : significand cs < 10 ^ 15 :=
  Nat.lt_of_lt_of_le h.toIsPlainNumeral.significand_lt (Nat.pow_le_pow_right (by decide) h.short)

theorem significand_pos (h : IsShortPrice cs) : 0 < significand cs := by
  refine Nat.pos_of_ne_zero fun hzero => ?_
  have hpositive := h.positive
  rw [numeralValue_eq_significand_div, hzero, Nat.cast_zero, zero_div] at hpositive
  exact lt_irrefl _ hpositive

theorem power_pos (cs : List Char) : 0 < 10 ^ (fractionPart cs).length := Nat.pow_pos (by decide)

theorem numeralValue_eq (cs : List Char) :
    numeralValue cs = significand cs / (10 ^ (fractionPart cs).length : ℕ) := by
  rw [numeralValue_eq_significand_div, Nat.cast_pow, Nat.cast_ofNat]

theorem rounds (h : IsShortPrice cs) : Double.Rounds (numeralValue cs) (roundedPrice cs) := by
  have hpower : 10 ^ (fractionPart cs).length ≤ 10 ^ 22 := Nat.pow_le_pow_right (by decide) h.places
  rw [numeralValue_eq]
  exact Double.rounds_ofRatio (power_pos cs)
    (Double.isModerate_div h.significand_pos h.significand_lt.le (power_pos cs) hpower)

theorem isNearest (h : IsShortPrice cs) : Double.IsNearest (numeralValue cs) (roundedPrice cs) := by
  rw [numeralValue_eq]
  exact Double.isNearest_ofRatio (power_pos cs) h.rounds.finite

theorem isUsable (h : IsShortPrice cs) : isUsablePrice (roundedPrice cs) = true :=
  isUsablePrice_iff.2 ⟨h.rounds.sign, Nat.pos_of_ne_zero (h.rounds.magnitude_ne_zero h.positive),
    Double.isFinite_iff.1 h.rounds.finite⟩

theorem isTrimmed (h : IsShortPrice cs) : IsTrimmed cs :=
  isTrimmed_of_not_isBlank h.isBlank_eq_false

/-- Both readings of a price end with the price itself. -/
theorem price_eq {exchange : String} {field : PriceField} (h : IsShortPrice cs)
    (hvalue : field.value exchange = .ok (roundedPrice cs)) :
    field.price exchange = .ok (roundedPrice cs) := by
  simp only [PriceField.price, hvalue, bind, Except.bind]
  exact validatePrice_eq_ok_iff.2 ⟨h.isUsable, rfl⟩

theorem value_text (exchange : String) (h : IsShortPrice cs) (hlead : ∀ c ∈ lead, isBlank c = true)
    (htrail : ∀ c ∈ trail, isBlank c = true) :
    (PriceField.text (String.ofList (lead ++ cs ++ trail))).value exchange =
      .ok (roundedPrice cs) := by
  have htrim : trim (String.ofList (lead ++ cs ++ trail)) = String.ofList cs := by
    rw [trim, String.toList_ofList, trimBlanks_append hlead htrail,
      trimBlanks_of_isTrimmed h.isTrimmed]
  have hbound : 10 ^ 15 < Decimal.coefficientBound ∧ 22 ≤ Decimal.maxScale := by decide +kernel
  have hplaces := h.places
  have hsignificand := h.significand_lt
  obtain ⟨x, hx⟩ := Decimal.exists_of?_eq_some_iff.2
    ⟨Nat.lt_trans hsignificand hbound.1, Nat.le_trans hplaces hbound.2⟩
  obtain ⟨hsign, hcoefficient, hscale⟩ := Decimal.of?_eq_some_iff.1 hx
  have hdouble : x.toDouble = roundedPrice cs := by
    rw [Decimal.toDouble, if_neg (by simp [hsign]),
      Decimal.magnitudeToDouble_eq_ofRatio (by omega) (by omega),
      hcoefficient, hscale, roundedPrice]
  simp only [PriceField.value, htrim,
    Decimal.parse_of_isPlainNumeral h.toIsPlainNumeral hx, hdouble]

theorem ofWritten?_number (h : IsShortPrice cs) :
    PriceField.ofWritten? (.number
      { negative := false, whole := wholePart cs, fraction := fractionPart cs, exponent := none }) =
      some (.number (roundedPrice cs)) := by
  have hsignificand := h.significand_lt
  rw [PriceField.ofWritten?, Json.double?_bind_datum? (by omega) h.places]
  rfl

end IsShortPrice

/-- The digits of a whole number are a short price, if there are no more than 15 of them. -/
theorem isShortPrice_toDigits {k : ℕ} (hpositive : 0 < k) (hshort : k < 10 ^ 15) :
    IsShortPrice (Nat.toDigits 10 k) := by
  have hdigits := (isWholeNumeral_toDigits k).isDigit
  have hlength : (Nat.toDigits 10 k).length ≤ 15 :=
    (Nat.length_toDigits_le_iff (by decide) (by decide)).2 hshort
  have hwhole := wholePart_of_isDigit hdigits
  have hfraction := fractionPart_of_isDigit hdigits
  refine ⟨⟨by rwa [hwhole], by simp [hfraction], by simp [hwhole, Nat.toDigits_ne_nil]⟩, ?_,
    by simp [hfraction], ?_⟩
  · rw [hwhole, hfraction, List.append_nil]
    exact Nat.le_trans (List.dropWhile_sublist _).length_le hlength
  · rw [numeralValue_of_isDigit hdigits, digitsValue_toDigits]
    exact_mod_cast hpositive

/-- Written as a text, with blanks around it or not, a short price is read as the double nearest to
    it. Zeros at either end make no difference as long as the price is short, and neither does it
    make a difference if it is written as a number, where documents allow that. -/
theorem price_of_isShortPrice (exchange : String) {cs lead trail : List Char}
    (hshort : IsShortPrice cs) (hlead : ∀ c ∈ lead, isBlank c = true)
    (htrail : ∀ c ∈ trail, isBlank c = true) :
    ∃ x, Double.IsNearest (numeralValue cs) x ∧
      (PriceField.text (String.ofList (lead ++ cs ++ trail))).price exchange = .ok x ∧
      (∀ other lead trail,
        IsShortPrice other → (∀ c ∈ lead, isBlank c = true) → (∀ c ∈ trail, isBlank c = true) →
        numeralValue other = numeralValue cs →
        (PriceField.text (String.ofList (lead ++ other ++ trail))).price exchange = .ok x) ∧
      (Json.IsPlainNumber cs →
        Json.decode PriceField.ofWritten? (String.ofList cs) = .ok (.number x) ∧
        (PriceField.number x).price exchange = .ok x) := by
  refine ⟨roundedPrice cs, hshort.isNearest,
    hshort.price_eq (hshort.value_text exchange hlead htrail), ?_, ?_⟩
  · intro other otherLead otherTrail hother hotherLead hotherTrail hequal
    have hnearest := hother.isNearest
    rw [hequal] at hnearest
    rw [← hnearest.unique hshort.isNearest rfl rfl]
    exact hother.price_eq (hother.value_text exchange hotherLead hotherTrail)
  · intro hnumber
    have hread := Json.readDocument_of_isPlainNumber hnumber
    exact ⟨Json.decode_eq_ok_iff.2 ⟨_, hread, hshort.ofWritten?_number⟩, hshort.price_eq rfl⟩

/-- A price of 15 digits between blanks, and one of fewer digits with zeros at both ends. -/
theorem price_of_isShortPrice_padded :
    (PriceField.text " 1234567890.12345\n").price "kraken" = .ok 1234567890.12345 ∧
    Double.IsNearest (123456789012345 / 10 ^ 5) 1234567890.12345 ∧
    (PriceField.text "0065043.2100").price "kraken" = (PriceField.text "65043.21").price "kraken" ∧
    Json.decode PriceField.ofWritten? "65043.21" = .ok (.number 65043.21) := by
  have hlong : IsShortPrice "1234567890.12345".toList :=
    ⟨⟨List.all_eq_true.1 (by decide), List.all_eq_true.1 (by decide), by decide⟩, by decide, by
      decide, by decide +kernel⟩
  have hshort : IsShortPrice "65043.21".toList :=
    ⟨⟨List.all_eq_true.1 (by decide), List.all_eq_true.1 (by decide), by decide⟩, by decide, by
      decide, by decide +kernel⟩
  have hpadded : IsShortPrice "0065043.2100".toList :=
    ⟨⟨List.all_eq_true.1 (by decide), List.all_eq_true.1 (by decide), by decide⟩, by decide, by
      decide, by decide +kernel⟩
  obtain ⟨x, hnearest, hprice, -⟩ :=
    @price_of_isShortPrice "kraken" _ [' '] ['\n'] hlong (List.all_eq_true.1 (by decide))
      (List.all_eq_true.1 (by decide))
  have hread : (PriceField.text " 1234567890.12345\n").price "kraken" = .ok 1234567890.12345 := by
    decide +kernel
  have hvalue : numeralValue "1234567890.12345".toList = 123456789012345 / 10 ^ 5 := by
    decide +kernel
  obtain rfl : x = 1234567890.12345 := Except.ok.inj (hprice.symm.trans hread)
  obtain ⟨y, -, hplain, hother, hnumber⟩ :=
    @price_of_isShortPrice "kraken" _ [] [] hshort (by simp) (by simp)
  have hsame := hother _ [] [] hpadded (by simp) (by simp) (by decide +kernel)
  have hreadPlain : (PriceField.text "65043.21").price "kraken" = .ok 65043.21 := by decide +kernel
  obtain rfl : y = 65043.21 := Except.ok.inj (hplain.symm.trans hreadPlain)
  have hnumeral : Json.IsPlainNumber "65043.21".toList :=
    ⟨.positive (by decide) (by decide) (List.all_eq_true.1 (by decide)),
    List.all_eq_true.1 (by decide), by decide⟩
  exact ⟨hread, hvalue ▸ hnearest, hsame.trans hreadPlain.symm, (hnumber hnumeral).1⟩

end FeeOracle.Exchange
