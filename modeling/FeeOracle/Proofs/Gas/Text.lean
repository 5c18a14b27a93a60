import FeeOracle.Proofs.Decimal.Reader
import FeeOracle.Proofs.Gas.Payload

/-!
# Tiers as texts

A text that writes a number of 28 digits is read without a loss, and so the tier is the whole number
nearest to it, the even one of two. It is refused if it is too great, and so is a number below zero
(`tierOfText_of_negative`). A service that sends texts is believed only if its document tells of
success and all three texts are accepted (`tierOfText_of_short_numeral`).
-/

namespace FeeOracle

open Json Text Decimal

section Short

variable {name : String} {cs lead trail : List Char}

/-- A tier is rounded from the number that stands between the blanks. -/
theorem tierOfText_trimmed (name : String) {x : Decimal} (hlead : ∀ c ∈ lead, isBlank c = true)
    (hcs : IsTrimmed cs) (htrail : ∀ c ∈ trail, isBlank c = true) (hread : readPlain cs = .ok x) :
    tierOfText name (String.ofList (lead ++ cs ++ trail)) =
      if x.negative = true ∨ maxTier < halfEven x.coefficient (10 ^ x.scale) then
        .error (invalidTier name (String.ofList (lead ++ cs ++ trail)))
      else .ok (halfEven x.coefficient (10 ^ x.scale)) := by
  have htrim : (trim (String.ofList (lead ++ cs ++ trail))).toList = cs := by
    rw [trim, String.toList_ofList, String.toList_ofList, trimBlanks_append hlead htrail,
      trimBlanks_of_isTrimmed hcs]
  simp only [tierOfText, htrim, hread]

/-- The digits of a short numeral fit, on both sides of the point. -/
theorem exists_readDigits_of_short (h : IsPlainNumeral cs)
    (hshort : (wholePart cs ++ fractionPart cs).length ≤ 28) :
    ∃ x, readDigits zero false false cs = .ok x ∧ x.negative = false ∧
      x.coefficient = significand cs ∧
      x.scale = (fractionPart cs).length := by
  have hbound : 10 ^ 28 < coefficientBound := by decide
  have hsignificand : significand cs < 10 ^ 28 :=
    Nat.lt_of_lt_of_le (digitsValue_lt h.isDigit) (Nat.pow_le_pow_right (by decide) hshort)
  rw [List.length_append] at hshort
  obtain ⟨x, hx⟩ := exists_of?_eq_some_iff.2
    ⟨Nat.lt_trans hsignificand hbound, show (fractionPart cs).length ≤ maxScale by
      rw [maxScale]; omega⟩
  obtain ⟨hsign, hcoefficient, hscale⟩ := of?_eq_some_iff.1 hx
  exact ⟨x, readDigits_of_isPlainNumeral h hx, by simp [hsign], hcoefficient, hscale⟩

/-- The tier of a short numeral. -/
theorem exists_tierOfText_eq (name : String) (h : IsPlainNumeral cs)
    (hshort : (wholePart cs ++ fractionPart cs).length ≤ 28) (hlead : ∀ c ∈ lead, isBlank c = true)
    (htrail : ∀ c ∈ trail, isBlank c = true) :
    ∃ units, IsNearestEven (numeralValue cs) units ∧
      tierOfText name (String.ofList (lead ++ cs ++ trail)) =
        if units < 2 ^ (64 : Nat) then .ok units
        else .error (invalidTier name (String.ofList (lead ++ cs ++ trail))) := by
  obtain ⟨x, hread, hsign, hcoefficient, hscale⟩ := exists_readDigits_of_short h hshort
  have hnearest := isNearestEven_halfEven (significand cs)
    (Nat.pow_pos (n := (fractionPart cs).length) (by decide : 0 < 10))
  rw [Nat.cast_pow, Nat.cast_ofNat, ← numeralValue_eq_significand_div] at hnearest
  refine ⟨_, hnearest, ?_⟩
  rw [← readPlain_of_isPlainNumeral h] at hread
  rw [tierOfText_trimmed name hlead (isTrimmed_of_not_isBlank h.isBlank_eq_false) htrail hread]
  simp only [hsign, hcoefficient, hscale, Bool.false_eq_true, false_or, maxTier]
  split_ifs <;> first | rfl | omega

/-- A short numeral below zero is refused. -/
theorem tierOfText_of_negative (name : String) (h : IsPlainNumeral cs)
    (hshort : (wholePart cs ++ fractionPart cs).length ≤ 28) (hlead : ∀ c ∈ lead, isBlank c = true)
    (htrail : ∀ c ∈ trail, isBlank c = true) (hnonzero : numeralValue cs ≠ 0) :
    tierOfText name (String.ofList (lead ++ ('-' :: cs) ++ trail)) =
      .error (invalidTier name (String.ofList (lead ++ ('-' :: cs) ++ trail))) := by
  obtain ⟨x, hread, -, hcoefficient, -⟩ := exists_readDigits_of_short h hshort
  have hblank : ∀ c ∈ '-' :: cs, isBlank c = false :=
    List.forall_mem_cons.2 ⟨by decide, h.isBlank_eq_false⟩
  have hplain : readPlain ('-' :: cs) = .ok (withSign true x) := by
    show (readDigits zero false false cs).map (withSign true) = _
    rw [hread]
    rfl
  have hnegative : (withSign true x).negative = true := by
    have hsignificand : significand cs ≠ 0 := by
      intro hzero
      exact hnonzero (by rw [numeralValue_eq_significand_div, hzero, Nat.cast_zero, zero_div])
    simp [withSign, hcoefficient, hsignificand]
  rw [tierOfText_trimmed name hlead (isTrimmed_of_not_isBlank hblank) htrail hplain]
  exact if_pos (.inl hnegative)

end Short

/-- With blanks around it or not, a numeral of 28 digits without a sign is the tier nearest to it,
    halfway the even one, if that is below `2 ^ 64`, and is refused otherwise; below zero it is
    refused. The provider that is sent texts has tiers only if the document that it receives tells
    of success and all three texts are accepted, and then each tier is the one sent under its
    name. -/
theorem tierOfText_of_short_numeral :
    (∀ (name : String) (cs lead trail : List Char), IsPlainNumeral cs →
      (wholePart cs ++ fractionPart cs).length ≤ 28 → (∀ c ∈ lead, isBlank c = true) →
      (∀ c ∈ trail, isBlank c = true) →
      (∃ units, IsNearestEven (numeralValue cs) units ∧
        tierOfText name (String.ofList (lead ++ cs ++ trail)) =
          if units < 2 ^ (64 : Nat) then .ok units
          else .error (invalidTier name (String.ofList (lead ++ cs ++ trail)))) ∧
      (numeralValue cs ≠ 0 → tierOfText name (String.ofList (lead ++ ('-' :: cs) ++ trail)) =
        .error (invalidTier name (String.ofList (lead ++ ('-' :: cs) ++ trail))))) ∧
    ∀ (network : Http.Network) (address : String) (apiKey : Option String) (tiers : GasTiers),
      (GasProvider.status address apiKey).tiers network = .ok tiers ↔
        ∃ document safe propose fast,
          (GasProvider.status address apiKey).Receives network document ∧
          SendsTexts document safe propose fast ∧ tierOfText "SafeGasPrice" safe = .ok tiers.slow ∧
          tierOfText "ProposeGasPrice" propose = .ok tiers.fast ∧
          tierOfText "FastGasPrice" fast = .ok tiers.fastest := by
  refine ⟨fun name cs lead trail h hshort hlead htrail => ⟨?_, ?_⟩,
    fun network address apiKey tiers => ?_⟩
  · exact exists_tierOfText_eq name h hshort hlead htrail
  · exact tierOfText_of_negative name h hshort hlead htrail
  · exact GasProvider.tiers_status_eq_ok_iff

/-- Halves go to even, the first tier that is too great is refused, and so is one below zero. -/
theorem tierOfText_of_short_numeral_halves :
    IsNearestEven (25 / 2) 12 ∧ tierOfText "FastGasPrice" " 12.5\n" = .ok 12 ∧
      tierOfText "FastGasPrice" "18446744073709551615.5" =
        .error (invalidTier "FastGasPrice" "18446744073709551615.5") ∧
      tierOfText "FastGasPrice" "-.50" = .error (invalidTier "FastGasPrice" "-.50") ∧
      (GasProvider.status GasProvider.localAddress none).tiers
        (fun _ => .arrived (.plain 200 (textsText " 12.5" "13.5" "25.6"))) = .ok ⟨12, 14, 26⟩ := by
  obtain ⟨hone, hprovider⟩ := tierOfText_of_short_numeral
  have hhalf : IsPlainNumeral "12.5".toList :=
    ⟨List.all_eq_true.1 (by decide), List.all_eq_true.1 (by decide), by decide⟩
  have hgreat : IsPlainNumeral "18446744073709551615.5".toList :=
    ⟨List.all_eq_true.1 (by decide), List.all_eq_true.1 (by decide), by decide⟩
  have hbelow : IsPlainNumeral ".50".toList :=
    ⟨List.all_eq_true.1 (by decide), List.all_eq_true.1 (by decide), by decide⟩
  have hvalue : numeralValue "12.5".toList = 25 / 2 := by with_unfolding_all decide
  have hnonzero : numeralValue ".50".toList ≠ 0 := by with_unfolding_all decide
  obtain ⟨⟨units, hnearest, htier⟩, -⟩ := hone "FastGasPrice" _ [' '] ['\n'] hhalf (by decide)
    (List.all_eq_true.1 (by decide)) (List.all_eq_true.1 (by decide))
  obtain ⟨⟨great, hgreatNearest, hrefused⟩, -⟩ :=
    hone "FastGasPrice" _ [] [] hgreat (by decide) (by simp) (by simp)
  have hnegative := (hone "FastGasPrice" _ [] [] hbelow (by decide) (by simp) (by simp)).2 hnonzero
  have hread : tierOfText "FastGasPrice" " 12.5\n" = .ok 12 := rfl
  obtain rfl : units = 12 := by
    by_cases hfits : units < 2 ^ (64 : Nat)
    · rw [if_pos hfits] at htier
      exact Except.ok.inj (htier.symm.trans hread)
    · rw [if_neg hfits] at htier
      cases htier.symm.trans hread
  have hover : 2 ^ (64 : Nat) ≤ great :=
    (hgreatNearest.le_iff_of_even (by decide)).2 (by with_unfolding_all decide)
  rw [if_neg (Nat.not_lt.2 hover)] at hrefused
  have hdocument : readDocument (textsText " 12.5" "13.5" "25.6") =
      .ok (textsDocument " 12.5" "13.5" "25.6") := by
    refine readDocument_of_readValue (toList_braced _) ?_
    simp only [String.toList_append, toList_braced]
    cbv
  have harrived :=
    @GasProvider.receives_of_arrived (.status GasProvider.localAddress none) _ _ _ rfl hdocument
  have htiers := (hprovider _ _ _ ⟨12, 14, 26⟩).2
    ⟨_, _, _, _, harrived, sendsTexts_textsDocument _ _ _, rfl, rfl, rfl⟩
  exact ⟨hvalue ▸ hnearest, hread, hrefused, hnegative, htiers⟩

end FeeOracle
