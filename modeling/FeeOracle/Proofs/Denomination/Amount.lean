import FeeOracle.Denomination.Rows
import FeeOracle.Proofs.Consensus.Mean
import FeeOracle.Proofs.Decimal.Numeral
import FeeOracle.Proofs.Ticker

/-!
# The texts of amounts

Whatever a row says, it says in a canonical numeral with at most 18 digits after the point: a native
amount is a whole number, and a converted one is rounded and then stripped of the zeros at its end.
So two rows say the same number if and only if they carry the same text
(`IsAmountText.isCanonicalNumeral`).
-/

namespace FeeOracle.Denomination

open Text

/-- A finite double is usable as a price unless it is at most zero. -/
theorem le_zero_iff_of_isFinite {price : Double} (hfinite : price.isFinite = true) :
    Double.le price 0 = true ↔ isUsablePrice price = false := by
  have hlt := Double.isFinite_iff.1 hfinite
  have hnumber : price.isNaN = false := by
    simp only [Double.isNaN, decide_eq_false_iff_not]
    omega
  have hzero : Double.isNaN 0 = false := by decide +kernel
  simp [isUsablePrice, Double.le, Double.lt, hfinite, hnumber, hzero]

/-- A price becomes a decimal number if it is usable and neither too large nor too small for one. -/
theorem decimalPrice_eq_ok_iff {role : PriceRole} {price : Double} {x : Decimal} :
    decimalPrice role price = .ok x ↔
      isUsablePrice price = true ∧ Decimal.ofDouble? price = some x ∧ x.isZero = false := by
  have husable : ¬ (!price.isFinite ∨ Double.le price 0 = true) ↔ isUsablePrice price = true := by
    cases hfinite : price.isFinite with
    | false => simp [isUsablePrice, hfinite]
    | true => simp [le_zero_iff_of_isFinite hfinite]
  unfold decimalPrice
  split
  next hrejected =>
    have hunusable := mt husable.2 (not_not.2 hrejected)
    simp [hunusable]
  next haccepted =>
    rw [and_iff_right (husable.1 haccepted)]
    cases hdecimal : Decimal.ofDouble? price with
    | none => simp
    | some y =>
      cases hzero : y.isZero with
      | false =>
        simp only [hzero, Bool.false_eq_true, if_false, Except.ok.injEq, Option.some.injEq]
        constructor
        · rintro rfl
          exact ⟨rfl, hzero⟩
        · exact And.left
      | true =>
        simp only [hzero, if_true, reduceCtorEq, Option.some.injEq, false_iff, not_and]
        rintro rfl
        simp [hzero]

theorem negative_of_decimalPrice {role : PriceRole} {price : Double} {x : Decimal}
    (h : decimalPrice role price = .ok x) : x.negative = false := by
  obtain ⟨husable, hdecimal, -⟩ := decimalPrice_eq_ok_iff.1 h
  exact Decimal.negative_of_ofDouble? hdecimal (isUsablePrice_iff.1 husable).1

theorem negative_of_powerOfTen {shift : Int} {x : Decimal} (h : powerOfTen shift = .ok x) :
    x.negative = false := by
  dsimp only [powerOfTen] at h
  by_cases hshift : 0 ≤ shift
  · rw [if_pos hshift] at h
    split at h
    next hpower =>
      obtain rfl := Except.ok.inj h
      exact Decimal.negative_of_of? hpower rfl
    next => cases h
  · rw [if_neg hshift] at h
    split at h
    next hpower =>
      obtain rfl := Except.ok.inj h
      exact Decimal.negative_of_of? hpower rfl
    next => cases h

/-- A shift by as many digits as a decimal number may have after the point is in range. -/
theorem exists_powerOfTen (shift : Int) (hshift : shift.natAbs ≤ 28) :
    ∃ power, powerOfTen shift = .ok power := by
  have hten : 10 ^ shift.natAbs < Decimal.coefficientBound := by
    calc 10 ^ shift.natAbs ≤ 10 ^ 28 := Nat.pow_le_pow_right (by decide) hshift
      _ < Decimal.coefficientBound := by decide +kernel
  have hone : 1 < Decimal.coefficientBound := by decide +kernel
  have hdigits : min shift.natAbs 29 = shift.natAbs := by omega
  unfold powerOfTen
  by_cases hsign : 0 ≤ shift
  · simp [hsign, hdigits, Decimal.of?, hten]
  · simp [hsign, Decimal.of?, hone, Decimal.maxScale, hshift]

/-- The amount is found in three steps. -/
theorem amount?_eq_some_iff {fast : Nat} {native asset power amount : Decimal} :
    amount? fast native asset power = some amount ↔
      ∃ count value shifted, Decimal.ofNat? fast = some count ∧ count.mul? native = some value ∧
        value.mul? power = some shifted ∧ shifted.div? asset = some amount := by
  simp only [amount?, Option.bind_eq_bind, Option.bind_eq_some_iff, exists_and_left]

theorem negative_of_amount? {fast : Nat} {native asset power amount : Decimal}
    (h : amount? fast native asset power = some amount) (hnative : native.negative = false)
    (hasset : asset.negative = false) (hpower : power.negative = false) :
    amount.negative = false := by
  obtain ⟨count, value, shifted, hcount, hvalue, hshifted, hamount⟩ := amount?_eq_some_iff.1 h
  have hvalueSign := Decimal.negative_of_mul? hvalue (Decimal.negative_of_of? hcount rfl) hnative
  exact Decimal.negative_of_div? hamount
    (Decimal.negative_of_mul? hshifted hvalueSign hpower) hasset

/-- A conversion succeeds if both prices and the shift are in order and nothing overflows. -/
theorem denominate_eq_ok_iff {fast assetDecimals nativeUnitDecimals : Nat}
    {nativePrice assetPrice : Double} {text : String} :
    denominate fast nativePrice assetPrice assetDecimals nativeUnitDecimals = .ok text ↔
      ∃ native asset power amount, decimalPrice .native nativePrice = .ok native ∧
        decimalPrice .asset assetPrice = .ok asset ∧
        powerOfTen ((assetDecimals : Int) - nativeUnitDecimals) = .ok power ∧
        amount? fast native asset power = some amount ∧ amountText amount = text := by
  simp only [denominate, bind_eq_ok_iff, exists_and_left]
  refine exists_congr fun native => and_congr_right fun _ => exists_congr fun asset =>
    and_congr_right fun _ =>
    exists_congr fun power => and_congr_right fun _ => ?_
  cases amount? fast native asset power <;> simp

/-- The texts that stand for amounts in rows. -/
inductive IsAmountText : String → Prop
  | native (fast : Nat) : IsAmountText (toString fast)
  | converted {fast assetDecimals nativeUnitDecimals : Nat} {nativePrice assetPrice : Double}
      {text : String}
      (h : denominate fast nativePrice assetPrice assetDecimals nativeUnitDecimals = .ok text) :
      IsAmountText text

theorem isCanonicalNumeral_amountText {amount : Decimal} (h : amount.negative = false) :
    IsCanonicalNumeral maxFractionDigits (amountText amount).toList := by
  refine Decimal.isCanonicalNumeral_text_canonical ?_ (Nat.min_le_left ..)
  simp [Decimal.roundTo, h]

/-- What an amount is written as is its value, rounded at the last digit that is kept. -/
theorem numeralValue_amountText {amount : Decimal} (h : amount.negative = false) :
    numeralValue (amountText amount).toList = (amount.roundTo maxFractionDigits).toRat := by
  have hsign : (amount.roundTo maxFractionDigits).negative = false := by simp [Decimal.roundTo, h]
  rw [amountText, Decimal.numeralValue_text (by rwa [Decimal.negative_canonical]),
    Decimal.toRat_canonical hsign]

theorem IsAmountText.isCanonicalNumeral {text : String} (h : IsAmountText text) :
    IsCanonicalNumeral maxFractionDigits text.toList := by
  cases h with
  | native fast =>
    rw [Nat.toString_eq_ofList_toDigits, String.toList_ofList]
    exact .whole (isWholeNumeral_toDigits fast)
  | converted h =>
    obtain ⟨native, asset, power, amount, hnative, hasset, hpower, hamount, rfl⟩ :=
      denominate_eq_ok_iff.1 h
    exact isCanonicalNumeral_amountText
      (negative_of_amount? hamount (negative_of_decimalPrice hnative)
      (negative_of_decimalPrice hasset) (negative_of_powerOfTen hpower))

theorem isAmountText_of_amountAt {settings : GasSettings} {fast : Nat} {target : TargetAsset}
    {prices : Except NoQuote (Double × Double)} {text : String}
    (h : amountAt settings fast target prices = .ok text) : IsAmountText text := by
  unfold amountAt at h
  split at h
  · cases h
  · split at h
    next hconverted =>
      obtain rfl := Except.ok.inj h
      exact .converted hconverted
    next => cases h

/-- The amount of a target is converted, unless the target is the chain's own coin. -/
theorem isAmountText_of_denominateTarget {aggregator : Aggregator} {settings : GasSettings}
    {fast : Nat} {target : TargetAsset} {text : String}
    (h : (denominateTarget aggregator settings fast target).amount = .ok text) :
    IsAmountText text := by
  unfold denominateTarget at h
  split at h
  · obtain rfl := Except.ok.inj h
    exact .native fast
  · split at h
    · cases h
    · exact isAmountText_of_amountAt h

theorem isAmountText_of_mem_report {aggregator : Aggregator} {settings : GasSettings}
    {gas : Except GasError GasTiers} {rows : List Row}
    (h : (report aggregator settings gas).rows = .ok rows) {row : Row} (hrow : row ∈ rows) :
    IsAmountText row.amount := by
  cases gas with
  | error cause => cases h
  | ok tiers =>
    obtain rfl := Except.ok.inj h
    simp only [denominateAll, List.mem_filterMap, List.mem_map] at hrow
    obtain ⟨_, ⟨target, -, rfl⟩, hrow⟩ := hrow
    simp only [TargetOutcome.row?, Option.map_eq_some_iff] at hrow
    obtain ⟨text, htext, rfl⟩ := hrow
    cases hamount : (denominateTarget aggregator settings tiers.fast target).amount with
    | error cause => simp [hamount, Except.toOption] at htext
    | ok amount =>
      obtain rfl : amount = text := by simpa [hamount, Except.toOption] using htext
      exact isAmountText_of_denominateTarget hamount

/-- The amount of every row is a canonical numeral with at most 18 digits after the point, and two
    amounts are the same number if and only if they are the same text. -/
theorem isAmountText_canonical :
    (∀ text, IsAmountText text → IsCanonicalNumeral 18 text.toList) ∧
    (∀ aggregator settings gas rows, (report aggregator settings gas).rows = .ok rows →
      ∀ row ∈ rows, IsAmountText row.amount) ∧
    ∀ text other, IsAmountText text → IsAmountText other →
      (numeralValue text.toList = numeralValue other.toList ↔ text = other) := by
  refine ⟨fun text htext => htext.isCanonicalNumeral, ?_, ?_⟩
  · intro aggregator settings gas rows hrows row hrow
    exact isAmountText_of_mem_report hrows hrow
  · intro text other htext hother
    rw [htext.isCanonicalNumeral.numeralValue_inj hother.isCanonicalNumeral, String.toList_inj]

/-- A third of a unit, a converted price without a fraction, and the row of the chain's own coin. -/
theorem isAmountText_canonical_thirds :
    denominate 1 1 3 18 18 = .ok "0.333333333333333333" ∧ denominate 40 3000 1 6 9 = .ok "120" ∧
      IsCanonicalNumeral 18 "0.333333333333333333".toList ∧
      IsAmountText "40" ∧
      (numeralValue "0.333333333333333333".toList = numeralValue "120".toList ↔
        "0.333333333333333333" = "120") := by
  have hthird : denominate 1 1 3 18 18 = .ok "0.333333333333333333" := by decide +kernel
  have hwhole : denominate 40 3000 1 6 9 = .ok "120" := by decide +kernel
  have hreport : (report ⟨[], 10⟩ { targets := [⟨"eth", 18⟩] } (.ok ⟨20, 40, 60⟩)).rows =
      .ok [⟨"eth", "40"⟩] := by
    decide +kernel
  obtain ⟨hcanonical, hrows, hunique⟩ := isAmountText_canonical
  exact ⟨hthird, hwhole, hcanonical _ (.converted hthird),
    hrows _ _ _ _ hreport _ List.mem_cons_self, hunique _ _ (.converted hthird) (.converted hwhole)⟩

end FeeOracle.Denomination
