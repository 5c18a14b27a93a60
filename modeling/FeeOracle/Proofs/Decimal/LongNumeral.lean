import FeeOracle.Double.Reader
import FeeOracle.Proofs.Decimal.Cut
import FeeOracle.Proofs.Decimal.Reader
import FeeOracle.Proofs.Ticker

/-!
# Reading numerals of any length

A sign, digits, a point among them and separators may go on for any length. What is read of them
depends on the value that they write only, and not on how they write it (`isReadOf_of_readPlain`):
the places that fit are kept, and the first digit that does not rounds them. There is one exception:
after the last place that there can be, a separator hides the digit behind it (`HidesRounding`).
-/

namespace FeeOracle.Decimal

open Text

/-- The characters of a text but the separators between its digits. -/
def withoutSeparators (cs : List Char) : List Char := cs.filter (· != '_')

/-- Does a separator follow this place after the point, so that the digit that would round it up is
    not seen? -/
def HidesRounding (places : ℕ) (fraction : List Char) : Prop :=
  ∃ before after, fraction = before ++ '_' :: after ∧ (withoutSeparators before).length = places ∧
    ∃ c ∈ (withoutSeparators after).head?, 5 ≤ digitValue c

/-- The value that a sign, digits, a point among them and separators write. -/
def signedValue (cs : List Char) : ℚ :=
  let (negative, digits) := Double.splitSign cs
  if negative then -numeralValue (withoutSeparators digits)
    else numeralValue (withoutSeparators digits)

/-- Does a separator hide a digit of a text that has all places kept? -/
def HidesDigit (cs : List Char) : Prop :=
  HidesRounding maxScale (fractionPart cs) ∧ KeepsPlaces (signedValue cs) maxScale

/-- The value of what has been read together with more digits, which stand after the point. -/
def withDigits (read : Decimal) (digits : List Char) : ℚ :=
  (read.coefficient + digitsValue digits / 10 ^ digits.length) / 10 ^ read.scale

section Digits

variable {read next x : Decimal} {c : Char} {cs digits : List Char} {digitSeen : Bool}

theorem withDigits_nil (hsign : read.negative = false) : withDigits read [] = read.toRat := by
  simp [withDigits, digitsValue, toRat_eq_div hsign]

theorem withDigits_mul_pow (read : Decimal) (digits : List Char) :
    withDigits read digits * 10 ^ read.scale =
      read.coefficient + digitsValue digits / 10 ^ digits.length := by
  rw [withDigits, div_mul_cancel₀ _ (by positivity)]

theorem digitsValue_cons_div (c : Char) (digits : List Char) :
    (digitsValue (c :: digits) / 10 ^ (c :: digits).length : ℚ) =
      (digitValue c + digitsValue digits / 10 ^ digits.length) / 10 := by
  have hvalue := mul_add_digitsValue_cons 0 c digits
  rw [Nat.zero_mul, Nat.zero_add, Nat.mul_zero, Nat.zero_add] at hvalue
  rw [hvalue, List.length_cons, pow_succ]
  push_cast
  field_simp

/-- Reading a digit after the point does not change the value. -/
theorem withDigits_push (h : push? read true c = some next) (digits : List Char) :
    withDigits next digits = withDigits read (c :: digits) := by
  obtain ⟨-, hcoefficient, hscale⟩ := of?_eq_some_iff.1 h
  rw [withDigits, withDigits, digitsValue_cons_div, hcoefficient, hscale, if_pos rfl, pow_succ]
  push_cast
  ring

theorem fraction_bounds (hdigits : ∀ c ∈ digits, c.isDigit = true) :
    0 ≤ (digitsValue digits / 10 ^ digits.length : ℚ) ∧
    (digitsValue digits / 10 ^ digits.length : ℚ) < 1 := by
  have hlt : (digitsValue digits : ℚ) < 10 ^ digits.length := by
    exact_mod_cast digitsValue_lt hdigits
  exact ⟨by positivity, (div_lt_one (by positivity)).2 hlt⟩

/-- A digit that does not fit says how many places are kept. -/
theorem keepsPlaces_of_push?_eq_none (h : push? read true c = none) (hc : c.isDigit = true)
    (hdigits : ∀ c ∈ digits, c.isDigit = true) :
    KeepsPlaces (withDigits read (c :: digits)) read.scale := by
  obtain ⟨hnonneg, hless⟩ := fraction_bounds hdigits
  have hdigit : (digitValue c : ℚ) ≤ 9 := by exact_mod_cast digitValue_le hc
  have hscaled := withDigits_mul_pow read (c :: digits)
  rw [digitsValue_cons_div] at hscaled
  have hhere : ⌊withDigits read (c :: digits) * 10 ^ read.scale⌋₊ = read.coefficient := by
    rw [hscaled, Nat.floor_eq_iff (by positivity)]
    constructor <;> linarith [show (0 : ℚ) ≤ digitValue c from Nat.cast_nonneg _]
  have hnext : ⌊withDigits read (c :: digits) * 10 ^ (read.scale + 1)⌋₊ =
      10 * read.coefficient + digitValue c := by
    rw [pow_succ, ← mul_assoc, hscaled, Nat.floor_eq_iff (by positivity)]
    push_cast
    constructor <;> linarith
  refine ⟨hhere ▸ read.coefficient_lt, read.scale_le, ?_⟩
  rw [hnext]
  refine (Nat.eq_or_lt_of_le read.scale_le).imp_right fun hplaces =>
    Nat.le_of_not_lt fun hfits => ?_
  obtain ⟨next, hnext⟩ := exists_of?_eq_some_iff.2 ⟨hfits, hplaces⟩
  exact Option.some_ne_none next (hnext.symm.trans h)

/-- The digit that does not fit rounds the ones before it. -/
theorem floor_add_half_eq (hc : c.isDigit = true) (hdigits : ∀ c ∈ digits, c.isDigit = true) :
    ⌊withDigits read (c :: digits) * 10 ^ read.scale + 1 / 2⌋₊ =
      read.coefficient + if 5 ≤ digitValue c then 1 else 0 := by
  obtain ⟨hnonneg, hless⟩ := fraction_bounds hdigits
  have hdigit : (digitValue c : ℚ) ≤ 9 := by exact_mod_cast digitValue_le hc
  rw [withDigits_mul_pow, digitsValue_cons_div, Nat.floor_eq_iff (by positivity)]
  split
  next hup =>
    have hup : (5 : ℚ) ≤ digitValue c := by exact_mod_cast hup
    push_cast
    constructor <;> linarith
  next hdown =>
    have hdown : (digitValue c : ℚ) ≤ 4 := by exact_mod_cast (by omega : digitValue c ≤ 4)
    push_cast
    constructor <;> linarith [show (0 : ℚ) ≤ digitValue c from Nat.cast_nonneg _]

theorem toRat_of_of? {coefficient scale : ℕ} (h : of? false coefficient scale = some x) :
    x.negative = false ∧ x.toRat = coefficient / 10 ^ scale := by
  obtain ⟨hsign, rfl, rfl⟩ := of?_eq_some_iff.1 h
  exact ⟨hsign, toRat_eq_div hsign⟩

/-- What the program makes of the digit that does not fit. -/
theorem toRat_roundDropped (hsign : read.negative = false) (hc : c.isDigit = true)
    (h : roundDropped read c = .ok x) :
    x.negative = false ∧
      x.toRat = cutCoefficient (read.coefficient + if 5 ≤ digitValue c then 1 else 0) / 10 ^
        read.scale := by
  have hbound : read.coefficient < coefficientBound := read.coefficient_lt
  unfold roundDropped at h
  split at h
  next hup =>
    rw [if_pos hup.2]
    dsimp only at h
    split at h
    next y hy =>
      obtain rfl := Except.ok.inj h
      unfold cutCoefficient
      split at hy
      next hfits =>
        rw [if_pos hfits]
        exact toRat_of_of? hy
      next hover =>
        obtain ⟨hscale, hy⟩ := Option.ite_none_left_eq_some.1 hy
        -- The coefficient is the one past the greatest, and its last digit is rounded away.
        have hnext : read.coefficient + 1 = coefficientBound := by omega
        have htenth : coefficientBound + 4 = (coefficientBound + 4) / 10 * 10 := by decide
        obtain ⟨places, hplaces⟩ := Nat.exists_eq_succ_of_ne_zero hscale
        obtain ⟨hxsign, hx⟩ := toRat_of_of? hy
        rw [if_neg hover, htenth, hplaces, pow_succ, Nat.cast_mul, Nat.cast_ofNat,
          mul_div_mul_right _ _ (by norm_num)]
        rw [hnext, hplaces, Nat.succ_sub_one] at hx
        exact ⟨hxsign, hx⟩
    next => cases h
  next hdown =>
    obtain rfl := Except.ok.inj h
    rw [not_and] at hdown
    rw [if_neg (hdown hc), Nat.add_zero, cutCoefficient, if_pos hbound]
    exact ⟨hsign, toRat_eq_div hsign⟩

/-- What is read of digits of which not all fit. -/
theorem isReadOf_of_push?_eq_none (hsign : read.negative = false) (hc : c.isDigit = true)
    (hdigits : ∀ c ∈ digits, c.isDigit = true) (hfull : push? read true c = none)
    (h : roundDropped read c = .ok x) : IsReadOf (withDigits read (c :: digits)) x := by
  obtain ⟨hxsign, hx⟩ := toRat_roundDropped hsign hc h
  refine ⟨hxsign, read.scale, keepsPlaces_of_push?_eq_none hfull hc hdigits, ?_⟩
  rw [hx, cutAt, floor_add_half_eq hc hdigits]

theorem withoutSeparators_cons_of_isDigit (hc : c.isDigit = true) (cs : List Char) :
    withoutSeparators (c :: cs) = c :: withoutSeparators cs := by
  rw [withoutSeparators, List.filter_cons_of_pos, withoutSeparators]
  rw [bne_iff_ne]
  rintro rfl
  cases hc

/-- Digits and separators follow the digit that rounds. -/
theorem isDigit_of_checkDropped (h : checkDropped cs = .ok ()) :
    ∀ c ∈ withoutSeparators cs, c.isDigit = true := by
  induction cs with
  | nil => simp [withoutSeparators]
  | cons c cs ih =>
    unfold checkDropped at h
    split at h
    next hallowed =>
      rcases hallowed with hc | rfl
      · rw [withoutSeparators_cons_of_isDigit hc]
        exact List.forall_mem_cons.2 ⟨hc, ih h⟩
      · exact ih h
    next => split at h <;> cases h

/-- How the first of several characters is read if a number is read of them all. -/
inductive FirstRead (read : Decimal) (pointSeen : Bool) (x : Decimal) : Char → List Char → Prop
  | digit {c : Char} {rest : List Char} {next : Decimal} (hc : c.isDigit = true)
      (hpush : push? read pointSeen c = some next)
      (hrest : readDigits next true pointSeen rest = .ok x) : FirstRead read pointSeen x c rest
  | dropped {c : Char} {rest : List Char} (hc : c.isDigit = true) (hpoint : pointSeen = true)
      (hfull : push? read true c = none) (hchecked : checkDropped rest = .ok ())
        (hround : roundDropped read c = .ok x) :
      FirstRead read pointSeen x c rest
  | point {digitSeen : Bool} {rest : List Char} (hpoint : pointSeen = false)
      (hrest : readDigits read digitSeen true rest = .ok x) : FirstRead read pointSeen x '.' rest
  | separator {rest : List Char} (hscale : read.scale ≠ maxScale)
      (hrest : readDigits read true pointSeen rest = .ok x) :
      FirstRead read pointSeen x '_' rest
  | cut {rest : List Char} (hscale : read.scale = maxScale) (hchecked : checkDropped rest = .ok ())
      (hx : x = read) :
      FirstRead read pointSeen x '_' rest

theorem firstRead_of_readDigits {pointSeen : Bool}
    (h : readDigits read digitSeen pointSeen (c :: cs) = .ok x) :
    FirstRead read pointSeen x c cs := by
  -- The equation is stated by hand: unfolding would look into the bounds of `push?`.
  change (if c.isDigit then _ else _) = _ at h
  by_cases hc : c.isDigit = true
  · rw [if_pos hc] at h
    cases hpush : push? read pointSeen c with
    | some next =>
      rw [hpush] at h
      exact .digit hc hpush h
    | none =>
      rw [hpush] at h
      obtain ⟨hpoint, hdropped⟩ :
          pointSeen = true ∧ (do checkDropped cs; roundDropped read c) = .ok x := by
        cases pointSeen with
        | false => cases h
        | true => exact ⟨rfl, h⟩
      obtain ⟨⟨⟩, hchecked, hround⟩ := bind_eq_ok_iff.1 hdropped
      exact .dropped hc hpoint (hpoint ▸ hpush) hchecked hround
  rw [if_neg hc] at h
  by_cases hpoint : c = '.'
  · rw [if_pos hpoint] at h
    subst hpoint
    cases pointSeen with
    | false => exact .point rfl h
    | true => cases h
  rw [if_neg hpoint] at h
  by_cases hseparator : c = '_'
  · rw [if_pos hseparator] at h
    subst hseparator
    cases digitSeen with
    | false => cases h
    | true =>
      rw [if_neg (by decide)] at h
      rcases ite_eq_iff.1 h with ⟨hscale, hcut⟩ | ⟨hscale, hrest⟩
      · obtain ⟨⟨⟩, hchecked, hx⟩ := bind_eq_ok_iff.1 hcut
        exact .cut hscale hchecked (Except.ok.inj hx).symm
      · exact .separator hscale hrest
  · rw [if_neg hseparator] at h
    cases h

theorem HidesRounding.cons_separator {places : ℕ} (h : HidesRounding places cs) :
    HidesRounding places ('_' :: cs) := by
  obtain ⟨before, after, rfl, hplaces, hdigit⟩ := h
  exact ⟨'_' :: before, after, rfl, hplaces, hdigit⟩

theorem HidesRounding.cons_digit {places : ℕ} (h : HidesRounding places cs)
    (hc : c.isDigit = true) : HidesRounding (places + 1) (c :: cs) := by
  obtain ⟨before, after, rfl, rfl, hdigit⟩ := h
  refine ⟨c :: before, after, rfl, ?_, hdigit⟩
  rw [withoutSeparators_cons_of_isDigit hc, List.length_cons]

/-- No place is left after the last one. -/
theorem push?_eq_none_of_scale_eq (hscale : read.scale = maxScale) (c : Char) :
    push? read true c = none := by
  refine Option.eq_none_iff_forall_ne_some.2 fun next hpush => ?_
  obtain ⟨-, -, hnext⟩ := of?_eq_some_iff.1 hpush
  have hle : next.scale ≤ maxScale := next.scale_le
  rw [if_pos rfl] at hnext
  omega

/-- After the point, each digit is one place more until one does not fit. -/
theorem isReadOf_of_readDigits_pointed (hsign : read.negative = false)
    (h : readDigits read digitSeen true cs = .ok x)
    (hhides : HidesRounding (maxScale - read.scale) cs →
      ¬ KeepsPlaces (withDigits read (withoutSeparators cs)) maxScale) :
    IsReadOf (withDigits read (withoutSeparators cs)) x := by
  induction cs generalizing read digitSeen with
  | nil =>
    rcases ite_eq_iff.1 h with ⟨-, h⟩ | ⟨-, h⟩
    · obtain rfl := Except.ok.inj h
      rw [withoutSeparators, List.filter_nil, withDigits_nil hsign]
      exact isReadOf_toRat hsign
    · cases h
  | cons c cs ih =>
    cases firstRead_of_readDigits h with
    | @digit _ _ next hc hpush hrest =>
      obtain ⟨hnext, -, hscale⟩ := of?_eq_some_iff.1 hpush
      rw [if_pos rfl] at hscale
      rw [withoutSeparators_cons_of_isDigit hc, ← withDigits_push hpush] at hhides ⊢
      refine ih hnext hrest fun hhidden => hhides ?_
      have hplaces : maxScale - read.scale = maxScale - next.scale + 1 := by
        have hle : next.scale ≤ maxScale := next.scale_le
        omega
      rw [hplaces]
      exact hhidden.cons_digit hc
    | dropped hc _ hfull hchecked hround =>
      rw [withoutSeparators_cons_of_isDigit hc]
      exact isReadOf_of_push?_eq_none hsign hc (isDigit_of_checkDropped hchecked) hfull hround
    | point hpoint => cases hpoint
    | separator hscale hrest =>
      exact ih hsign hrest fun hhidden => hhides hhidden.cons_separator
    | cut hscale hchecked hx =>
      subst hx
      have hdigits := isDigit_of_checkDropped hchecked
      have hstrip : withoutSeparators ('_' :: cs) = withoutSeparators cs := rfl
      rw [hstrip] at hhides ⊢
      cases hrest : withoutSeparators cs with
      | nil =>
        rw [withDigits_nil hsign]
        exact isReadOf_toRat hsign
      | cons c digits =>
        rw [hrest] at hhides hdigits
        rw [List.forall_mem_cons] at hdigits
        have hfull := push?_eq_none_of_scale_eq hscale c
        have hkeeps := keepsPlaces_of_push?_eq_none hfull hdigits.1 hdigits.2
        rw [hscale] at hkeeps
        refine isReadOf_of_push?_eq_none hsign hdigits.1 hdigits.2 hfull
          (if_neg fun hup => hhides ?_ hkeeps)
        exact ⟨[], cs, rfl, by rw [hscale, Nat.sub_self]; rfl, c, by simp [hrest], hup.2⟩

theorem wholePart_cons (hc : c ≠ '.') (cs : List Char) : wholePart (c :: cs) = c :: wholePart cs :=
  List.takeWhile_cons_of_pos (by simpa using hc)

theorem fractionPart_cons (hc : c ≠ '.') (cs : List Char) :
    fractionPart (c :: cs) = fractionPart cs := by
  rw [fractionPart, List.dropWhile_cons_of_pos (by simpa using hc), fractionPart]

theorem numeralValue_cons (hc : c ≠ '.') (cs : List Char) :
    numeralValue (c :: cs) = digitValue c * 10 ^ (wholePart cs).length + numeralValue cs := by
  have hvalue := digitsValue_append [c] (wholePart cs)
  rw [List.singleton_append, show digitsValue [c] = digitValue c by simp [digitsValue]] at hvalue
  rw [numeralValue, wholePart_cons hc, fractionPart_cons hc, hvalue, numeralValue]
  push_cast
  ring

/-- The value of what has been read before the point together with a numeral that goes on from
    there. -/
def withNumeral (read : Decimal) (cs : List Char) : ℚ :=
  read.coefficient * 10 ^ (wholePart cs).length + numeralValue cs

/-- Reading a digit before the point does not change the value either. -/
theorem withNumeral_push (hpush : push? read false c = some next) (hc : c ≠ '.') (cs : List Char) :
    withNumeral next cs = withNumeral read (c :: cs) := by
  obtain ⟨-, hcoefficient, -⟩ := of?_eq_some_iff.1 hpush
  rw [withNumeral, withNumeral, hcoefficient, numeralValue_cons hc, wholePart_cons hc,
    List.length_cons, pow_succ]
  push_cast
  ring

theorem withNumeral_point (hscale : read.scale = 0) (cs : List Char) :
    withNumeral read ('.' :: cs) = withDigits read cs := by
  simp [withNumeral, withDigits, hscale, wholePart, fractionPart, numeralValue, digitsValue]

/-- Before the point, all digits have to fit. -/
theorem isReadOf_of_readDigits (hsign : read.negative = false) (hscale : read.scale = 0)
    (h : readDigits read digitSeen false cs = .ok x)
    (hhides : HidesRounding maxScale (fractionPart cs) →
      ¬ KeepsPlaces (withNumeral read (withoutSeparators cs)) maxScale) :
    IsReadOf (withNumeral read (withoutSeparators cs)) x := by
  induction cs generalizing read digitSeen with
  | nil =>
    rcases ite_eq_iff.1 h with ⟨-, hx⟩ | ⟨-, hx⟩
    · obtain rfl := Except.ok.inj hx
      have hself := isReadOf_toRat hsign
      rw [toRat_eq_div hsign, hscale] at hself
      simpa [withNumeral, withoutSeparators, wholePart, fractionPart, numeralValue, digitsValue]
        using hself
    · cases hx
  | cons c cs ih =>
    cases firstRead_of_readDigits h with
    | @digit _ _ next hc hpush hrest =>
      obtain ⟨hnext, -, hsame⟩ := of?_eq_some_iff.1 hpush
      rw [if_neg Bool.false_ne_true, hscale] at hsame
      have hpoint : c ≠ '.' := bne_iff_ne.1 (ne_point_of_isDigit hc)
      rw [fractionPart_cons hpoint, withoutSeparators_cons_of_isDigit hc,
        ← withNumeral_push hpush hpoint] at hhides
      rw [withoutSeparators_cons_of_isDigit hc, ← withNumeral_push hpush hpoint]
      exact ih hnext hsame hrest hhides
    | dropped _ hpoint => cases hpoint
    | point _ hrest =>
      have hstrip : withoutSeparators ('.' :: cs) = '.' :: withoutSeparators cs := rfl
      rw [hstrip, withNumeral_point hscale] at hhides ⊢
      exact isReadOf_of_readDigits_pointed hsign hrest (by rwa [hscale, Nat.sub_zero])
    | separator _ hrest =>
      rw [fractionPart_cons (by decide)] at hhides
      exact ih hsign hscale hrest hhides
    | cut hmax =>
      rw [hscale] at hmax
      cases hmax

theorem numeralValue_nonneg (cs : List Char) : 0 ≤ numeralValue cs := by
  unfold numeralValue
  positivity

/-- A text without a minus is read from zero on. -/
theorem isReadOf_of_readDigits_zero (h : readDigits zero false false cs = .ok x)
    (hhides : HidesRounding maxScale (fractionPart cs) →
      ¬ KeepsPlaces (numeralValue (withoutSeparators cs)) maxScale) :
    IsReadOf (numeralValue (withoutSeparators cs)) x := by
  have hvalue (cs : List Char) : withNumeral zero cs = numeralValue cs := by
    rw [withNumeral, show zero.coefficient = 0 from rfl, Nat.cast_zero, zero_mul, zero_add]
  rw [← hvalue] at hhides ⊢
  exact isReadOf_of_readDigits rfl rfl h hhides

/-- A number without a sign is read of a value that is not negative, or of one that is read as
    zero. -/
theorem isReadOf_of_readPlain (h : readPlain cs = .ok x) (hsign : x.negative = false)
    (hhides : ¬ HidesDigit cs) : IsReadOf (max (signedValue cs) 0) x := by
  rw [HidesDigit, not_and] at hhides
  unfold readPlain at h
  split at h
  next => cases h
  next rest =>
    have hvalue : signedValue ('-' :: rest) = -numeralValue (withoutSeparators rest) := rfl
    rw [hvalue, max_eq_right (neg_nonpos.2 (numeralValue_nonneg _))]
    cases hread : readDigits zero false false rest with
    | error error =>
      rw [hread] at h
      cases h
    | ok y =>
      rw [hread] at h
      obtain rfl := Except.ok.inj h
      have hzero : (withSign true y).toRat = 0 := by
        have hnone : y.coefficient = 0 := by simpa [withSign] using hsign
        rw [toRat_eq_div hsign, show (withSign true y).coefficient = y.coefficient from
          rfl, hnone, Nat.cast_zero, zero_div]
      have hself := isReadOf_toRat hsign
      rwa [hzero] at hself
  next rest =>
    have hvalue : signedValue ('+' :: rest) = numeralValue (withoutSeparators rest) := rfl
    rw [fractionPart_cons (by decide)] at hhides
    rw [hvalue] at hhides ⊢
    rw [max_eq_left (numeralValue_nonneg _)]
    exact isReadOf_of_readDigits_zero h hhides
  next hminus hplus =>
    have hsplit : Double.splitSign cs = (false, cs) := by
      unfold Double.splitSign
      split
      next => exact absurd rfl (hplus _)
      next => exact absurd rfl (hminus _)
      next => rfl
    have hvalue : signedValue cs = numeralValue (withoutSeparators cs) := by
      rw [signedValue, hsplit]
      rfl
    rw [hvalue] at hhides ⊢
    rw [max_eq_left (numeralValue_nonneg _)]
    exact isReadOf_of_readDigits_zero h hhides

end Digits

end FeeOracle.Decimal
