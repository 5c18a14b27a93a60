import FeeOracle.Power
import FeeOracle.Text.Blank
import FeeOracle.Text.Digits
import Mathlib.Algebra.Field.Rat
import Mathlib.Data.List.Induction
import Mathlib.Data.List.TakeWhile
import Mathlib.Tactic.FieldSimp
import Mathlib.Tactic.NormNum

/-!
# Plain numerals

A plain numeral is a whole number, and a fraction after a decimal point if there is one. It is
canonical if no zero stands needlessly at either end. The canonical numerals are the numerals of the
reduced fractions over powers of ten (`isCanonicalNumeral_iff`), and so a canonical numeral is
determined by the number that it writes (`IsCanonicalNumeral.numeralValue_inj`).
-/

namespace FeeOracle.Text

/-- Are these the digits of a whole number, without needless zeros in front? -/
inductive IsWholeNumeral : List Char → Prop
  | zero : IsWholeNumeral ['0']
  | positive {first : Char} {rest : List Char} (hfirst : first.isDigit = true)
      (hpositive : first ≠ '0')
      (hrest : ∀ c ∈ rest, c.isDigit = true) : IsWholeNumeral (first :: rest)

/-- Is this a whole number, or one with at most `places` digits after a decimal point, the last of
    which is not zero? Nothing but digits and the point occurs in it. -/
inductive IsCanonicalNumeral (places : Nat) : List Char → Prop
  | whole {digits : List Char} (hwhole : IsWholeNumeral digits) : IsCanonicalNumeral places digits
  | fractional {digits fraction : List Char} {last : Char} (hwhole : IsWholeNumeral digits)
      (hfraction : ∀ c ∈ fraction, c.isDigit = true) (hlast : last.isDigit = true)
        (hnonzero : last ≠ '0')
      (hplaces : fraction.length + 1 ≤ places) :
      IsCanonicalNumeral places (digits ++ '.' :: (fraction ++ [last]))

/-- The characters before the decimal point, or all of them if there is none. -/
def wholePart (cs : List Char) : List Char := cs.takeWhile (· != '.')

/-- The characters after the decimal point. -/
def fractionPart (cs : List Char) : List Char := (cs.dropWhile (· != '.')).tail

/-- The number that a plain numeral writes. -/
def numeralValue (cs : List Char) : ℚ :=
  digitsValue (wholePart cs) + digitsValue (fractionPart cs) / 10 ^ (fractionPart cs).length

/-- The last `count` digits of a number, zeros included. -/
def lastDigits (n : Nat) : Nat → List Char
  | 0 => []
  | count + 1 => lastDigits (n / 10) count ++ [(n % 10).digitChar]

/-- The plain numeral of `n / 10 ^ scale`, with `scale` digits after the point. -/
def numeralText (n scale : Nat) : List Char :=
  if scale = 0 then Nat.toDigits 10 n
    else Nat.toDigits 10 (n / 10 ^ scale) ++ '.' :: lastDigits n scale

/-- Does no smaller scale do for `n / 10 ^ scale`? -/
def IsReduced (n scale : Nat) : Prop := scale = 0 ∨ n % 10 ≠ 0

section Digits

theorem digitsValue_append (cs ds : List Char) :
    digitsValue (cs ++ ds) = digitsValue cs * 10 ^ ds.length + digitsValue ds := by
  calc digitsValue (cs ++ ds)
      = Nat.ofDigitChars 10 ds (digitsValue cs) := Nat.ofDigitChars_append 0
    _ = 10 ^ ds.length * digitsValue cs + digitsValue ds := Nat.ofDigitChars_eq_ofDigitChars_zero
    _ = digitsValue cs * 10 ^ ds.length + digitsValue ds := by rw [Nat.mul_comm]

theorem digitsValue_concat (cs : List Char) (c : Char) :
    digitsValue (cs ++ [c]) = 10 * digitsValue cs + digitValue c := by
  simp [digitsValue]

/-- A digit more at the end of a number is one fewer that is left. -/
theorem mul_add_digitsValue_cons (n : Nat) (c : Char) (cs : List Char) :
    n * 10 ^ (c :: cs).length + digitsValue (c :: cs) =
      (10 * n + digitValue c) * 10 ^ cs.length + digitsValue cs := by
  have hvalue := digitsValue_append [c] cs
  rw [List.singleton_append, show digitsValue [c] = digitValue c by simp [digitsValue]] at hvalue
  rw [hvalue, List.length_cons, Nat.pow_succ', Nat.add_mul, ← Nat.add_assoc, Nat.mul_left_comm,
    Nat.mul_assoc]

theorem digitValue_digitChar {n : Nat} (h : n < 10) : digitValue n.digitChar = n :=
  Nat.toNat_digitChar_sub_48_of_lt_ten h

theorem isDigit_digitChar {n : Nat} (h : n < 10) : n.digitChar.isDigit = true := by
  simp [Nat.isDigit_digitChar, h]

/-- A digit is the one of its value. -/
theorem digitChar_digitValue {c : Char} (h : c.isDigit = true) : (digitValue c).digitChar = c := by
  apply Char.toNat_inj.1
  rw [Nat.toNat_digitChar_of_lt_ten (Nat.lt_succ_of_le (digitValue_le h))]
  have hlow := (Char.isDigit_iff_toNat.1 h).1
  simp only [digitValue, Char.reduceToNat] at *
  omega

theorem digitsValue_toDigits (n : Nat) : digitsValue (Nat.toDigits 10 n) = n :=
  Nat.ofDigitChars_ten_toDigits

theorem length_lastDigits (n count : Nat) : (lastDigits n count).length = count := by
  induction count generalizing n with
  | zero => rfl
  | succ count ih => simp [lastDigits, ih]

theorem isDigit_of_mem_lastDigits {n count : Nat} {c : Char} (h : c ∈ lastDigits n count) :
    c.isDigit = true := by
  induction count generalizing n with
  | zero => cases h
  | succ count ih =>
    simp only [lastDigits, List.mem_append, List.mem_singleton] at h
    rcases h with h | rfl
    · exact ih h
    · exact isDigit_digitChar (Nat.mod_lt n (by decide))

theorem digitsValue_lastDigits (n count : Nat) :
    digitsValue (lastDigits n count) = n % 10 ^ count := by
  induction count generalizing n with
  | zero => simp [lastDigits, digitsValue, Nat.mod_one]
  | succ count ih =>
    rw [lastDigits, digitsValue_concat, ih, digitValue_digitChar (Nat.mod_lt n (by decide)),
      Nat.pow_succ', Nat.mod_mul]
    omega

/-- Digits are determined by their number and their value. -/
theorem lastDigits_digitsValue {cs : List Char} (h : ∀ c ∈ cs, c.isDigit = true) :
    lastDigits (digitsValue cs) cs.length = cs := by
  induction cs using List.reverseRecOn with
  | nil => rfl
  | append_singleton cs c ih =>
    have hc : c.isDigit = true := h c (by simp)
    have hlt : digitValue c < 10 := Nat.lt_succ_of_le (digitValue_le hc)
    have hfront : (10 * digitsValue cs + digitValue c) / 10 = digitsValue cs := by omega
    have hlast : (10 * digitsValue cs + digitValue c) % 10 = digitValue c := by omega
    rw [digitsValue_concat, List.length_append, List.length_singleton, lastDigits, hfront, hlast,
      ih fun d hd => h d (by simp [hd]), digitChar_digitValue hc]

theorem digitsValue_lt {cs : List Char} (h : ∀ c ∈ cs, c.isDigit = true) :
    digitsValue cs < 10 ^ cs.length := by
  have hvalue := digitsValue_lastDigits (digitsValue cs) cs.length
  rw [lastDigits_digitsValue h] at hvalue
  rw [hvalue]
  exact Nat.mod_lt _ (Nat.pow_pos (by decide))

/-- Higher digits make no difference to the last ones. -/
theorem lastDigits_mod (n count : Nat) :
    lastDigits (n % 10 ^ count) count = lastDigits n count := by
  have hself := lastDigits_digitsValue fun c (hc : c ∈ lastDigits n count) =>
    isDigit_of_mem_lastDigits hc
  rwa [digitsValue_lastDigits, length_lastDigits] at hself

theorem ne_point_of_isDigit {c : Char} (h : c.isDigit = true) : (c != '.') = true := by
  rw [bne_iff_ne]
  rintro rfl
  cases h

end Digits

section Whole

theorem IsWholeNumeral.isDigit {cs : List Char} (h : IsWholeNumeral cs) :
    ∀ c ∈ cs, c.isDigit = true := by
  cases h with
  | zero => simp
  | positive hfirst _ hrest =>
    intro c hc
    rcases List.mem_cons.1 hc with rfl | hc
    · exact hfirst
    · exact hrest c hc

/-- A digit may follow a whole number, unless that is zero. -/
theorem IsWholeNumeral.concat {cs : List Char} (h : IsWholeNumeral cs) (hnonzero : cs ≠ ['0'])
    {c : Char} (hc : c.isDigit = true) : IsWholeNumeral (cs ++ [c]) := by
  cases h with
  | zero => exact absurd rfl hnonzero
  | positive hfirst hpositive hrest =>
    refine .positive hfirst hpositive fun d hd => ?_
    rcases List.mem_append.1 hd with hd | hd
    · exact hrest d hd
    · rwa [List.mem_singleton.1 hd]

theorem isWholeNumeral_toDigits (n : Nat) : IsWholeNumeral (Nat.toDigits 10 n) := by
  induction n using Nat.strongRecOn with
  | ind n ih =>
    by_cases hsmall : n < 10
    · rw [Nat.toDigits_of_lt_base hsmall]
      cases n with
      | zero => exact .zero
      | succ n => exact .positive (isDigit_digitChar hsmall) (by simp) (by simp)
    · rw [Nat.toDigits_of_base_le (by decide) (Nat.le_of_not_lt hsmall)]
      refine (ih (n / 10) (by omega)).concat ?_ (isDigit_digitChar (Nat.mod_lt n (by decide)))
      intro hzero
      have hvalue := digitsValue_toDigits (n / 10)
      rw [hzero] at hvalue
      have : n / 10 = 0 := hvalue.symm
      omega

/-- A whole number is written in one way only. -/
theorem IsWholeNumeral.toDigits_digitsValue {cs : List Char} (h : IsWholeNumeral cs) :
    Nat.toDigits 10 (digitsValue cs) = cs := by
  cases h with
  | zero => rfl
  | @positive first rest hfirst hpositive hrest =>
    induction rest using List.reverseRecOn with
    | nil =>
      have hlt : digitValue first < 10 := Nat.lt_succ_of_le (digitValue_le hfirst)
      rw [show digitsValue [first] = digitValue first by simp [digitsValue],
        Nat.toDigits_of_lt_base hlt, digitChar_digitValue hfirst]
    | append_singleton rest c ih =>
      have hfront := ih fun d hd => hrest d (by simp [hd])
      have hc : c.isDigit = true := hrest c (by simp)
      have hlt : digitValue c < 10 := Nat.lt_succ_of_le (digitValue_le hc)
      have hpos : 0 < digitsValue (first :: rest) := by
        refine Nat.pos_of_ne_zero fun hzero => hpositive ?_
        rw [hzero, Nat.toDigits_zero] at hfront
        exact (List.cons.inj hfront).1.symm
      rw [← List.cons_append, digitsValue_concat,
        ← Nat.toDigits_append_toDigits (by decide) hpos hlt, hfront,
        Nat.toDigits_of_lt_base hlt, digitChar_digitValue hc]

end Whole

section Value

variable {digits fraction : List Char}

theorem wholePart_of_isDigit (h : ∀ c ∈ digits, c.isDigit = true) : wholePart digits = digits :=
  List.takeWhile_eq_self_iff.2 fun c hc => ne_point_of_isDigit (h c hc)

theorem fractionPart_of_isDigit (h : ∀ c ∈ digits, c.isDigit = true) :
    fractionPart digits = [] := by
  rw [fractionPart, List.dropWhile_eq_nil_iff.2 fun c hc => ne_point_of_isDigit (h c hc),
    List.tail_nil]

theorem numeralValue_of_isDigit (h : ∀ c ∈ digits, c.isDigit = true) :
    numeralValue digits = digitsValue digits := by
  simp [numeralValue, wholePart_of_isDigit h, fractionPart_of_isDigit h, digitsValue]

theorem numeralValue_of_point (h : ∀ c ∈ digits, c.isDigit = true) :
    numeralValue (digits ++ '.' :: fraction) =
      ((digitsValue digits * 10 ^ fraction.length + digitsValue fraction : Nat) : ℚ) / 10 ^
        fraction.length := by
  have hall : ∀ c ∈ digits, (c != '.') = true := fun c hc => ne_point_of_isDigit (h c hc)
  have hwhole : wholePart (digits ++ '.' :: fraction) = digits := by
    simp [wholePart, List.takeWhile_append_of_pos hall]
  have hfraction : fractionPart (digits ++ '.' :: fraction) = fraction := by
    simp [fractionPart, List.dropWhile_append_of_pos hall]
  rw [numeralValue, hwhole, hfraction]
  push_cast
  field_simp

theorem numeralValue_numeralText (n scale : Nat) :
    numeralValue (numeralText n scale) = n / 10 ^ scale := by
  unfold numeralText
  split
  next hzero =>
    rw [numeralValue_of_isDigit (isWholeNumeral_toDigits n).isDigit, digitsValue_toDigits, hzero]
    simp
  next =>
    rw [numeralValue_of_point (isWholeNumeral_toDigits _).isDigit, digitsValue_toDigits,
      length_lastDigits, digitsValue_lastDigits, Nat.mul_comm, Nat.div_add_mod]

theorem IsReduced.scale_le {n scale n' scale' : Nat} (h : IsReduced n scale)
    (heq : n * 10 ^ scale' = n' * 10 ^ scale) : scale ≤ scale' := by
  refine Nat.le_of_not_lt fun hlt => ?_
  obtain ⟨extra, rfl⟩ := Nat.exists_eq_add_of_lt hlt
  have hten : n = n' * 10 ^ extra * 10 := by
    apply Nat.eq_of_mul_eq_mul_right (Nat.pow_pos (n := scale') (by decide : 0 < 10))
    rw [heq, Nat.pow_succ, Nat.pow_add, Nat.mul_assoc (10 ^ scale'), Nat.mul_comm (10 ^ scale')]
    simp only [Nat.mul_assoc]
  rcases h with hzero | hrest <;> omega

/-- Of equal numbers the reduced fractions are the same. -/
theorem IsReduced.unique {n scale n' scale' : Nat} (h : IsReduced n scale)
    (h' : IsReduced n' scale') (heq : (n : ℚ) / 10 ^ scale = n' / 10 ^ scale') :
    n = n' ∧ scale = scale' := by
  rw [div_eq_div_iff (by positivity) (by positivity)] at heq
  have hcross : n * 10 ^ scale' = n' * 10 ^ scale := by exact_mod_cast heq
  have hscale : scale = scale' := Nat.le_antisymm (h.scale_le hcross) (h'.scale_le hcross.symm)
  subst hscale
  exact ⟨Nat.eq_of_mul_eq_mul_right (Nat.pow_pos (by decide)) hcross, rfl⟩

/-- The numeral of a reduced fraction is canonical. -/
theorem isCanonicalNumeral_numeralText {places n scale : Nat} (hplaces : scale ≤ places)
    (hreduced : IsReduced n scale) : IsCanonicalNumeral places (numeralText n scale) := by
  unfold numeralText
  split
  next => exact .whole (isWholeNumeral_toDigits n)
  next hscale =>
    have hlast : n % 10 ≠ 0 := hreduced.resolve_left hscale
    obtain ⟨count, rfl⟩ := Nat.exists_eq_succ_of_ne_zero hscale
    exact .fractional (isWholeNumeral_toDigits _) (fun c hc => isDigit_of_mem_lastDigits hc)
      (isDigit_digitChar (Nat.mod_lt n (by decide))) (by simpa using hlast)
        (by rwa [length_lastDigits])

theorem numeralText_of_isWholeNumeral (h : IsWholeNumeral digits) :
    numeralText (digitsValue digits) 0 = digits := by
  rw [numeralText, if_pos rfl, h.toDigits_digitsValue]

theorem numeralText_of_point (h : IsWholeNumeral digits)
    (hfraction : ∀ c ∈ fraction, c.isDigit = true) (hsome : fraction ≠ []) :
    numeralText (digitsValue (digits ++ fraction)) fraction.length = digits ++ '.' :: fraction := by
  have hlt := digitsValue_lt hfraction
  have hdiv : digitsValue (digits ++ fraction) / 10 ^ fraction.length = digitsValue digits := by
    rw [digitsValue_append, Nat.mul_comm, Nat.mul_add_div (by omega),
      Nat.div_eq_of_lt hlt, Nat.add_zero]
  have hmod : digitsValue (digits ++ fraction) % 10 ^ fraction.length = digitsValue fraction := by
    rw [digitsValue_append, Nat.mul_comm, Nat.mul_add_mod, Nat.mod_eq_of_lt hlt]
  rw [numeralText, if_neg (by simpa using hsome), hdiv, h.toDigits_digitsValue,
    ← lastDigits_mod, hmod, lastDigits_digitsValue hfraction]

/-- The canonical numerals are the numerals of reduced fractions. -/
theorem isCanonicalNumeral_iff {places : Nat} {cs : List Char} :
    IsCanonicalNumeral places cs ↔
      ∃ n scale, scale ≤ places ∧ IsReduced n scale ∧ numeralText n scale = cs := by
  constructor
  · intro h
    cases h with
    | whole hwhole => exact ⟨_, 0, Nat.zero_le _, .inl rfl, numeralText_of_isWholeNumeral hwhole⟩
    | @fractional digits fraction last hwhole hfraction hlast hnonzero hplaces =>
      have hall : ∀ c ∈ fraction ++ [last], c.isDigit = true := by
        intro c hc
        rcases List.mem_append.1 hc with hc | hc
        · exact hfraction c hc
        · rwa [List.mem_singleton.1 hc]
      refine ⟨_, _, ?_, .inr ?_, numeralText_of_point hwhole hall (by simp)⟩
      · simpa using hplaces
      · rw [← List.append_assoc, digitsValue_concat, Nat.mul_add_mod,
          Nat.mod_eq_of_lt (Nat.lt_succ_of_le (digitValue_le hlast))]
        intro hzero
        apply hnonzero
        rw [← digitChar_digitValue hlast, hzero]
        rfl
  · rintro ⟨n, scale, hplaces, hreduced, rfl⟩
    exact isCanonicalNumeral_numeralText hplaces hreduced

/-- A canonical numeral is determined by the number that it writes. -/
theorem IsCanonicalNumeral.numeralValue_inj {places places' : Nat} {cs cs' : List Char}
    (h : IsCanonicalNumeral places cs) (h' : IsCanonicalNumeral places' cs') :
    numeralValue cs = numeralValue cs' ↔ cs = cs' := by
  obtain ⟨n, scale, -, hreduced, rfl⟩ := isCanonicalNumeral_iff.1 h
  obtain ⟨n', scale', -, hreduced', rfl⟩ := isCanonicalNumeral_iff.1 h'
  constructor
  · intro heq
    rw [numeralValue_numeralText, numeralValue_numeralText] at heq
    obtain ⟨rfl, rfl⟩ := hreduced.unique hreduced' heq
    rfl
  · rintro heq
    rw [heq]

end Value

section Plain

variable {cs digits fraction : List Char}

/-- Is this a plain numeral, canonical or not: digits, one at least, and one point among them at
    most? -/
structure IsPlainNumeral (cs : List Char) : Prop where
  whole : ∀ c ∈ wholePart cs, c.isDigit = true
  fraction : ∀ c ∈ fractionPart cs, c.isDigit = true
  some_digit : wholePart cs ++ fractionPart cs ≠ []

/-- The number that the digits write without the point. -/
def significand (cs : List Char) : Nat := digitsValue (wholePart cs ++ fractionPart cs)

/-- Before and after the point there is all but the point. -/
theorem eq_wholePart_or (cs : List Char) :
    cs = wholePart cs ∧ fractionPart cs = [] ∨ cs = wholePart cs ++ '.' :: fractionPart cs := by
  have hsplit := List.takeWhile_append_dropWhile (p := (· != '.')) (l := cs)
  cases hdrop : cs.dropWhile (· != '.') with
  | nil =>
    exact .inl
      ⟨by rwa [hdrop, List.append_nil, eq_comm] at hsplit, by
        rw [fractionPart, hdrop, List.tail_nil]⟩
  | cons point rest =>
    obtain rfl : point = '.' := by
      have hpoint := List.head?_dropWhile_not (· != '.') cs
      rw [hdrop] at hpoint
      simpa using hpoint
    refine .inr ?_
    rw [wholePart, fractionPart, hdrop, List.tail_cons, ← hdrop, hsplit]

theorem numeralValue_eq_significand_div (cs : List Char) :
    numeralValue cs = significand cs / 10 ^ (fractionPart cs).length := by
  rw [numeralValue, significand, digitsValue_append]
  push_cast
  field_simp

theorem IsPlainNumeral.isDigit (h : IsPlainNumeral cs) :
    ∀ c ∈ wholePart cs ++ fractionPart cs, c.isDigit = true := by
  intro c hc
  rcases List.mem_append.1 hc with hc | hc
  · exact h.whole c hc
  · exact h.fraction c hc

theorem IsPlainNumeral.isDigit_or_point (h : IsPlainNumeral cs) :
    ∀ c ∈ cs, c.isDigit = true ∨ c = '.' := by
  intro c hc
  rcases eq_wholePart_or cs with ⟨hcs, -⟩ | hcs <;> rw [hcs] at hc
  · exact .inl (h.whole c hc)
  · rcases List.mem_append.1 hc with hc | hc
    · exact .inl (h.whole c hc)
    · exact (List.mem_cons.1 hc).symm.imp_left (h.fraction c)

theorem isBlank_of_isDigit {c : Char} (h : c.isDigit = true) : isBlank c = false := by
  have hdigits : ∀ digit ∈ List.range 10, isBlank digit.digitChar = false := by decide +kernel
  have hnone := hdigits (digitValue c) (List.mem_range.2 (Nat.lt_succ_of_le (digitValue_le h)))
  rwa [digitChar_digitValue h] at hnone

theorem IsPlainNumeral.isBlank_eq_false (h : IsPlainNumeral cs) : ∀ c ∈ cs, isBlank c = false := by
  intro c hc
  rcases h.isDigit_or_point c hc with hdigit | rfl
  · exact isBlank_of_isDigit hdigit
  · decide

/-- Zeros in front make no difference to the value. -/
theorem digitsValue_dropWhile_zero (cs : List Char) :
    digitsValue (cs.dropWhile (· == '0')) = digitsValue cs := by
  induction cs with
  | nil => rfl
  | cons c cs ih =>
    by_cases hzero : c = '0'
    · rw [List.dropWhile_cons_of_pos (by simpa using hzero), ih, hzero]
      rfl
    · rw [List.dropWhile_cons_of_neg (by simpa using hzero)]

/-- The significand has no more digits than the numeral, zeros in front aside. -/
theorem IsPlainNumeral.significand_lt (h : IsPlainNumeral cs) :
    significand cs < 10 ^ ((wholePart cs ++ fractionPart cs).dropWhile (· == '0')).length := by
  rw [significand, ← digitsValue_dropWhile_zero]
  exact digitsValue_lt fun c hc => h.isDigit c (List.dropWhile_subset _ hc)

end Plain

end FeeOracle.Text
