import FeeOracle.Decimal.Reader
import FeeOracle.Proofs.Decimal.Nearest
import FeeOracle.Proofs.Text.Numeral

/-!
# Reading plain numerals

Digits are read one by one into the coefficient, and those after the point into the scale as well
(`readDigits_append`). So a plain numeral whose digits fit is read as it is written
(`parse_of_isPlainNumeral`).
-/

namespace FeeOracle.Decimal

open Text

variable {read : Decimal} {coefficient scale : ℕ} {digits rest cs : List Char} {digitSeen : Bool}

/-- A coefficient and a scale make a decimal number exactly if they are in range. -/
theorem exists_of?_eq_some_iff :
    (∃ x, of? false coefficient scale = some x) ↔
    coefficient < coefficientBound ∧ scale ≤ maxScale := by
  constructor
  · rintro ⟨x, hx⟩
    obtain ⟨-, rfl, rfl⟩ := of?_eq_some_iff.1 hx
    exact ⟨x.coefficient_lt, x.scale_le⟩
  · intro hfits
    exact ⟨_, dif_pos hfits⟩

/-- What is read with one digit more. -/
theorem push?_eq (h : of? false coefficient scale = some read) (pointSeen : Bool) (c : Char) :
    push? read pointSeen c =
      of? false (10 * coefficient + digitValue c) (scale + pointSeen.toNat) := by
  obtain ⟨-, rfl, rfl⟩ := of?_eq_some_iff.1 h
  cases pointSeen <;> rfl

theorem readDigits_nil (read : Decimal) (pointSeen : Bool) :
    readDigits read true pointSeen [] = .ok read :=
  rfl

theorem readDigits_digit {c : Char} {next : Decimal} {pointSeen : Bool} (hdigit : c.isDigit = true)
    (h : push? read pointSeen c = some next) :
    readDigits read digitSeen pointSeen (c :: rest) = readDigits next true pointSeen rest := by
  -- The equation is stated by hand: unfolding would look into the bounds of `push?`.
  show (if c.isDigit then _ else _) = _
  rw [if_pos hdigit, h]

theorem readDigits_point (read : Decimal) (digitSeen : Bool) (rest : List Char) :
    readDigits read digitSeen false ('.' :: rest) = readDigits read digitSeen true rest :=
  rfl

/-- Digits that fit are appended to the coefficient, and those after the point count for the
    scale. -/
theorem readDigits_append {next : Decimal} (pointSeen : Bool) (rest : List Char)
    (h : of? false coefficient scale = some read)
    (hnext : of? false (coefficient * 10 ^ digits.length + digitsValue digits)
      (scale + pointSeen.toNat * digits.length) = some next)
      (hdigits : ∀ c ∈ digits, c.isDigit = true) :
    readDigits read digitSeen pointSeen (digits ++ rest) =
      readDigits next (digitSeen || !digits.isEmpty) pointSeen rest := by
  induction digits generalizing read coefficient scale digitSeen with
  | nil =>
    have hsame : of? false coefficient scale = some next := by simpa [digitsValue] using hnext
    obtain rfl := Option.some.inj (h.symm.trans hsame)
    rw [List.nil_append, List.isEmpty_nil, Bool.not_true, Bool.or_false]
  | cons c digits ih =>
    rw [List.forall_mem_cons] at hdigits
    have hplaces : scale + pointSeen.toNat * (c :: digits).length =
        scale + pointSeen.toNat + pointSeen.toNat * digits.length := by
      rw [List.length_cons, Nat.mul_succ]
      omega
    rw [mul_add_digitsValue_cons, hplaces] at hnext
    obtain ⟨hcoefficient, hscale⟩ := exists_of?_eq_some_iff.1 ⟨next, hnext⟩
    have hgrows := Nat.le_mul_of_pos_right (10 * coefficient + digitValue c)
      (Nat.pow_pos (n := digits.length) (by decide : 0 < 10))
    obtain ⟨middle, hmiddle⟩ :
        ∃ x, of? false (10 * coefficient + digitValue c) (scale + pointSeen.toNat) = some x :=
      exists_of?_eq_some_iff.2 ⟨by omega, by omega⟩
    rw [List.cons_append, readDigits_digit hdigits.1 ((push?_eq h pointSeen c).trans hmiddle),
      ih hmiddle hnext hdigits.2, Bool.true_or, List.isEmpty_cons, Bool.not_false, Bool.or_true]

section Zero

variable {whole fraction : List Char} {x : Decimal}

theorem of?_zero : of? false 0 0 = some zero := by decide +kernel

theorem readDigits_whole (hdigits : ∀ c ∈ digits, c.isDigit = true) (hsome : digits ≠ [])
    (hx : of? false (digitsValue digits) 0 = some x) :
    readDigits zero false false digits = .ok x := by
  have happend :=
    @readDigits_append zero 0 0 digits false x false [] of?_zero (by simpa using hx) hdigits
  rw [List.append_nil, Bool.false_or, List.isEmpty_eq_false_iff.2 hsome] at happend
  exact happend.trans (readDigits_nil x false)

/-- The digits on both sides of a point are read into one coefficient. -/
theorem readDigits_pointed (hwhole : ∀ c ∈ whole, c.isDigit = true)
    (hfraction : ∀ c ∈ fraction, c.isDigit = true) (hsome : whole ++ fraction ≠ [])
    (hx : of? false (digitsValue (whole ++ fraction)) fraction.length = some x) :
    readDigits zero false false (whole ++ '.' :: fraction) = .ok x := by
  rw [digitsValue_append] at hx
  obtain ⟨hfits, -⟩ := exists_of?_eq_some_iff.1 ⟨x, hx⟩
  have hgrows := Nat.le_mul_of_pos_right (digitsValue whole)
    (Nat.pow_pos (n := fraction.length) (by decide : 0 < 10))
  obtain ⟨middle, hmiddle⟩ : ∃ middle, of? false (digitsValue whole) 0 = some middle :=
    exists_of?_eq_some_iff.2 ⟨by omega, by decide⟩
  have hseen : (!whole.isEmpty || !fraction.isEmpty) = true := by
    cases whole <;> cases fraction <;> simp_all
  calc readDigits zero false false (whole ++ '.' :: fraction)
      = readDigits middle (!whole.isEmpty) false ('.' :: fraction) :=
        @readDigits_append zero 0 0 whole false middle false _ of?_zero
          (by simpa using hmiddle) hwhole
    _ = readDigits middle (!whole.isEmpty) true (fraction ++ []) := by
      rw [readDigits_point, List.append_nil]
    _ = readDigits x (!whole.isEmpty || !fraction.isEmpty) true [] :=
        readDigits_append true [] hmiddle (by simpa using hx) hfraction
    _ = .ok x := by rw [hseen, readDigits_nil]

end Zero

/-- A plain numeral is read as it is written, if its digits fit. -/
theorem readDigits_of_isPlainNumeral {x : Decimal} (h : IsPlainNumeral cs)
    (hx : of? false (significand cs) (fractionPart cs).length = some x) :
    readDigits zero false false cs = .ok x := by
  rcases eq_wholePart_or cs with ⟨hcs, hfraction⟩ | hcs
  · have hwhole := h.whole
    have hsome := h.some_digit
    rw [significand, hfraction, List.append_nil, ← hcs] at hx
    rw [hfraction, List.append_nil, ← hcs] at hsome
    rw [← hcs] at hwhole
    exact readDigits_whole hwhole hsome hx
  · rw [hcs]
    exact readDigits_pointed h.whole h.fraction h.some_digit hx

theorem readPlain_of_isPlainNumeral (h : IsPlainNumeral cs) :
    readPlain cs = readDigits zero false false cs := by
  unfold readPlain
  split
  next => exact absurd rfl h.some_digit
  next => simpa using h.isDigit_or_point '-' List.mem_cons_self
  next => simpa using h.isDigit_or_point '+' List.mem_cons_self
  next => rfl

theorem parse_of_isPlainNumeral {x : Decimal} (h : IsPlainNumeral cs)
    (hx : of? false (significand cs) (fractionPart cs).length = some x) :
    parse (String.ofList cs) = .ok x := by
  rw [parse, String.toList_ofList, readPlain_of_isPlainNumeral h, readDigits_of_isPlainNumeral h hx]

end FeeOracle.Decimal
