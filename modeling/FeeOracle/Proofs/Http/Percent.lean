import FeeOracle.Http.Percent
import FeeOracle.Proofs.Text.Utf8

/-!
# Percent-encoding can be read back

What was escaped decodes to the bytes it was made from (`percentDecode_percentEncode`). An encoding
that lets the percent sign stand for itself takes the escapes of its input for escapes: decoding its
output is decoding its input (`percentDecode_percentEncode_of_keepsEscapes`), and that gives the
input back unless there is an escape in it.
-/

namespace FeeOracle.Http

open Text

variable {isKept : Char → Bool} {a b c : Char} {cs rest : List Char}

/-- Two characters make up an escape if both are hexadecimal digits. -/
theorem hexDigitsValue?_pair (a b : Char) :
    hexDigitsValue? [a, b] = (hexValue? a).bind fun high => (hexValue? b).map (16 * high + ·) := by
  cases ha : hexValue? a <;> cases hb : hexValue? b <;> simp [hexDigitsValue?, ha, hb]

theorem isSome_hexDigitsValue?_pair (a b : Char) :
    (hexDigitsValue? [a, b]).isSome = ((hexValue? a).isSome && (hexValue? b).isSome) := by
  rw [hexDigitsValue?_pair]
  cases ha : hexValue? a <;> cases hb : hexValue? b <;> rfl

/-- The digits of escapes are read as what they stand for. -/
theorem hexValue?_toUpper_digitChar {n : Nat} (h : n < 16) :
    hexValue? (Nat.digitChar n).toUpper = some n := by
  have hall : ∀ n < 16, hexValue? (Nat.digitChar n).toUpper = some n := by decide +kernel
  exact hall n h

theorem percentDecode_escapeByte (byte : UInt8) (rest : List Char) :
    percentDecode (escapeByte byte ++ rest) = byte :: percentDecode rest := by
  have hbyte := byte.toNat_lt
  have hhigh := hexValue?_toUpper_digitChar (show byte.toNat / 16 < 16 by omega)
  have hlow := hexValue?_toUpper_digitChar (show byte.toNat % 16 < 16 by omega)
  have hvalue : 16 * (byte.toNat / 16) + byte.toNat % 16 = byte.toNat :=
    Nat.div_add_mod byte.toNat 16
  simp only [escapeByte, List.cons_append, List.nil_append, percentDecode,
    hexDigitsValue?_pair, hhigh, hlow, Option.bind_some, Option.map_some, hvalue, UInt8.ofNat_toNat]

theorem percentDecode_flatMap_escapeByte (bytes : List UInt8) (rest : List Char) :
    percentDecode (bytes.flatMap escapeByte ++ rest) = bytes ++ percentDecode rest := by
  induction bytes with
  | nil => rfl
  | cons byte bytes ih =>
    rw [List.flatMap_cons, List.append_assoc, percentDecode_escapeByte, ih, List.cons_append]

/-- A character that begins no escape stands for itself. -/
theorem percentDecode_cons
    (h : c = '%' → ∀ a b after, rest = a :: b :: after → hexDigitsValue? [a, b] = none) :
    percentDecode (c :: rest) = String.utf8EncodeChar c ++ percentDecode rest := by
  by_cases hescape : c = '%' ∧ ∃ a b after, rest = a :: b :: after
  · obtain ⟨rfl, a, b, after, rfl⟩ := hescape
    rw [percentDecode, h rfl a b after rfl]
    rfl
  · rw [percentDecode, encodeUtf8_singleton]
    rintro a b after hc rfl
    exact hescape ⟨hc, a, b, after, rfl⟩

theorem percentDecode_cons_of_ne (h : c ≠ '%') (rest : List Char) :
    percentDecode (c :: rest) = String.utf8EncodeChar c ++ percentDecode rest :=
  percentDecode_cons fun hc => absurd hc h

@[simp] theorem percentEncode_nil : percentEncode isKept [] = [] := rfl

theorem percentEncode_cons (isKept : Char → Bool) (c : Char) (cs : List Char) :
    percentEncode isKept (c :: cs) =
      (if isKept c then [c] else (String.utf8EncodeChar c).flatMap escapeByte) ++
        percentEncode isKept cs := by
  rw [percentEncode, List.flatMap_cons, encodeUtf8_singleton]
  rfl

/-- Where the percent sign is escaped, decoding gives back what was encoded. -/
theorem percentDecode_percentEncode (hpercent : isKept '%' = false) (cs : List Char) :
    percentDecode (percentEncode isKept cs) = utf8Bytes cs := by
  induction cs with
  | nil => rfl
  | cons c cs ih =>
    rw [percentEncode_cons, utf8Bytes_cons]
    by_cases hc : isKept c = true
    · have hne : c ≠ '%' := by
        rintro rfl
        rw [hpercent] at hc
        cases hc
      rw [if_pos hc, List.singleton_append, percentDecode_cons_of_ne hne, ih]
    · rw [if_neg hc, percentDecode_flatMap_escapeByte, ih]

/-! ### Escapes in what is encoded -/

/-- There is an escape among the characters. -/
inductive HasEscape : List Char → Prop
  | here (a b : Char) (rest : List Char) :
      (hexDigitsValue? [a, b]).isSome → HasEscape ('%' :: a :: b :: rest)
  | later (c : Char) {rest : List Char} : HasEscape rest → HasEscape (c :: rest)

theorem HasEscape.percent_mem (h : HasEscape cs) : '%' ∈ cs := by
  induction h with
  | here => exact List.mem_cons_self
  | later c _ ih => exact List.mem_cons_of_mem c ih

/-- Decoding never makes longer, and makes shorter what has an escape in it. -/
theorem length_percentDecode (cs : List Char) :
    (percentDecode cs).length ≤ (utf8Bytes cs).length ∧
      (HasEscape cs → (percentDecode cs).length < (utf8Bytes cs).length) := by
  have hpercent : (String.utf8EncodeChar '%').length = 1 := rfl
  fun_induction percentDecode cs with
  | case1 => exact ⟨Nat.le_refl _, fun h => nomatch h⟩
  | case2 a b rest value hvalue ih =>
    have ha := String.length_utf8EncodeChar a ▸ Char.utf8Size_pos a
    simp only [utf8Bytes_cons, List.length_append, List.length_cons, hpercent]
    omega
  | case3 a b rest hnone ih =>
    have hlength : (utf8Bytes ('%' :: a :: b :: rest)).length =
        1 + (utf8Bytes (a :: b :: rest)).length := by
      rw [utf8Bytes_cons, List.length_append, hpercent]
    refine ⟨by simp only [hlength, List.length_cons]; omega, ?_⟩
    intro hescape
    cases hescape with
    | here _ _ _ hdigits =>
      rw [hnone] at hdigits
      cases hdigits
    | later _ hescape =>
      have hshorter := ih.2 hescape
      simp only [hlength, List.length_cons]
      omega
  | case4 c rest hnot ih =>
    simp only [utf8Bytes_cons, List.length_append, encodeUtf8_singleton]
    refine ⟨by omega, ?_⟩
    intro hescape
    cases hescape with
    | here a b rest _ => exact (hnot a b rest rfl rfl).elim
    | later _ hescape =>
      have hshorter := ih.2 hescape
      omega

/-- Decoding gives back what has no escape in it, and nothing else. -/
theorem percentDecode_eq_utf8Bytes_iff {cs : List Char} :
    percentDecode cs = utf8Bytes cs ↔ ¬ HasEscape cs := by
  constructor
  · intro hsame hescape
    exact absurd (congrArg List.length hsame) (Nat.ne_of_lt ((length_percentDecode cs).2 hescape))
  · intro hnone
    fun_induction percentDecode cs with
    | case1 => rfl
    | case2 a b rest value hvalue ih => exact absurd (.here a b rest (by rw [hvalue]; rfl)) hnone
    | case3 a b rest hinvalid ih =>
      rw [ih fun hescape => hnone (.later '%' hescape)]
      rfl
    | case4 c rest hnot ih =>
      rw [ih fun hescape => hnone (.later c hescape), encodeUtf8_singleton, utf8Bytes_cons]

/-- A digit in front of what was encoded was in front before. -/
theorem exists_eq_cons_of_percentEncode (ha : (hexValue? a).isSome)
    (h : percentEncode isKept cs = a :: rest) :
    ∃ before, cs = a :: before ∧ percentEncode isKept before = rest := by
  cases cs with
  | nil => cases h
  | cons c cs =>
    rw [percentEncode_cons] at h
    by_cases hc : isKept c = true
    · rw [if_pos hc, List.singleton_append, List.cons.injEq] at h
      exact ⟨cs, by rw [h.1], h.2⟩
    · have hbytes : String.utf8EncodeChar c ≠ [] :=
        List.ne_nil_of_length_pos (by simp [Char.utf8Size_pos])
      obtain ⟨byte, bytes, hbytes⟩ := List.exists_cons_of_ne_nil hbytes
      rw [if_neg hc, hbytes, List.flatMap_cons, escapeByte, List.cons_append, List.cons_append,
        List.cons.injEq] at h
      rw [← h.1] at ha
      cases ha

/-- Two digits that make up an escape were in front before. -/
theorem exists_eq_cons_cons_of_percentEncode (hdigits : (hexDigitsValue? [a, b]).isSome)
    (h : percentEncode isKept cs = a :: b :: rest) : ∃ before, cs = a :: b :: before := by
  rw [isSome_hexDigitsValue?_pair, Bool.and_eq_true] at hdigits
  obtain ⟨first, rfl, hfirst⟩ := exists_eq_cons_of_percentEncode hdigits.1 h
  obtain ⟨second, rfl, -⟩ := exists_eq_cons_of_percentEncode hdigits.2 hfirst
  exact ⟨second, rfl⟩

/-- An encoding that keeps the percent sign and the digits of escapes keeps what is decoded. -/
theorem percentDecode_percentEncode_of_keepsEscapes (hpercent : isKept '%' = true)
    (hdigits : ∀ c, (hexValue? c).isSome → isKept c = true) (cs : List Char) :
    percentDecode (percentEncode isKept cs) = percentDecode cs := by
  have hcons {c : Char} (hc : isKept c = true) (cs : List Char) :
      percentEncode isKept (c :: cs) = c :: percentEncode isKept cs := by
    rw [percentEncode_cons, if_pos hc, List.singleton_append]
  fun_induction percentDecode cs with
  | case1 => rw [percentEncode_nil, percentDecode]
  | case2 a b rest value hvalue ih =>
    have hpair : (hexValue? a).isSome = true ∧ (hexValue? b).isSome = true := by
      rw [← Bool.and_eq_true, ← isSome_hexDigitsValue?_pair, hvalue, Option.isSome_some]
    rw [hcons hpercent, hcons (hdigits a hpair.1), hcons (hdigits b hpair.2),
      percentDecode, hvalue, ih]
  | case3 a b rest hnone ih =>
    rw [hcons hpercent, percentDecode_cons, ih]
    · rfl
    · intro _ high low after hafter
      refine Option.not_isSome_iff_eq_none.1 fun hescape => ?_
      obtain ⟨before, hbefore⟩ := exists_eq_cons_cons_of_percentEncode hescape hafter
      obtain ⟨rfl, rfl, -⟩ := by simpa using hbefore
      rw [hnone] at hescape
      cases hescape
  | case4 c rest hnot ih =>
    rw [encodeUtf8_singleton]
    by_cases hc : isKept c = true
    · rw [hcons hc, percentDecode_cons, ih]
      intro hpercent high low after hafter
      refine Option.not_isSome_iff_eq_none.1 fun hescape => ?_
      obtain ⟨before, hbefore⟩ := exists_eq_cons_cons_of_percentEncode hescape hafter
      exact hnot high low before hpercent hbefore
    · rw [percentEncode_cons, if_neg hc, percentDecode_flatMap_escapeByte, ih]

end FeeOracle.Http
