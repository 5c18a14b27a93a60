import FeeOracle.Proofs.Http.Percent

/-!
# Forms can be read back

A form is read as the one who answers reads it: fields between ampersands, each a name and a value
around its first equals sign, with plus signs for blanks and escapes for bytes. What was written is
what is read (`readForm_formText`), so that different names or values make different forms.
-/

namespace FeeOracle.Http

open Text

/-- The text that a name or a value in a form writes. -/
def formWord (cs : List Char) : String :=
  decodeUtf8 (percentDecode (cs.map fun c => if c = '+' then ' ' else c))

/-- The names and values in a form. -/
def readForm (cs : List Char) : List (String × String) :=
  ((cs.splitOn '&').filter (· ≠ [])).map fun field =>
    (formWord (field.takeWhile (· ≠ '=')), formWord ((field.dropWhile (· ≠ '=')).drop 1))

/-- The characters of an escape. -/
theorem mem_escapeByte {byte : UInt8} {c : Char} (h : c ∈ escapeByte byte) :
    c = '%' ∨ isFormChar c = true := by
  have hbyte := byte.toNat_lt
  have hdigit : ∀ n < 16, isFormChar (Nat.digitChar n).toUpper = true := by decide +kernel
  simp only [escapeByte, List.mem_cons, List.not_mem_nil, or_false] at h
  rcases h with rfl | rfl | rfl
  · exact .inl rfl
  · exact .inr (hdigit _ (by omega))
  · exact .inr (hdigit _ (by omega))

/-- The characters of a name or a value in a form. -/
theorem mem_formEncode {text : String} {c : Char} (h : c ∈ formEncode text) :
    c = '+' ∨ c = '%' ∨ isFormChar c = true := by
  obtain ⟨written, -, hc⟩ := List.mem_flatMap.1 h
  rw [percentEncode_cons, percentEncode_nil, List.append_nil] at hc
  split at hc
  · exact .inl (List.mem_singleton.1 hc)
  · split at hc
    next hkept => exact .inr (.inr (List.mem_singleton.1 hc ▸ hkept))
    next =>
      obtain ⟨byte, -, hc⟩ := List.mem_flatMap.1 hc
      exact .inr (mem_escapeByte hc)

theorem ne_of_mem_formEncode {text : String} {c : Char} (h : c ∈ formEncode text) :
    c ≠ '&' ∧ c ≠ '=' := by
  have hplain : isFormChar '&' = false ∧ isFormChar '=' = false := by decide +kernel
  constructor
  · rintro rfl
    simpa [hplain] using mem_formEncode h
  · rintro rfl
    simpa [hplain] using mem_formEncode h

/-- With its plus signs undone, a form escapes all but blanks and what may stand for itself. -/
theorem map_formEncode (text : String) :
    ((formEncode text).map fun c => if c = '+' then ' ' else c) =
      percentEncode (fun c => c = ' ' || isFormChar c) text.toList := by
  have hplus {c : Char} (h : isFormChar c = true) : c ≠ '+' := by
    rintro rfl
    exact absurd h (by decide +kernel)
  have hescape (bytes : List UInt8) :
      ((bytes.flatMap escapeByte).map fun c => if c = '+' then ' ' else c) =
        bytes.flatMap escapeByte := by
    refine (List.map_congr_left fun c hc => ?_).trans (List.map_id _)
    obtain ⟨byte, -, hc⟩ := List.mem_flatMap.1 hc
    rcases mem_escapeByte hc with rfl | hc
    · rfl
    · exact if_neg (hplus hc)
  rw [formEncode]
  induction text.toList with
  | nil => rfl
  | cons c cs ih =>
    rw [List.flatMap_cons, List.map_append, ih,
      percentEncode_cons (fun c => c = ' ' || isFormChar c)]
    congr 1
    by_cases hblank : c = ' '
    · simp [hblank]
    · rw [if_neg hblank, percentEncode_cons, percentEncode_nil, List.append_nil]
      by_cases hkept : isFormChar c = true
      · simp [hkept, hplus hkept]
      · simp [hkept, hblank, hescape]

/-- A name or a value is read as what was written. -/
theorem formWord_formEncode (text : String) : formWord (formEncode text) = text := by
  rw [formWord, map_formEncode, percentDecode_percentEncode (by decide +kernel), ← encodeUtf8_eq,
    decodeUtf8_encodeUtf8]

/-- A form is read as what was written. -/
theorem readForm_formText (pairs : List (String × String)) : readForm (formText pairs) = pairs := by
  have hname (name value : String) :
      ((formEncode name ++ '=' :: formEncode value).takeWhile (· ≠ '=')) = formEncode name := by
    rw [List.takeWhile_append_of_pos fun c hc => by simpa using (ne_of_mem_formEncode hc).2]
    simp
  have hvalue (name value : String) :
      ((formEncode name ++ '=' :: formEncode value).dropWhile (· ≠ '=')).drop 1 =
        formEncode value := by
    rw [List.dropWhile_append_of_pos fun c hc => by simpa using (ne_of_mem_formEncode hc).2]
    simp
  by_cases hpairs : pairs = []
  · subst hpairs
    rfl
  · rw [readForm, formText, List.splitOn_intercalate]
    · rw [List.filter_eq_self.2 (List.forall_mem_map.2 fun _ _ => by simp), List.map_map]
      refine (List.map_congr_left fun pair _ => ?_).trans (List.map_id _)
      simp only [Function.comp_apply, hname, hvalue, formWord_formEncode, id_eq]
    · simp only [List.forall_mem_map, List.mem_append, List.mem_cons]
      rintro ⟨name, value⟩ - (h | h | h)
      · exact (ne_of_mem_formEncode h).1 rfl
      · exact absurd h (by decide)
      · exact (ne_of_mem_formEncode h).1 rfl
    · simpa using hpairs

end FeeOracle.Http
