import FeeOracle.Text.Utf8
import Mathlib.Data.List.Basic

/-!
# UTF-8 can be read back

The bytes of a text encode that text (`decodeUtf8?_encodeUtf8`). Reading takes them character by
character: what a character is encoded as is read as this character, whatever follows it.
-/

namespace FeeOracle.Text

/-- The bytes of some characters. -/
def utf8Bytes (cs : List Char) : List UInt8 := cs.flatMap String.utf8EncodeChar

@[simp] theorem utf8Bytes_nil : utf8Bytes [] = [] := rfl

@[simp] theorem utf8Bytes_cons (c : Char) (cs : List Char) :
    utf8Bytes (c :: cs) = String.utf8EncodeChar c ++ utf8Bytes cs := List.flatMap_cons

/-- The bytes of an array are listed from the first to the last. -/
private theorem byteArray_toList_loop (bytes : ByteArray) (index : Nat) (before : List UInt8) :
    ByteArray.toList.loop bytes index before = before.reverse ++ bytes.data.toList.drop index := by
  fun_induction ByteArray.toList.loop bytes index before with
  | case1 index before hindex ih =>
    have hget : bytes.get! index = bytes.data.toList.get ⟨index, hindex⟩ :=
      getElem!_pos bytes.data index hindex
    rw [ih, List.reverse_cons, List.append_assoc, List.singleton_append, hget, List.get_eq_getElem,
      ← List.drop_eq_getElem_cons]
  | case2 index before hindex =>
    have hlength : bytes.data.toList.length ≤ index := Nat.le_of_not_lt hindex
    rw [List.drop_eq_nil_of_le hlength, List.append_nil]

theorem encodeUtf8_eq (text : String) : encodeUtf8 text = utf8Bytes text.toList := by
  rw [encodeUtf8, String.toUTF8, ← String.utf8Encode_toList, ByteArray.toList,
    byteArray_toList_loop, List.utf8Encode, List.toList_data_toByteArray]
  rfl

theorem encodeUtf8_singleton (c : Char) :
    encodeUtf8 (String.singleton c) = String.utf8EncodeChar c := by
  rw [encodeUtf8_eq, String.toList_singleton, utf8Bytes_cons, utf8Bytes_nil, List.append_nil]

theorem toNat_ofNat_of_lt {n : Nat} (h : n < 256) : (UInt8.ofNat n).toNat = n := by
  rw [UInt8.toNat_ofNat', Nat.mod_eq_of_lt h]

/-- A character of ASCII is one byte. -/
theorem utf8EncodeChar_of_ascii {c : Char} (h : c.toNat < 0x80) :
    String.utf8EncodeChar c = [UInt8.ofNat c.toNat] := if_pos (Nat.le_of_lt_succ h)

/-- No byte of any other character is one of ASCII. -/
theorem le_of_mem_utf8EncodeChar {c : Char} (h : 0x80 ≤ c.toNat) {byte : UInt8}
    (hbyte : byte ∈ String.utf8EncodeChar c) : 0x80 ≤ byte.toNat := by
  have hcode : ¬ c.val.toNat ≤ 0x7F := Nat.not_le_of_lt h
  simp only [String.utf8EncodeChar, if_neg hcode] at hbyte
  generalize c.val.toNat = code at hbyte
  split at hbyte
  · simp only [List.mem_cons, List.not_mem_nil, or_false] at hbyte
    rcases hbyte with rfl | rfl <;> rw [toNat_ofNat_of_lt (by omega)] <;> omega
  · split at hbyte
    · simp only [List.mem_cons, List.not_mem_nil, or_false] at hbyte
      rcases hbyte with rfl | rfl | rfl <;> rw [toNat_ofNat_of_lt (by omega)] <;> omega
    · simp only [List.mem_cons, List.not_mem_nil, or_false] at hbyte
      rcases hbyte with rfl | rfl | rfl | rfl <;> rw [toNat_ofNat_of_lt (by omega)] <;> omega

/-! ### Reading a character -/

theorem between_iff {first last : Nat} {byte : UInt8} :
    between first last byte = true ↔ first ≤ byte.toNat ∧ byte.toNat ≤ last := by
  rw [between, Bool.and_eq_true, decide_eq_true_eq, decide_eq_true_eq]

/-- The bytes that begin a character of two bytes. -/
theorem continuation?_of_two {byte : UInt8} (h : 0xC2 ≤ byte.toNat ∧ byte.toNat ≤ 0xDF) :
    continuation? byte = some (1, 0x80, 0xBF) := by
  rw [continuation?, if_pos (between_iff.2 h)]

/-- The bytes that begin a character of three bytes. The first and the thirteenth of them narrow the
    next byte. -/
theorem continuation?_of_three {byte : UInt8} (h : 0xE0 ≤ byte.toNat ∧ byte.toNat ≤ 0xEF) :
    continuation? byte = some (2, if byte.toNat = 0xE0 then 0xA0 else 0x80,
      if byte.toNat = 0xED then 0x9F else 0xBF) := by
  simp only [continuation?, between_iff, ← UInt8.toNat_inj, UInt8.reduceToNat]
  rw [if_neg (by omega)]
  by_cases hfirst : byte.toNat = 0xE0
  · simp [hfirst]
  · by_cases hthirteenth : byte.toNat = 0xED
    · simp [hthirteenth]
    · rw [if_neg hfirst, if_neg hthirteenth, if_pos (by omega), if_neg hfirst, if_neg hthirteenth]

/-- The bytes that begin a character of four bytes. The first and the last of them narrow the next
    byte. -/
theorem continuation?_of_four {byte : UInt8} (h : 0xF0 ≤ byte.toNat ∧ byte.toNat ≤ 0xF4) :
    continuation? byte = some (3, if byte.toNat = 0xF0 then 0x90 else 0x80,
      if byte.toNat = 0xF4 then 0x8F else 0xBF) := by
  simp only [continuation?, between_iff, ← UInt8.toNat_inj, UInt8.reduceToNat]
  rw [if_neg (by omega), if_neg (by omega), if_neg (by omega), if_neg (by omega)]
  by_cases hfirst : byte.toNat = 0xF0
  · simp [hfirst]
  · by_cases hlast : byte.toNat = 0xF4
    · simp [hlast]
    · rw [if_neg hfirst, if_pos (by omega), if_neg hfirst, if_neg hlast]

theorem takeContinuing_cons {code wanted first last : Nat} {byte : UInt8} {rest : List UInt8}
    (h : first ≤ byte.toNat ∧ byte.toNat ≤ last) :
    takeContinuing code (wanted + 1) first last (byte :: rest) =
      takeContinuing (64 * code + byte.toNat % 64) wanted 0x80 0xBF rest := by
  rw [takeContinuing, if_pos (between_iff.2 h)]

theorem decodeChars_of_ascii {byte : UInt8} {rest : List UInt8} (h : byte.toNat < 0x80) :
    decodeChars (byte :: rest) = some (Char.ofNat byte.toNat) :: decodeChars rest := by
  rw [decodeChars, if_pos h]

/-- A character of several bytes is read if none of them is missing. -/
theorem decodeChars_of_continued {byte : UInt8} {bytes rest : List UInt8}
    {wanted first last code : Nat} (hhigh : 0x80 ≤ byte.toNat)
    (hcontinuation : continuation? byte = some (wanted, first, last))
    (htaken : takeContinuing (leadingBits wanted byte) wanted first last bytes = (code, 0, rest)) :
    decodeChars (byte :: bytes) = some (Char.ofNat code) :: decodeChars rest := by
  rw [decodeChars, if_neg (Nat.not_lt_of_le hhigh)]
  simp only [hcontinuation, htaken, if_true]

theorem decodeChars_of_two {code : Nat} {rest : List UInt8} (hlow : 0x80 ≤ code)
    (hhigh : code ≤ 0x7FF) :
    decodeChars (UInt8.ofNat (code / 64 % 32 + 192) :: UInt8.ofNat (code % 64 + 128) :: rest) =
      some (Char.ofNat code) :: decodeChars rest := by
  have hlead := toNat_ofNat_of_lt (show code / 64 % 32 + 192 < 256 by omega)
  have hlast := toNat_ofNat_of_lt (show code % 64 + 128 < 256 by omega)
  refine decodeChars_of_continued (by omega) (continuation?_of_two (by omega)) ?_
  rw [leadingBits, takeContinuing_cons (by omega), hlead, hlast]
  simp only [takeContinuing, Prod.mk.injEq, and_true]
  omega

/-- The bounds of the second byte keep out overlong forms and surrogates. -/
theorem decodeChars_of_three {code : Nat} {rest : List UInt8} (hlow : 0x800 ≤ code)
    (hhigh : code ≤ 0xFFFF) (hvalid : code < 0xD800 ∨ 0xDFFF < code) :
    decodeChars (UInt8.ofNat (code / 4096 % 16 + 224) :: UInt8.ofNat (code / 64 % 64 + 128) ::
        UInt8.ofNat (code % 64 + 128) :: rest) =
      some (Char.ofNat code) :: decodeChars rest := by
  have hlead := toNat_ofNat_of_lt (show code / 4096 % 16 + 224 < 256 by omega)
  have hmiddle := toNat_ofNat_of_lt (show code / 64 % 64 + 128 < 256 by omega)
  have hlast := toNat_ofNat_of_lt (show code % 64 + 128 < 256 by omega)
  have hbounds : (if code / 4096 % 16 + 224 = 0xE0 then 0xA0 else 0x80) ≤ code / 64 % 64 + 128 ∧
      code / 64 % 64 + 128 ≤ if code / 4096 % 16 + 224 = 0xED then 0x9F else 0xBF := by
    constructor <;> split <;> omega
  refine decodeChars_of_continued (by omega) (continuation?_of_three (by omega)) ?_
  rw [leadingBits, hlead, takeContinuing_cons (by rwa [hmiddle]), takeContinuing_cons (by omega),
    hmiddle, hlast]
  simp only [takeContinuing, Prod.mk.injEq, and_true]
  omega

/-- The bounds of the second byte keep out overlong forms and what lies beyond the last code
    point. -/
theorem decodeChars_of_four {code : Nat} {rest : List UInt8} (hlow : 0x10000 ≤ code)
    (hhigh : code ≤ 0x10FFFF) :
    decodeChars (UInt8.ofNat (code / 262144 % 8 + 240) :: UInt8.ofNat (code / 4096 % 64 + 128) ::
        UInt8.ofNat (code / 64 % 64 + 128) :: UInt8.ofNat (code % 64 + 128) :: rest) =
      some (Char.ofNat code) :: decodeChars rest := by
  have hlead := toNat_ofNat_of_lt (show code / 262144 % 8 + 240 < 256 by omega)
  have hsecond := toNat_ofNat_of_lt (show code / 4096 % 64 + 128 < 256 by omega)
  have hthird := toNat_ofNat_of_lt (show code / 64 % 64 + 128 < 256 by omega)
  have hlast := toNat_ofNat_of_lt (show code % 64 + 128 < 256 by omega)
  have hbounds : (if code / 262144 % 8 + 240 = 0xF0 then 0x90 else 0x80) ≤ code / 4096 % 64 + 128 ∧
      code / 4096 % 64 + 128 ≤ if code / 262144 % 8 + 240 = 0xF4 then 0x8F else 0xBF := by
    constructor <;> split <;> omega
  refine decodeChars_of_continued (by omega) (continuation?_of_four (by omega)) ?_
  rw [leadingBits, hlead, takeContinuing_cons (by rwa [hsecond]), takeContinuing_cons (by omega),
    takeContinuing_cons (by omega), hsecond, hthird, hlast]
  simp only [takeContinuing, Prod.mk.injEq, and_true]
  omega

/-- What a character is encoded as is read as the character. -/
theorem decodeChars_utf8EncodeChar (c : Char) (rest : List UInt8) :
    decodeChars (String.utf8EncodeChar c ++ rest) = some c :: decodeChars rest := by
  have hvalid : c.val.toNat < 0xD800 ∨ 0xDFFF < c.val.toNat ∧ c.val.toNat < 0x110000 := c.valid
  have hcode : Char.ofNat c.val.toNat = c := Char.ofNat_toNat c
  simp only [String.utf8EncodeChar]
  generalize c.val.toNat = code at hvalid hcode
  subst hcode
  split
  next hone =>
    have hbyte := toNat_ofNat_of_lt (show code < 256 by omega)
    rw [List.singleton_append, decodeChars_of_ascii (by omega), hbyte]
  next hone =>
    split
    next htwo => exact decodeChars_of_two (by omega) htwo
    next htwo =>
      split
      next hthree => exact decodeChars_of_three (by omega) hthree (by omega)
      next hthree => exact decodeChars_of_four (by omega) (by omega)

theorem decodeChars_utf8Bytes (cs : List Char) : decodeChars (utf8Bytes cs) = cs.map some := by
  induction cs with
  | nil => rw [utf8Bytes_nil, decodeChars, List.map_nil]
  | cons c cs ih => rw [utf8Bytes_cons, decodeChars_utf8EncodeChar, ih, List.map_cons]

/-- The bytes of a text encode this text. -/
theorem decodeUtf8?_encodeUtf8 (text : String) : decodeUtf8? (encodeUtf8 text) = some text := by
  have hall (cs : List Char) : (cs.map some).mapM id = some cs := by
    induction cs with
    | nil => rfl
    | cons c cs ih =>
      rw [List.map_cons, List.mapM_cons, ih]
      rfl
  rw [decodeUtf8?, encodeUtf8_eq, decodeChars_utf8Bytes, hall, Option.map_some,
    String.ofList_toList]

theorem decodeUtf8_encodeUtf8 (text : String) : decodeUtf8 (encodeUtf8 text) = text := by
  have hall : (text.toList.map some).map (·.getD replacementChar) = text.toList := by
    rw [List.map_map]
    exact List.map_id _
  rw [decodeUtf8, encodeUtf8_eq, decodeChars_utf8Bytes, hall, String.ofList_toList]

end FeeOracle.Text
