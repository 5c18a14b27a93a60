import FeeOracle.Proofs.Http.Form
import FeeOracle.Proofs.Http.Url
import FeeOracle.Proofs.Ticker
import Mathlib.Data.List.DropRight

/-!
# Paths

What becomes of a path when its address is read. Characters can be lost on the way (`sent_sublist`),
and so can whole segments where steps are taken, and nothing is ever gained: the bytes that a path
decodes to are at most those that were written (`length_percentDecode_pathText`). A path without
steps is sent as it was written, with backslashes turned and with some characters escaped
(`pathText_of_no_steps`).
-/

namespace FeeOracle.Http.Url

open Text

variable {cs rest segment : List Char} {segments before : List (List Char)}

/-! ### Characters that are lost -/

theorem tidyEnd_sublist (cs : List Char) : (tidyEnd cs).Sublist cs :=
  List.filter_sublist.trans (List.rdropWhile_prefix (fun c : Char => c.toNat ≤ 0x20) cs).sublist

theorem sent_sublist (rest : List Char) : (sent rest).Sublist rest :=
  (List.takeWhile_sublist _).trans (tidyEnd_sublist rest)

/-- Characters can be left out of a text only at the cost of bytes. -/
theorem length_utf8Bytes_of_sublist (h : segment.Sublist cs) :
    (utf8Bytes segment).length ≤ (utf8Bytes cs).length ∧
      ((utf8Bytes segment).length = (utf8Bytes cs).length → segment = cs) := by
  induction h with
  | slnil => exact ⟨Nat.le_refl _, fun _ => rfl⟩
  | cons c h ih =>
    have hc := Char.utf8Size_pos c
    simp only [utf8Bytes_cons, List.length_append, String.length_utf8EncodeChar]
    exact ⟨by omega, by omega⟩
  | cons_cons c h ih =>
    simp only [utf8Bytes_cons, List.length_append]
    refine ⟨by omega, fun hsame => ?_⟩
    rw [ih.2 (by omega)]

/-- Nothing is lost of a text without tabs, line ends and number signs that does not end with a
    blank or control. -/
theorem sent_eq_self_iff :
    sent rest = rest ↔ (∀ c ∈ rest, c ≠ '#' ∧ c ≠ '\t' ∧ c ≠ '\n' ∧ c ≠ '\r') ∧
      ∀ c ∈ rest.getLast?, 0x20 < c.toNat := by
  have hedge : (rest.reverse.dropWhile (·.toNat ≤ 0x20)).reverse = rest ↔
      ∀ c ∈ rest.getLast?, 0x20 < c.toNat := by
    refine List.rdropWhile_eq_self_iff.trans ?_
    rcases List.eq_nil_or_concat' rest with rfl | ⟨front, c, rfl⟩ <;> simp
  constructor
  · intro hsent
    have htidy : tidyEnd rest = rest := by
      refine (tidyEnd_sublist rest).eq_of_length_le ?_
      calc rest.length = (sent rest).length := by rw [hsent]
        _ ≤ (tidyEnd rest).length := (List.takeWhile_sublist _).length_le
    have hend : (rest.reverse.dropWhile (·.toNat ≤ 0x20)).reverse = rest := by
      refine (List.rdropWhile_prefix (fun c : Char => c.toNat ≤ 0x20)
        rest).sublist.eq_of_length_le ?_
      calc rest.length = (tidyEnd rest).length := by rw [htidy]
        _ ≤ _ := List.filter_sublist.length_le
    rw [sent, htidy, List.takeWhile_eq_self_iff] at hsent
    rw [tidyEnd, hend, List.filter_eq_self] at htidy
    exact ⟨fun c hc => ⟨of_decide_eq_true (hsent c hc), of_decide_eq_true (htidy c hc)⟩,
      hedge.1 hend⟩
  · rintro ⟨hkept, hlast⟩
    rw [sent, tidyEnd, hedge.2 hlast,
      List.filter_eq_self.2 fun c hc => decide_eq_true (hkept c hc).2,
      List.takeWhile_eq_self_iff.2 fun c hc => decide_eq_true (hkept c hc).1]

/-! ### Segments -/

/-- Segments are what stands between slashes. -/
theorem flatMap_cons_slash (h : segments ≠ []) :
    segments.flatMap ('/' :: ·) = '/' :: ['/'].intercalate segments := by
  induction segments with
  | nil => exact absurd rfl h
  | cons segment segments ih =>
    cases segments with
    | nil => simp
    | cons next segments =>
      rw [List.flatMap_cons, ih (by simp), List.intercalate_cons_cons]
      simp

theorem flatMap_splitOn (cs : List Char) : (cs.splitOn '/').flatMap ('/' :: ·) = '/' :: cs := by
  rw [flatMap_cons_slash (List.splitOn_ne_nil '/' cs), List.intercalate_splitOn]

/-- The bytes of a path of segments, with a slash in front of each. -/
def size (segments : List (List Char)) : Nat := (utf8Bytes (segments.flatMap ('/' :: ·))).length

@[simp] theorem size_nil : size [] = 0 := rfl

@[simp] theorem size_cons (segment : List Char) (segments : List (List Char)) :
    size (segment :: segments) = (utf8Bytes segment).length + 1 + size segments := by
  have hslash : (String.utf8EncodeChar '/').length = 1 := rfl
  simp only [size, utf8Bytes, List.flatMap_cons, List.flatMap_append, List.length_append, hslash]
  omega

theorem size_append (segments others : List (List Char)) :
    size (segments ++ others) = size segments + size others := by
  simp [size, utf8Bytes]

/-- A step of a path: one that stays or one up. -/
def isStep (segment : List Char) : Bool := isHere segment || isUp segment

/-- Only a small letter is the lower case of anything else. -/
theorem eq_of_toLower_eq_of_not_small {c d : Char} (h : c.toLower = d)
    (hd : ¬ (97 ≤ d.toNat ∧ d.toNat ≤ 122)) : c = d := by
  have hcode := congrArg Char.toNat h
  rw [toNat_toLower] at hcode
  apply Char.toNat_inj.1
  split at hcode <;> omega

/-- The escape of a full stop can be written in either case. -/
theorem hasEscape_of_map_toLower {after : List Char}
    (h : segment.map Char.toLower = '%' :: '2' :: 'e' :: after) : HasEscape segment := by
  obtain ⟨percent, segment, rfl, hpercent, h⟩ := List.map_eq_cons_iff.1 h
  obtain ⟨two, segment, rfl, htwo, h⟩ := List.map_eq_cons_iff.1 h
  obtain ⟨e, segment, rfl, he, -⟩ := List.map_eq_cons_iff.1 h
  obtain rfl := eq_of_toLower_eq_of_not_small hpercent (by decide)
  obtain rfl := eq_of_toLower_eq_of_not_small htwo (by decide)
  have hcase : e = 'e' ∨ e = 'E' := by
    have hcode := congrArg Char.toNat he
    simp only [toNat_toLower, Char.reduceToNat] at hcode
    simp only [← Char.toNat_inj, Char.reduceToNat]
    split at hcode <;> omega
  refine .here '2' e segment ?_
  rcases hcase with rfl | rfl <;> decide +kernel

/-- Steps are written with full stops, or with escapes of them. -/
theorem hasEscape_of_isStep (h : isStep segment = true) (hone : segment ≠ ['.'])
    (htwo : segment ≠ ['.', '.']) : HasEscape segment := by
  have hstop {c : Char} (hc : c.toLower = '.') : c = '.' :=
    eq_of_toLower_eq_of_not_small hc (by decide)
  have hlist {text : String} (htext : String.ofList (segment.map Char.toLower) = text) :
      segment.map Char.toLower = text.toList := by rw [← htext, String.toList_ofList]
  simp only [isStep, isHere, isUp, List.contains_eq_mem, Bool.or_eq_true, decide_eq_true_eq,
    List.mem_cons, List.not_mem_nil, or_false] at h
  rcases h with (h | h) | h | h | h | h
  · obtain ⟨stop, rest, rfl, hfirst, hrest⟩ := List.map_eq_cons_iff.1 (hlist h)
    rw [hstop hfirst, List.map_eq_nil_iff.1 hrest] at hone
    exact absurd rfl hone
  · exact hasEscape_of_map_toLower (hlist h)
  · obtain ⟨first, rest, rfl, hfirst, hrest⟩ := List.map_eq_cons_iff.1 (hlist h)
    obtain ⟨second, rest, rfl, hsecond, hrest⟩ := List.map_eq_cons_iff.1 hrest
    rw [hstop hfirst, hstop hsecond, List.map_eq_nil_iff.1 hrest] at htwo
    exact absurd rfl htwo
  · obtain ⟨first, rest, rfl, -, hrest⟩ := List.map_eq_cons_iff.1 (hlist h)
    exact .later first (hasEscape_of_map_toLower hrest)
  · exact hasEscape_of_map_toLower (hlist h)
  · exact hasEscape_of_map_toLower (hlist h)

theorem resolve_of_no_steps (h : ∀ segment ∈ segments, isStep segment = false)
    (before : List (List Char)) : resolve before segments = before.reverse ++ segments := by
  induction segments generalizing before with
  | nil => simp [resolve]
  | cons segment segments ih =>
    have hsegment := h segment List.mem_cons_self
    rw [isStep, Bool.or_eq_false_iff] at hsegment
    simp [resolve, hsegment, ih fun other hother => h other (List.mem_cons_of_mem _ hother)]

theorem size_reverse (segments : List (List Char)) : size segments.reverse = size segments := by
  induction segments with
  | nil => rfl
  | cons segment segments ih =>
    rw [List.reverse_cons, size_append, ih, size_cons, size_cons, size_nil]
    omega

/-- A step leaves at most one more slash behind, and has at least one character besides its own. -/
theorem exists_resolve_of_isStep (h : isStep segment = true) (before segments : List (List Char)) :
    ∃ next,
      resolve before (segment :: segments) = resolve next segments ∧ size next ≤ size before + 1 ∧
      1 ≤ (utf8Bytes segment).length := by
  have hsegment : 1 ≤ (utf8Bytes segment).length := by
    cases segment with
    | nil => exact absurd h (by decide +kernel)
    | cons c segment =>
      have hc := Char.utf8Size_pos c
      simp only [utf8Bytes_cons, List.length_append, String.length_utf8EncodeChar]
      omega
  have hdrop : size (before.drop 1) ≤ size before := by cases before <;> simp
  rw [isStep, Bool.or_eq_true] at h
  by_cases hup : isUp segment = true
  · refine ⟨if segments.isEmpty then [] :: before.drop 1 else before.drop 1,
      by rw [resolve, if_pos hup], ?_, hsegment⟩
    split
    · rw [size_cons, utf8Bytes_nil, List.length_nil]
      omega
    · omega
  · refine ⟨if segments.isEmpty then [] :: before else before, ?_, ?_, hsegment⟩
    · rw [resolve, if_neg hup, if_pos (h.resolve_right hup)]
    · split
      · rw [size_cons, utf8Bytes_nil, List.length_nil]
        omega
      · omega

/-- Taking steps makes a path shorter. -/
theorem size_resolve (before segments : List (List Char)) :
    size (resolve before segments) ≤ size before + size segments ∧
      ((∃ segment ∈ segments, isStep segment = true) →
        size (resolve before segments) < size before + size segments) := by
  induction segments generalizing before with
  | nil => simp [resolve, size_reverse]
  | cons segment segments ih =>
    by_cases hstep : isStep segment = true
    · obtain ⟨next, hnext, hsize, hsegment⟩ := exists_resolve_of_isStep hstep before segments
      have hrest := (ih next).1
      rw [hnext, size_cons]
      exact ⟨by omega, fun _ => by omega⟩
    · have hkept : resolve before (segment :: segments) = resolve (segment :: before) segments := by
        rw [isStep, Bool.or_eq_true, not_or] at hstep
        rw [resolve, if_neg hstep.2, if_neg hstep.1]
      have hrest := ih (segment :: before)
      rw [hkept]
      simp only [size_cons, List.exists_mem_cons_iff, hstep] at hrest ⊢
      exact ⟨by omega, fun hany => by have := hrest.2 (hany.resolve_left (by simp)); omega⟩

/-! ### What a path decodes to -/

/-- A slash ends an escape that was begun. -/
theorem percentDecode_append_slash (cs rest : List Char) :
    percentDecode (cs ++ '/' :: rest) = percentDecode cs ++ percentDecode ('/' :: rest) := by
  fun_induction percentDecode cs with
  | case1 => rfl
  | case2 a b cs value hvalue ih =>
    rw [List.cons_append, List.cons_append, List.cons_append, percentDecode, hvalue, ih,
      List.cons_append]
  | case3 a b cs hnone ih =>
    have hbegun : percentDecode (a :: b :: (cs ++ '/' :: rest)) =
        percentDecode (a :: b :: cs) ++ _ := ih
    rw [List.cons_append, List.cons_append, List.cons_append, percentDecode, hnone, hbegun,
      List.cons_append]
  | case4 c cs hnot ih =>
    rw [List.cons_append, percentDecode_cons, ih, encodeUtf8_singleton, List.append_assoc]
    intro hc a b after hafter
    rw [← Option.not_isSome_iff_eq_none, isSome_hexDigitsValue?_pair, Bool.and_eq_true]
    rcases cs with _ | ⟨first, _ | ⟨second, cs⟩⟩
    · obtain ⟨rfl, -⟩ := List.cons.inj hafter
      simp [hexValue?]
    · obtain ⟨-, hafter⟩ := List.cons.inj hafter
      obtain ⟨rfl, -⟩ := List.cons.inj hafter
      simp [hexValue?]
    · exact (hnot first second cs hc rfl).elim

/-- The segments of a path are decoded one by one. -/
theorem percentDecode_flatMap_slash (segments : List (List Char)) :
    percentDecode (segments.flatMap ('/' :: ·)) =
      segments.flatMap fun segment => String.utf8EncodeChar '/' ++ percentDecode segment := by
  induction segments with
  | nil => rw [List.flatMap_nil, percentDecode, List.flatMap_nil]
  | cons segment segments ih =>
    have hrest : percentDecode (segment ++ segments.flatMap ('/' :: ·)) =
        percentDecode segment ++ percentDecode (segments.flatMap ('/' :: ·)) := by
      cases segments with
      | nil => simp [percentDecode]
      | cons next segments => exact percentDecode_append_slash _ _
    rw [List.flatMap_cons, List.cons_append, percentDecode_cons_of_ne (by decide), hrest, ih,
      List.flatMap_cons, List.append_assoc]

/-- A path with its slashes all the same way. -/
def slashed (cs : List Char) : List Char := cs.map fun c => if c = '\\' then '/' else c

theorem slashed_eq_self (h : '\\' ∉ cs) : slashed cs = cs := by
  refine (List.map_congr_left fun c hc => if_neg ?_).trans (List.map_id _)
  rintro rfl
  exact h hc

theorem slashed_flatMap (segments : List (List Char)) :
    slashed (segments.flatMap ('/' :: ·)) = (segments.map slashed).flatMap ('/' :: ·) := by
  rw [slashed, List.map_flatMap, List.flatMap_map]
  rfl

theorem pathText_cons_slash (cs : List Char) :
    pathText ('/' :: cs) =
      ((resolve [] ((slashed cs).splitOn '/')).map (percentEncode isPathChar)).flatMap
        ('/' :: ·) := by
  rw [List.flatMap_map]
  rfl

/-- The digits of an escape may stand for themselves in a path. -/
theorem isPathChar_of_hexValue? {c : Char} (h : (hexValue? c).isSome) : isPathChar c = true := by
  have hrange : 0x20 < c.toNat ∧ c.toNat < 0x7F := by
    have hdigit : c.isDigit = true ∨ ('a' ≤ c ∧ c ≤ 'f') ∨ ('A' ≤ c ∧ c ≤ 'F') := by
      by_contra hnone
      rw [not_or, not_or] at hnone
      rw [hexValue?, if_neg hnone.1, if_neg hnone.2.1, if_neg hnone.2.2] at h
      cases h
    rcases hdigit with hdigit | ⟨hfirst, hlast⟩ | ⟨hfirst, hlast⟩
    · obtain ⟨hfirst, hlast⟩ := Char.isDigit_iff_toNat.1 hdigit
      exact ⟨Nat.lt_of_lt_of_le (by decide) hfirst, Nat.lt_of_le_of_lt hlast (by decide)⟩
    · exact ⟨Nat.lt_of_lt_of_le (by decide : 0x20 < 'a'.toNat) hfirst,
        Nat.lt_of_le_of_lt hlast (by decide : 'f'.toNat < 0x7F)⟩
    · exact ⟨Nat.lt_of_lt_of_le (by decide : 0x20 < 'A'.toNat) hfirst,
        Nat.lt_of_le_of_lt hlast (by decide : 'F'.toNat < 0x7F)⟩
  have hkept : c ∉ ['\x22', '#', '<', '>', '?', '\x60', '\x7b', '\x7d'] := by
    intro hmem
    simp only [List.mem_cons, List.not_mem_nil, or_false] at hmem
    rcases hmem with rfl | rfl | rfl | rfl | rfl | rfl | rfl | rfl <;>
      exact absurd h (by decide +kernel)
  simp [isPathChar, hrange, hkept]

/-- An escape in a path is left as it is. -/
theorem percentDecode_percentEncode_isPathChar (cs : List Char) :
    percentDecode (percentEncode isPathChar cs) = percentDecode cs :=
  percentDecode_percentEncode_of_keepsEscapes (by decide +kernel)
    (fun _ => isPathChar_of_hexValue?) cs

theorem length_percentDecode_segments (segments : List (List Char)) :
    (percentDecode ((segments.map (percentEncode isPathChar)).flatMap ('/' :: ·))).length ≤
      size segments := by
  rw [percentDecode_flatMap_slash]
  induction segments with
  | nil => exact Nat.le_refl 0
  | cons segment segments ih =>
    have hsegment := (length_percentDecode segment).1
    have hslash : (String.utf8EncodeChar '/').length = 1 := rfl
    rw [List.map_cons, List.flatMap_cons, List.length_append, List.length_append, hslash,
      percentDecode_percentEncode_isPathChar, size_cons]
    omega

theorem length_utf8Bytes_slashed (cs : List Char) :
    (utf8Bytes (slashed cs)).length = (utf8Bytes cs).length := by
  induction cs with
  | nil => rfl
  | cons c cs ih =>
    have hc : (String.utf8EncodeChar (if c = '\\' then '/' else c)).length =
        (String.utf8EncodeChar c).length := by
      split
      next hback => rw [hback]; rfl
      next => rfl
    rw [slashed, List.map_cons, utf8Bytes_cons, utf8Bytes_cons, List.length_append,
      List.length_append, hc]
    exact congrArg _ ih

/-- A path decodes to no more bytes than were written, and to fewer if there are steps in it. -/
theorem length_percentDecode_pathText (cs : List Char) :
    (percentDecode (pathText ('/' :: cs))).length ≤ (utf8Bytes ('/' :: cs)).length ∧
      ((∃ segment ∈ (slashed cs).splitOn '/', isStep segment = true) →
        (percentDecode (pathText ('/' :: cs))).length < (utf8Bytes ('/' :: cs)).length) := by
  have hsize : size ((slashed cs).splitOn '/') = (utf8Bytes ('/' :: cs)).length := by
    rw [size, flatMap_splitOn, utf8Bytes_cons, utf8Bytes_cons, List.length_append,
      List.length_append, length_utf8Bytes_slashed]
  have hdecoded := length_percentDecode_segments (resolve [] ((slashed cs).splitOn '/'))
  have hresolved := size_resolve [] ((slashed cs).splitOn '/')
  rw [size_nil, Nat.zero_add, hsize] at hresolved
  rw [pathText_cons_slash]
  exact ⟨hdecoded.trans hresolved.1, fun hstep => Nat.lt_of_le_of_lt hdecoded (hresolved.2 hstep)⟩

/-- Slashes are kept, and escapes have none. -/
theorem slash_mem_percentEncode_iff {cs : List Char} :
    '/' ∈ percentEncode isPathChar cs ↔ '/' ∈ cs := by
  have hslash : isPathChar '/' = true := by decide +kernel
  constructor
  · intro hmem
    obtain ⟨c, hc, hmem⟩ := List.mem_flatMap.1 hmem
    split at hmem
    · rwa [List.mem_singleton.1 hmem]
    · obtain ⟨byte, -, hmem⟩ := List.mem_flatMap.1 hmem
      rcases mem_escapeByte hmem with hmem | hmem
      · cases hmem
      · exact absurd hmem (by decide +kernel)
  · intro hmem
    exact List.mem_flatMap.2 ⟨'/', hmem, by rw [if_pos hslash]; exact List.mem_singleton_self _⟩

theorem percentEncode_append {isKept : Char → Bool} (cs rest : List Char) :
    percentEncode isKept (cs ++ rest) = percentEncode isKept cs ++ percentEncode isKept rest :=
  List.flatMap_append

theorem flatMap_map_percentEncode (segments : List (List Char)) :
    (segments.map (percentEncode isPathChar)).flatMap ('/' :: ·) =
      percentEncode isPathChar (segments.flatMap ('/' :: ·)) := by
  have hslash : isPathChar '/' = true := by decide +kernel
  induction segments with
  | nil => rfl
  | cons segment segments ih =>
    rw [List.map_cons, List.flatMap_cons, List.flatMap_cons, ih, List.cons_append, List.cons_append,
      percentEncode_cons, if_pos hslash, percentEncode_append, List.singleton_append]

/-- Without steps a path is sent as it was written, but for its backslashes and escapes. -/
theorem pathText_of_no_steps (h : ∀ segment ∈ (slashed cs).splitOn '/', isStep segment = false) :
    pathText ('/' :: cs) = percentEncode isPathChar ('/' :: slashed cs) := by
  rw [pathText_cons_slash, resolve_of_no_steps h, List.reverse_nil, List.nil_append,
    flatMap_map_percentEncode, flatMap_splitOn]

end FeeOracle.Http.Url
