import FeeOracle.Proofs.Text.Uppercase
import FeeOracle.Ticker
import Mathlib.Data.List.TakeWhile

/-!
# Normal forms of tickers

A ticker has a normal form unless it is blank (`normalizeTicker_eq_ok_iff`). The normal form has no
blanks at its ends and is its own normal form (`normalTicker_normalTicker`), because no uppercase
form begins or ends with a blank unless it is that of a blank.
-/

namespace FeeOracle

namespace Text

/-- Does a text have no blanks at its ends? -/
def IsTrimmed (cs : List Char) : Prop :=
  (∀ c ∈ cs.head?, isBlank c = false) ∧ ∀ c ∈ cs.getLast?, isBlank c = false

theorem isTrimmed_of_not_isBlank {cs : List Char} (h : ∀ c ∈ cs, isBlank c = false) :
    IsTrimmed cs :=
  ⟨fun c hc => h c (List.mem_of_head? hc), fun c hc => h c (List.mem_of_getLast? hc)⟩

theorem dropWhile_isBlank_of_head? {cs : List Char} (h : ∀ c ∈ cs.head?, isBlank c = false) :
    cs.dropWhile isBlank = cs := by
  cases cs with
  | nil => rfl
  | cons c cs => exact List.dropWhile_cons_of_neg (by simp [h c rfl])

theorem isBlank_of_head?_dropWhile (cs : List Char) {c : Char}
    (h : c ∈ (cs.dropWhile isBlank).head?) : isBlank c = false := by
  have hnot := List.head?_dropWhile_not isBlank cs
  rwa [Option.mem_def.1 h] at hnot

/-- Trimming leaves a trimmed text as it is. -/
theorem trimBlanks_of_isTrimmed {cs : List Char} (h : IsTrimmed cs) : trimBlanks cs = cs := by
  have hreverse : ∀ c ∈ cs.reverse.head?, isBlank c = false := by
    rw [List.head?_reverse]
    exact h.2
  rw [trimBlanks, dropWhile_isBlank_of_head? h.1, dropWhile_isBlank_of_head? hreverse,
    List.reverse_reverse]

/-- What is left after the blanks at the start are gone ends in the blanks at the end. -/
theorem trimBlanks_append_takeWhile (cs : List Char) :
    trimBlanks cs ++ ((cs.dropWhile isBlank).reverse.takeWhile isBlank).reverse =
      cs.dropWhile isBlank := by
  rw [trimBlanks, ← List.reverse_append, List.takeWhile_append_dropWhile, List.reverse_reverse]

theorem isTrimmed_trimBlanks (cs : List Char) : IsTrimmed (trimBlanks cs) := by
  constructor
  · intro c hc
    refine isBlank_of_head?_dropWhile cs ?_
    rw [← trimBlanks_append_takeWhile, List.head?_append, Option.mem_def.1 hc]
    rfl
  · intro c hc
    rw [trimBlanks, List.getLast?_reverse] at hc
    exact isBlank_of_head?_dropWhile _ hc

theorem trimBlanks_eq_nil_iff {cs : List Char} :
    trimBlanks cs = [] ↔ ∀ c ∈ cs, isBlank c = true := by
  rw [trimBlanks, List.reverse_eq_nil_iff, List.dropWhile_eq_nil_iff]
  simp only [List.mem_reverse]
  constructor
  · intro hrest
    -- The first character that is left would be blank, so nothing is left.
    have hnil : cs.dropWhile isBlank = [] := by
      cases hdrop : cs.dropWhile isBlank with
      | nil => rfl
      | cons c rest =>
        have hblank := hrest c (by simp [hdrop])
        rw [isBlank_of_head?_dropWhile cs (by rw [hdrop]; rfl)] at hblank
        cases hblank
    exact List.dropWhile_eq_nil_iff.1 hnil
  · intro hblank c hc
    exact hblank c (List.dropWhile_subset isBlank hc)

/-- Nothing but blanks is taken away. -/
theorem exists_eq_append_trimBlanks (cs : List Char) :
    ∃ lead trail, (∀ c ∈ lead, isBlank c = true) ∧ (∀ c ∈ trail, isBlank c = true) ∧
      lead ++ trimBlanks cs ++ trail = cs := by
  refine ⟨cs.takeWhile isBlank,
    ((cs.dropWhile isBlank).reverse.takeWhile isBlank).reverse, ?_, ?_, ?_⟩
  · intro c hc
    exact List.mem_takeWhile_imp hc
  · intro c hc
    exact List.mem_takeWhile_imp (List.mem_reverse.1 hc)
  · rw [List.append_assoc, trimBlanks_append_takeWhile, List.takeWhile_append_dropWhile]

/-- More blanks around a text make no difference. -/
theorem trimBlanks_append {lead cs trail : List Char} (hlead : ∀ c ∈ lead, isBlank c = true)
    (htrail : ∀ c ∈ trail, isBlank c = true) :
    trimBlanks (lead ++ cs ++ trail) = trimBlanks cs := by
  by_cases hblank : ∀ c ∈ cs, isBlank c = true
  · rw [trimBlanks_eq_nil_iff.2 hblank, trimBlanks_eq_nil_iff]
    simp only [List.mem_append]
    rintro c ((hc | hc) | hc)
    · exact hlead c hc
    · exact hblank c hc
    · exact htrail c hc
  · have hkept : (cs.dropWhile isBlank).isEmpty = false := by
      rwa [Bool.eq_false_iff, Ne, List.isEmpty_iff, List.dropWhile_eq_nil_iff]
    rw [trimBlanks, trimBlanks, List.append_assoc, List.dropWhile_append_of_pos hlead,
      List.dropWhile_append, hkept, if_neg Bool.false_ne_true, List.reverse_append,
      List.dropWhile_append_of_pos (by simpa using htrail)]

/-- The uppercase form of a trimmed text is trimmed. -/
theorem IsTrimmed.flatMap_uppercaseChar {cs : List Char} (h : IsTrimmed cs) :
    IsTrimmed (cs.flatMap uppercaseChar) := by
  constructor
  · intro d hd
    cases cs with
    | nil => cases hd
    | cons c cs =>
      obtain ⟨head, tail, hform⟩ := List.exists_cons_of_ne_nil (uppercaseChar_ne_nil c)
      obtain rfl : head = d := by simpa [hform] using hd
      exact isBlank_of_mem_uppercaseChar (h.1 c rfl) (by simp [hform])
  · intro d hd
    rcases List.eq_nil_or_concat' cs with rfl | ⟨front, c, rfl⟩
    · cases hd
    · rw [List.flatMap_append, List.flatMap_singleton,
        List.getLast?_append_of_ne_nil _ (uppercaseChar_ne_nil c)] at hd
      exact isBlank_of_mem_uppercaseChar (h.2 c (by simp)) (List.mem_of_getLast? hd)

/-- Characters other than small letters differ in more than the case of ASCII letters. -/
theorem eq_of_toLower_eq {c d : Char} (hc : c.isLower = false) (hd : d.isLower = false)
    (h : c.toLower = d.toLower) : c = d := by
  rw [← Bool.not_eq_true, isLower_iff] at hc hd
  have hcode := congrArg Char.toNat h
  rw [toNat_toLower, toNat_toLower] at hcode
  apply Char.toNat_inj.1
  split at hcode <;> split at hcode <;> omega

theorem eq_of_map_toLower_eq {cs ds : List Char} (hcs : ∀ c ∈ cs, c.isLower = false)
    (hds : ∀ d ∈ ds, d.isLower = false)
    (h : cs.map Char.toLower = ds.map Char.toLower) : cs = ds := by
  induction cs generalizing ds with
  | nil => exact (List.map_eq_nil_iff.1 h.symm).symm
  | cons c cs ih =>
    cases ds with
    | nil => cases h
    | cons d ds =>
      rw [List.forall_mem_cons] at hcs hds
      obtain ⟨hhead, htail⟩ := List.cons.inj h
      rw [eq_of_toLower_eq hcs.1 hds.1 hhead, ih hcs.2 hds.2 htail]

/-- Is the character of ASCII, or else its own uppercase form? -/
def IsAsciiCasedChar (c : Char) : Prop := c.toNat < 128 ∨ uppercaseChar c = [c]

instance (c : Char) : Decidable (IsAsciiCasedChar c) := inferInstanceAs (Decidable (_ ∨ _))

/-- The uppercase form of such a character differs from it in the case of an ASCII letter at
    most. -/
theorem IsAsciiCasedChar.map_toLower_uppercaseChar {c : Char} (h : IsAsciiCasedChar c) :
    (uppercaseChar c).map Char.toLower = [c.toLower] := by
  rcases h with hascii | hown
  · have hsame : c.toUpper.toLower = c.toLower := by
      rw [← Char.toNat_inj, toNat_toLower, toNat_toLower, toNat_toUpper]
      by_cases hsmall : 97 ≤ c.toNat ∧ c.toNat ≤ 122
      · rw [if_pos hsmall, if_pos (by omega), if_neg (by omega)]
        omega
      · rw [if_neg hsmall]
    rw [uppercaseChar_of_ascii hascii, List.map_singleton, hsame]
  · rw [hown, List.map_singleton]

/-- A character whose lowercase form is that of an uppercase character is of ASCII or an uppercase
    character itself. -/
theorem isAsciiCasedChar_of_toLower_eq {c d : Char} (hd : uppercaseChar d = [d])
    (h : c.toLower = d.toLower) : IsAsciiCasedChar c := by
  have hcode := congrArg Char.toNat h
  rw [toNat_toLower, toNat_toLower] at hcode
  by_cases hascii : c.toNat < 128
  · exact .inl hascii
  · have hsame : c = d := by
      apply Char.toNat_inj.1
      split at hcode <;> split at hcode <;> omega
    rw [hsame]
    exact .inr hd

/-- Does a text have no letters with a case apart from those of ASCII, unless they are in upper
    case? -/
def IsAsciiCased (text : String) : Prop := ∀ c ∈ text.toList, IsAsciiCasedChar c

instance (text : String) : Decidable (IsAsciiCased text) :=
  List.decidableBAll IsAsciiCasedChar text.toList

/-- Does a text consist of blanks only? -/
def IsBlankText (text : String) : Prop := ∀ c ∈ text.toList, isBlank c = true

instance (text : String) : Decidable (IsBlankText text) :=
  List.decidableBAll (isBlank · = true) text.toList

theorem trim_eq_empty_iff {text : String} : trim text = "" ↔ IsBlankText text := by
  rw [trim, IsBlankText, ← trimBlanks_eq_nil_iff, String.ofList_eq_empty_iff]

end Text

/-- The ticker without blanks at its ends and in upper case. -/
def normalTicker (ticker : String) : String := Text.uppercase (Text.trim ticker)

theorem normalizeTicker_eq_ok_iff {ticker normal : String} :
    normalizeTicker ticker = .ok normal ↔
    ¬ Text.IsBlankText ticker ∧ normalTicker ticker = normal := by
  rw [← Text.trim_eq_empty_iff, normalizeTicker]
  by_cases hempty : Text.trim ticker = "" <;> simp [hempty, normalTicker]

theorem toList_normalTicker (ticker : String) :
    (normalTicker ticker).toList = (Text.trimBlanks ticker.toList).flatMap Text.uppercaseChar := by
  rw [normalTicker, Text.uppercase, Text.trim, String.toList_ofList, String.toList_ofList]

/-- A character of a normal form is one of an uppercase form. -/
theorem exists_of_mem_normalTicker {ticker : String} {c : Char}
    (h : c ∈ (normalTicker ticker).toList) : ∃ letter, c ∈ Text.uppercaseChar letter := by
  rw [toList_normalTicker] at h
  obtain ⟨letter, -, hform⟩ := List.mem_flatMap.1 h
  exact ⟨letter, hform⟩

theorem isTrimmed_normalTicker (ticker : String) : Text.IsTrimmed (normalTicker ticker).toList := by
  rw [toList_normalTicker]
  exact (Text.isTrimmed_trimBlanks ticker.toList).flatMap_uppercaseChar

theorem trim_normalTicker (ticker : String) :
    Text.trim (normalTicker ticker) = normalTicker ticker := by
  rw [Text.trim, Text.trimBlanks_of_isTrimmed (isTrimmed_normalTicker ticker), String.ofList_toList]

/-- A normal form is its own normal form. -/
theorem normalTicker_normalTicker (ticker : String) :
    normalTicker (normalTicker ticker) = normalTicker ticker := by
  rw [normalTicker, trim_normalTicker, normalTicker, Text.uppercase_uppercase]

/-- Only a blank ticker has an empty normal form. -/
theorem normalTicker_eq_empty_iff {ticker : String} :
    normalTicker ticker = "" ↔ Text.IsBlankText ticker := by
  rw [← String.toList_eq_nil_iff, toList_normalTicker, List.flatMap_eq_nil_iff, Text.IsBlankText,
    ← Text.trimBlanks_eq_nil_iff, List.eq_nil_iff_forall_not_mem]
  exact forall₂_congr fun c _ => iff_false_intro (Text.uppercaseChar_ne_nil c)

/-- Nor has any other ticker a blank one. -/
theorem isBlankText_normalTicker_iff {ticker : String} :
    Text.IsBlankText (normalTicker ticker) ↔ Text.IsBlankText ticker := by
  rw [← normalTicker_eq_empty_iff, normalTicker_normalTicker, normalTicker_eq_empty_iff]

/-- Normalization goes by the normal form alone. -/
theorem normalizeTicker_eq (ticker : String) :
    normalizeTicker ticker = if normalTicker ticker = "" then .error .blank
      else .ok (normalTicker ticker) := by
  by_cases hblank : Text.IsBlankText ticker
  · rw [if_pos (normalTicker_eq_empty_iff.2 hblank), normalizeTicker,
      Text.trim_eq_empty_iff.2 hblank]
    rfl
  · rw [if_neg (mt normalTicker_eq_empty_iff.1 hblank), normalizeTicker_eq_ok_iff.2 ⟨hblank, rfl⟩]

/-- The blank tickers are refused, and no others. -/
theorem normalizeTicker_eq_error_iff {ticker : String} {cause : TickerError} :
    normalizeTicker ticker = .error cause ↔ Text.IsBlankText ticker := by
  cases cause
  rw [← normalTicker_eq_empty_iff, normalizeTicker_eq]
  split
  next hempty => exact iff_of_true rfl hempty
  next hnonempty => exact iff_of_false (by simp) hnonempty

/-- A computation in two steps succeeds if and only if both do. -/
theorem bind_eq_ok_iff {ε α β : Type} {first : Except ε α} {second : α → Except ε β} {result : β} :
    first >>= second = .ok result ↔ ∃ value, first = .ok value ∧ second value = .ok result := by
  cases first with
  | error error => simp [bind, Except.bind]
  | ok value => simp [bind, Except.bind]

/-- It fails if and only if one of them does. -/
theorem bind_eq_error_iff {ε α β : Type} {first : Except ε α} {second : α → Except ε β}
    {cause : ε} :
    first >>= second = .error cause ↔
      first = .error cause ∨ ∃ value, first = .ok value ∧ second value = .error cause := by
  cases first with
  | error error => simp [bind, Except.bind]
  | ok value => simp [bind, Except.bind]

/-- There is a pair of two tickers if and only if neither is blank. -/
theorem TickerPair.of_eq_ok_iff {base quote : String} {pair : TickerPair} :
    TickerPair.of base quote = .ok pair ↔
      (¬ Text.IsBlankText base ∧ ¬ Text.IsBlankText quote) ∧
        { base := normalTicker base, quote := normalTicker quote } = pair := by
  simp only [TickerPair.of, bind_eq_ok_iff, normalizeTicker_eq_ok_iff, Except.ok.injEq]
  constructor
  · rintro ⟨_, ⟨hbase, rfl⟩, _, ⟨hquote, rfl⟩, rfl⟩
    exact ⟨⟨hbase, hquote⟩, rfl⟩
  · rintro ⟨⟨hbase, hquote⟩, rfl⟩
    exact ⟨_, ⟨hbase, rfl⟩, _, ⟨hquote, rfl⟩, rfl⟩

/-- Is the ticker its own normal form? A blank one is not. -/
structure IsNormalTicker (ticker : String) : Prop where
  notBlank : ¬ Text.IsBlankText ticker
  eq_normalTicker : normalTicker ticker = ticker

/-- The normal form of a ticker that is not blank is its own normal form. -/
theorem isNormalTicker_normalTicker {ticker : String} (h : ¬ Text.IsBlankText ticker) :
    IsNormalTicker (normalTicker ticker) where
  notBlank := mt isBlankText_normalTicker_iff.1 h
  eq_normalTicker := normalTicker_normalTicker ticker

namespace IsNormalTicker

variable {ticker other : String}

theorem normalize_eq (h : IsNormalTicker ticker) : normalizeTicker ticker = .ok ticker :=
  normalizeTicker_eq_ok_iff.2 ⟨h.notBlank, h.eq_normalTicker⟩

theorem ne_empty (h : IsNormalTicker ticker) : ticker ≠ "" := by
  rw [← h.eq_normalTicker]
  exact mt normalTicker_eq_empty_iff.1 h.notBlank

theorem isTrimmed (h : IsNormalTicker ticker) : Text.IsTrimmed ticker.toList := by
  rw [← h.eq_normalTicker]
  exact isTrimmed_normalTicker ticker

theorem trim_eq (h : IsNormalTicker ticker) : Text.trim ticker = ticker := by
  rw [← h.eq_normalTicker, trim_normalTicker]

theorem isLower_eq_false (h : IsNormalTicker ticker) : ∀ c ∈ ticker.toList, c.isLower = false := by
  rw [← h.eq_normalTicker]
  intro c hc
  obtain ⟨letter, hform⟩ := exists_of_mem_normalTicker hc
  exact Text.isLower_of_mem_uppercaseChar hform

theorem uppercaseChar_eq (h : IsNormalTicker ticker) :
    ∀ c ∈ ticker.toList, Text.uppercaseChar c = [c] := by
  rw [← h.eq_normalTicker]
  intro c hc
  obtain ⟨letter, hform⟩ := exists_of_mem_normalTicker hc
  exact Text.uppercaseChar_of_mem hform

/-- The pair of two tickers in normal form has them as they are. -/
theorem pair_of (h : IsNormalTicker ticker) (hother : IsNormalTicker other) :
    TickerPair.of ticker other = .ok { base := ticker, quote := other } := by
  rw [TickerPair.of_eq_ok_iff, h.eq_normalTicker, hother.eq_normalTicker]
  exact ⟨⟨h.notBlank, hother.notBlank⟩, rfl⟩

end IsNormalTicker
end FeeOracle
