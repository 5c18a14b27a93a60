import FeeOracle.Proofs.Ticker
import Mathlib.Logic.Relation

/-!
# Spellings of a ticker

Blanks around a ticker and the case of its letters are a matter of spelling (`SameTicker`). Every
ticker can be respelled into its normal form, and no respelling changes the normal form, so two
tickers have the same one if and only if they are spellings of each other (`normalTicker_eq_iff`).
For single characters this rests on the table of uppercase letters; a text may be respelled one
character at a time (`eqvGen_flatMap_uppercaseChar`).
-/

namespace FeeOracle

namespace Text

/-- One change of spelling: blanks are taken away from the ends, or one character is put in upper
    case. -/
inductive Respells : List Char → List Char → Prop
  | blanks {lead cs trail : List Char} (hlead : ∀ c ∈ lead, isBlank c = true)
      (htrail : ∀ c ∈ trail, isBlank c = true) : Respells (lead ++ cs ++ trail) cs
  | upper (front : List Char) (c : Char) (back : List Char) :
      Respells (front ++ c :: back) (front ++ uppercaseChar c ++ back)

/-- Upper case leaves the blanks around a text where they are. -/
theorem trimBlanks_flatMap_uppercaseChar (cs : List Char) :
    trimBlanks (cs.flatMap uppercaseChar) = (trimBlanks cs).flatMap uppercaseChar := by
  obtain ⟨lead, trail, hlead, htrail, hsplit⟩ := exists_eq_append_trimBlanks cs
  have hforms : cs.flatMap uppercaseChar =
      lead ++ (trimBlanks cs).flatMap uppercaseChar ++ trail := by
    have hleadForm := flatMap_uppercaseChar_eq_self fun c hc =>
      uppercaseChar_of_isBlank (hlead c hc)
    have htrailForm := flatMap_uppercaseChar_eq_self fun c hc =>
      uppercaseChar_of_isBlank (htrail c hc)
    rw [← hleadForm, ← htrailForm, ← List.flatMap_append, ← List.flatMap_append, hsplit]
  rw [hforms, trimBlanks_append hlead htrail]
  exact trimBlanks_of_isTrimmed (isTrimmed_trimBlanks cs).flatMap_uppercaseChar

/-- A change of spelling does not change what is left without blanks and in upper case. -/
theorem Respells.trimmed_eq {cs ds : List Char} (h : Respells cs ds) :
    (trimBlanks cs).flatMap uppercaseChar = (trimBlanks ds).flatMap uppercaseChar := by
  cases h with
  | blanks hlead htrail => rw [trimBlanks_append hlead htrail]
  | upper front c back =>
    -- In upper case the two texts are the same before any blanks are taken away.
    have hown : (uppercaseChar c).flatMap uppercaseChar = uppercaseChar c :=
      flatMap_uppercaseChar_eq_self fun d hd => uppercaseChar_of_mem hd
    rw [← trimBlanks_flatMap_uppercaseChar, ← trimBlanks_flatMap_uppercaseChar]
    simp only [List.flatMap_append, List.flatMap_cons, hown, List.append_assoc]

/-- Nor do any number of changes, made in either direction. -/
theorem trimmed_eq_of_eqvGen {cs ds : List Char} (h : Relation.EqvGen Respells cs ds) :
    (trimBlanks cs).flatMap uppercaseChar = (trimBlanks ds).flatMap uppercaseChar := by
  induction h with
  | rel _ _ hstep => exact hstep.trimmed_eq
  | refl _ => rfl
  | symm _ _ _ ih => exact ih.symm
  | trans _ _ _ _ _ ihfirst ihsecond => exact ihfirst.trans ihsecond

/-- A text can be put in upper case one character after the other. -/
theorem eqvGen_flatMap_uppercaseChar (front cs : List Char) :
    Relation.EqvGen Respells (front ++ cs) (front ++ cs.flatMap uppercaseChar) := by
  induction cs generalizing front with
  | nil => exact .refl _
  | cons c cs ih =>
    have hfirst := Relation.EqvGen.rel _ _ (Respells.upper front c cs)
    have hrest := ih (front ++ uppercaseChar c)
    rw [List.flatMap_cons, ← List.append_assoc]
    exact hfirst.trans _ _ _ hrest

/-- Every text can be respelled without blanks at its ends and in upper case. -/
theorem eqvGen_trimmed (cs : List Char) :
    Relation.EqvGen Respells cs ((trimBlanks cs).flatMap uppercaseChar) := by
  obtain ⟨lead, trail, hlead, htrail, hsplit⟩ := exists_eq_append_trimBlanks cs
  have hblanks : Respells (lead ++ trimBlanks cs ++ trail) (trimBlanks cs) := .blanks hlead htrail
  rw [hsplit] at hblanks
  exact .trans _ _ _ (.rel _ _ hblanks) (eqvGen_flatMap_uppercaseChar [] (trimBlanks cs))

end Text

/-- Are two texts spellings of one ticker? They differ in blanks around them and in the case of
    letters only. -/
def SameTicker (first second : String) : Prop :=
  Relation.EqvGen Text.Respells first.toList second.toList

variable {first second base quote otherBase otherQuote : String} {pair : TickerPair}

/-- Two tickers have the same normal form if and only if they are spellings of one. -/
theorem normalTicker_eq_iff : normalTicker first = normalTicker second ↔
    SameTicker first second := by
  rw [← String.toList_inj, toList_normalTicker, toList_normalTicker]
  constructor
  · intro hsame
    have hfirst := Text.eqvGen_trimmed first.toList
    have hsecond := Text.eqvGen_trimmed second.toList
    rw [← hsame] at hsecond
    exact hfirst.trans _ _ _ (hsecond.symm _ _)
  · exact Text.trimmed_eq_of_eqvGen

instance (first second : String) : Decidable (SameTicker first second) :=
  decidable_of_iff (normalTicker first = normalTicker second) normalTicker_eq_iff

/-- Two tickers are normalized alike if and only if they are spellings of one. -/
theorem normalizeTicker_eq_iff :
    normalizeTicker first = normalizeTicker second ↔ SameTicker first second := by
  rw [← normalTicker_eq_iff]
  constructor
  · intro hsame
    cases hfirst : normalizeTicker first with
    | error cause =>
      have hsecond := hsame.symm.trans hfirst
      rw [normalizeTicker_eq_error_iff, ← normalTicker_eq_empty_iff] at hfirst hsecond
      rw [hfirst, hsecond]
    | ok normal =>
      have hsecond := hsame.symm.trans hfirst
      rw [(normalizeTicker_eq_ok_iff.1 hfirst).2, (normalizeTicker_eq_ok_iff.1 hsecond).2]
  · intro hsame
    rw [normalizeTicker_eq, normalizeTicker_eq, hsame]

/-- Spellings of the same two tickers make the same pair, or none. -/
theorem SameTicker.pair_eq (hbase : SameTicker base otherBase)
    (hquote : SameTicker quote otherQuote) :
    TickerPair.of base quote = TickerPair.of otherBase otherQuote := by
  rw [TickerPair.of, TickerPair.of, normalizeTicker_eq_iff.2 hbase, normalizeTicker_eq_iff.2 hquote]

/-- The texts that make a pair are the spellings of its tickers. -/
theorem TickerPair.of_eq_iff_of_eq_ok (hpair : TickerPair.of base quote = .ok pair) :
    TickerPair.of otherBase otherQuote = .ok pair ↔
    SameTicker base otherBase ∧ SameTicker quote otherQuote := by
  constructor
  · intro hother
    obtain ⟨-, rfl⟩ := TickerPair.of_eq_ok_iff.1 hpair
    obtain ⟨hbase, hquote⟩ := TickerPair.mk.inj (TickerPair.of_eq_ok_iff.1 hother).2
    exact ⟨normalTicker_eq_iff.1 hbase.symm, normalTicker_eq_iff.1 hquote.symm⟩
  · rintro ⟨hbase, hquote⟩
    rw [← hbase.pair_eq hquote, hpair]

/-- A pair that was made of two texts is the pair of its own tickers. -/
theorem TickerPair.of_base_quote_of_eq_ok (hpair : TickerPair.of base quote = .ok pair) :
    TickerPair.of pair.base pair.quote = .ok pair := by
  obtain ⟨⟨hbase, hquote⟩, rfl⟩ := TickerPair.of_eq_ok_iff.1 hpair
  exact (isNormalTicker_normalTicker hbase).pair_of (isNormalTicker_normalTicker hquote)

/-- Normalization is a projection. It refuses the blank tickers and no others. A normal form is not
    empty, it has no blanks at its ends and no letter that is not in upper case, and normalization
    leaves it alone. Two tickers come to the same if and only if one is a spelling of the other. So
    the pairs are those that are made of their own tickers, and the texts that make a pair are the
    spellings of its tickers. -/
theorem normalizeTicker_projects :
    (∀ ticker, (∃ cause, normalizeTicker ticker = .error cause) ↔ Text.IsBlankText ticker) ∧
      (∀ ticker, ¬ Text.IsBlankText ticker →
        ∃ normal, normalizeTicker ticker = .ok normal ∧ normal ≠ "" ∧
        Text.IsTrimmed normal.toList ∧
        (∀ c ∈ normal.toList, c.isLower = false ∧ Text.uppercaseChar c = [c]) ∧
        normalizeTicker normal = .ok normal) ∧
      (∀ first second, normalizeTicker first = normalizeTicker second ↔ SameTicker first second) ∧
      (∀ pair, (∃ base quote, TickerPair.of base quote = .ok pair) ↔
        TickerPair.of pair.base pair.quote = .ok pair) ∧
      ∀ base quote otherBase otherQuote pair, TickerPair.of base quote = .ok pair →
        (TickerPair.of otherBase otherQuote = .ok pair ↔
          SameTicker base otherBase ∧ SameTicker quote otherQuote) := by
  refine ⟨?refused, ?normal, fun _ _ => normalizeTicker_eq_iff, ?own, ?pairs⟩
  case refused =>
    intro ticker
    constructor
    · rintro ⟨cause, hcause⟩
      exact normalizeTicker_eq_error_iff.1 hcause
    · intro hblank
      exact ⟨.blank, normalizeTicker_eq_error_iff.2 hblank⟩
  case normal =>
    intro ticker hnotBlank
    have hnormal := isNormalTicker_normalTicker hnotBlank
    exact ⟨normalTicker ticker, normalizeTicker_eq_ok_iff.2 ⟨hnotBlank, rfl⟩, hnormal.ne_empty,
      hnormal.isTrimmed,
      fun c hc => ⟨hnormal.isLower_eq_false c hc, hnormal.uppercaseChar_eq c hc⟩,
      hnormal.normalize_eq⟩
  case own =>
    intro pair
    constructor
    · rintro ⟨base, quote, hpair⟩
      exact TickerPair.of_base_quote_of_eq_ok hpair
    · intro hown
      exact ⟨pair.base, pair.quote, hown⟩
  case pairs =>
    intro base quote otherBase otherQuote pair hpair
    exact TickerPair.of_eq_iff_of_eq_ok hpair

/-- A ligature of three letters after a letter that becomes two, between blanks outside of ASCII,
    and another spelling of the same ticker. -/
theorem normalizeTicker_projects_ligature :
    ¬ Text.IsBlankText "\u3000ŉﬃ\u2028" ∧ normalizeTicker "\u3000ŉﬃ\u2028" = .ok "ʼNFFI" ∧
      normalizeTicker "ʼNFFI" = .ok "ʼNFFI" ∧ SameTicker "\u3000ŉﬃ\u2028" "ʼnﬀi " ∧
      TickerPair.of "\u3000ŉﬃ\u2028" "usd" = .ok ⟨"ʼNFFI", "USD"⟩ ∧
      TickerPair.of "ʼNFFI" "USD" = .ok ⟨"ʼNFFI", "USD"⟩ ∧
      TickerPair.of "ʼnﬀi " "Usd" = .ok ⟨"ʼNFFI", "USD"⟩ := by
  obtain ⟨-, hnormal, hsame, hown, hpairs⟩ := normalizeTicker_projects
  have hnotBlank : ¬ Text.IsBlankText "\u3000ŉﬃ\u2028" := by decide +kernel
  have hvalue : normalizeTicker "\u3000ŉﬃ\u2028" = .ok "ʼNFFI" := by decide +kernel
  have hpair : TickerPair.of "\u3000ŉﬃ\u2028" "usd" = .ok ⟨"ʼNFFI", "USD"⟩ := by decide +kernel
  obtain ⟨normal, hok, -, -, -, hagain⟩ := hnormal _ hnotBlank
  obtain rfl : normal = "ʼNFFI" := Except.ok.inj (hok.symm.trans hvalue)
  have hspelling : SameTicker "\u3000ŉﬃ\u2028" "ʼnﬀi " := (hsame _ _).1 (by decide +kernel)
  have hotherPair := (hpairs _ _ "ʼnﬀi " "Usd" _ hpair).2 ⟨hspelling, by decide +kernel⟩
  exact ⟨hnotBlank, hok, hagain, hspelling, hpair,
    (hown ⟨"ʼNFFI", "USD"⟩).1 ⟨_, _, hpair⟩, hotherPair⟩

end FeeOracle
