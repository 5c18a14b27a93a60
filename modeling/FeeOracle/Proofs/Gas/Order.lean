import FeeOracle.Proofs.Decimal.LongNumeral
import FeeOracle.Proofs.Gas.Payload
import FeeOracle.Proofs.Gas.Tenths
import FeeOracle.Proofs.Json.Number

/-!
# The order of tiers

Services send the tiers of the gas price in ascending order, and each tier is read apart from the
others. Reading keeps the order of the doubles that the numbers in a document are read as
(`tierOfTenths_mono`), and with it that of short numbers (`exists_sendsNumbers_of_isShort`). It
keeps the order of texts of any length (`tierOfText_mono`), unless a separator hides the digit that
rounds the last place (`LosesDigit`).
-/

namespace FeeOracle

open Json Text Decimal Double

/-- Are the tiers in ascending order? -/
structure GasTiers.IsOrdered (tiers : GasTiers) : Prop where
  slow_le : tiers.slow ≤ tiers.fast
  fast_le : tiers.fast ≤ tiers.fastest

/-! ### Numbers -/

section Numbers

variable {name name' : String} {tenths tenths' : Double} {units units' : ℕ}

/-- More tenths are no fewer whole units. -/
theorem tierOfTenths_mono (h : tierOfTenths name tenths = .ok units)
    (h' : tierOfTenths name' tenths' = .ok units') (hle : tenths.toRat ≤ tenths'.toRat) :
    units ≤ units' := by
  have haccepted {name : String} {tenths : Double} {units : ℕ}
      (h : tierOfTenths name tenths = .ok units) :
      ∃ x, IsUnsigned x ∧ x.toRat = tenths.toRat ∧
        units = min (wholeTenth x.magnitude) maxTier := by
    have hvalid : tenths.isFinite = true ∧ 0 ≤ tenths.toRat := by
      by_contra hinvalid
      cases h.symm.trans (tierOfTenths_eq_error name hinvalid)
    obtain ⟨x, hx, hvalue, hwhole⟩ := exists_isUnsigned_of_nonneg hvalid.1 hvalid.2
    refine ⟨x, hx, hvalue, ?_⟩
    rw [← floorNat_div_ten hx, hwhole]
    exact Except.ok.inj (h.symm.trans (tierOfTenths_eq_ok name hvalid.1 hvalid.2))
  obtain ⟨x, hx, hvalue, rfl⟩ := haccepted h
  obtain ⟨y, hy, hvalue', rfl⟩ := haccepted h'
  rw [← hvalue, ← hvalue', toRat_le_iff hx.sign hy.sign] at hle
  exact min_le_min_right _ (wholeTenth_mono hle)

/-- The document is a record with these three numbers. -/
structure SendsNumerals (document : Written) (safeLow fast fastest : Json.Numeral) : Prop where
  isRecord : document.IsRecord tenthsFields
  safeLow : document.HasField tenthsFields "safeLow" (.number safeLow)
  fast : document.HasField tenthsFields "fast" (.number fast)
  fastest : document.HasField tenthsFields "fastest" (.number fastest)

/-- The numbers are read one by one. -/
theorem SendsNumerals.sendsNumbers {document : Written} {safeLow fast fastest : Json.Numeral}
    {payload : TenthsPayload} (h : SendsNumerals document safeLow fast fastest)
    (hsafeLow : safeLow.datum?.bind Datum.double? = some payload.safeLow)
    (hfast : fast.datum?.bind Datum.double? = some payload.fast)
    (hfastest : fastest.datum?.bind Datum.double? = some payload.fastest) :
    SendsNumbers document payload :=
  ⟨h.isRecord, ⟨_, h.safeLow, hsafeLow⟩, ⟨_, h.fast, hfast⟩, ⟨_, h.fastest, hfastest⟩⟩

/-- Short numbers in ascending order are read as doubles in ascending order. -/
theorem exists_sendsNumbers_of_isShort {document : Written} {safeLow fast fastest : Json.Numeral}
    (h : SendsNumerals document safeLow fast fastest) (hsafeLow : safeLow.IsShort)
    (hfast : fast.IsShort) (hfastest : fastest.IsShort) (hlow : safeLow.toRat ≤ fast.toRat)
    (hhigh : fast.toRat ≤ fastest.toRat) :
    ∃ payload, SendsNumbers document payload ∧ payload.safeLow.toRat ≤ payload.fast.toRat ∧
      payload.fast.toRat ≤ payload.fastest.toRat := by
  obtain ⟨lowNum, lowDen, hlowDen, hlowValue, hlowRead⟩ := hsafeLow.exists_ofRatio
  obtain ⟨midNum, midDen, hmidDen, hmidValue, hmidRead⟩ := hfast.exists_ofRatio
  obtain ⟨highNum, highDen, hhighDen, hhighValue, hhighRead⟩ := hfastest.exists_ofRatio
  rw [hlowValue, hmidValue] at hlow
  rw [hmidValue, hhighValue] at hhigh
  exact ⟨⟨_, _, _⟩, h.sendsNumbers hlowRead hmidRead hhighRead,
    toRat_ofRatio_mono hlowDen hmidDen hlow, toRat_ofRatio_mono hmidDen hhighDen hhigh⟩

end Numbers

/-! ### Texts -/

section Texts

variable {name name' text text' : String} {units units' : ℕ}

/-- The value that a text writes between its blanks. -/
def writtenValue (text : String) : ℚ := signedValue (trim text).toList

/-- Does a separator in the text hide a digit that would round the last place up? -/
def LosesDigit (text : String) : Prop := HidesDigit (trim text).toList

/-- An accepted tier is rounded from what its text is read as. -/
theorem exists_isReadOf_of_tierOfText (h : tierOfText name text = .ok units)
    (hhides : ¬ LosesDigit text) :
    ∃ x, IsReadOf (max (writtenValue text) 0) x ∧ IsNearestEven x.toRat units := by
  unfold tierOfText at h
  split at h
  next => cases h
  next x hread =>
    dsimp only at h
    split at h
    next => cases h
    next haccepted =>
      rw [not_or, Bool.not_eq_true] at haccepted
      obtain rfl := Except.ok.inj h
      refine ⟨x, isReadOf_of_readPlain hread haccepted.1 hhides, ?_⟩
      have hnearest :=
        isNearestEven_halfEven x.coefficient (Nat.pow_pos (n := x.scale) (by decide : 0 < 10))
      rwa [Nat.cast_pow, Nat.cast_ofNat, ← toRat_eq_div haccepted.1] at hnearest

/-- Only separators hide digits. -/
theorem not_losesDigit_of_not_mem (h : '_' ∉ (trim text).toList) : ¬ LosesDigit text := by
  rintro ⟨⟨before, after, hfraction, -⟩, -⟩
  have hmem : '_' ∈ fractionPart (trim text).toList := by
    rw [hfraction]
    simp
  exact h (List.dropWhile_subset _ (List.mem_of_mem_tail hmem))

/-- A text that writes more is no fewer whole units. -/
theorem tierOfText_mono (h : tierOfText name text = .ok units)
    (h' : tierOfText name' text' = .ok units') (hhides : ¬ LosesDigit text)
    (hhides' : ¬ LosesDigit text') (hle : writtenValue text ≤ writtenValue text') :
    units ≤ units' := by
  obtain ⟨x, hread, hnearest⟩ := exists_isReadOf_of_tierOfText h hhides
  obtain ⟨y, hread', hnearest'⟩ := exists_isReadOf_of_tierOfText h' hhides'
  exact hnearest.mono hnearest' (hread.mono hread' (max_le_max_right 0 hle))

end Texts

/-- The tiers of both services are in ascending order, if the doubles that the numbers are read as
    are, or the numbers themselves if they are short, or the values of the texts if no separator in
    them hides a digit that rounds. -/
theorem GasProvider.isOrdered_of_tiers (network : Http.Network) (address : String)
    (apiKey : Option String) (tiers : GasTiers) :
    ((tenths address apiKey).tiers network = .ok tiers →
      (∀ document payload,
        (tenths address apiKey).Receives network document → SendsNumbers document payload →
        payload.safeLow.toRat ≤ payload.fast.toRat → payload.fast.toRat ≤ payload.fastest.toRat →
          tiers.IsOrdered) ∧
      ∀ document safeLow fast fastest, (tenths address apiKey).Receives network document →
        SendsNumerals document safeLow fast fastest → safeLow.IsShort → fast.IsShort →
        fastest.IsShort →
        safeLow.toRat ≤ fast.toRat → fast.toRat ≤ fastest.toRat → tiers.IsOrdered) ∧
    ((status address apiKey).tiers network = .ok tiers →
      ∀ document safe propose fast, (status address apiKey).Receives network document →
        SendsTexts document safe propose fast → ¬ LosesDigit safe → ¬ LosesDigit propose →
        ¬ LosesDigit fast →
        writtenValue safe ≤ writtenValue propose → writtenValue propose ≤ writtenValue fast →
          tiers.IsOrdered) := by
  constructor
  · intro htiers
    have hread (document : Written) (payload : TenthsPayload)
        (hreceives : (tenths address apiKey).Receives network document)
          (hsends : SendsNumbers document payload)
        (hlow : payload.safeLow.toRat ≤ payload.fast.toRat)
        (hhigh : payload.fast.toRat ≤ payload.fastest.toRat) : tiers.IsOrdered := by
      rw [tiers_tenths_of_receives hreceives hsends, TenthsPayload.tiers_eq_ok_iff] at htiers
      obtain ⟨hslow, hmiddle, hfastest⟩ := htiers
      exact ⟨tierOfTenths_mono hslow hmiddle hlow, tierOfTenths_mono hmiddle hfastest hhigh⟩
    refine ⟨hread,
      fun document safeLow fast fastest hreceives hsends hshort hshort' hshort'' hlow hhigh => ?_⟩
    obtain ⟨payload, hnumbers, hlow, hhigh⟩ :=
      exists_sendsNumbers_of_isShort hsends hshort hshort' hshort'' hlow hhigh
    exact hread document payload hreceives hnumbers hlow hhigh
  · intro htiers document safe propose fast hreceives hsends hsafe hpropose hfast hlow hhigh
    obtain ⟨hslow, hmiddle, hfastest⟩ := tiers_status_of_receives hreceives hsends htiers
    exact ⟨tierOfText_mono hslow hmiddle hsafe hpropose hlow,
      tierOfText_mono hmiddle hfastest hpropose hfast hhigh⟩

/-! ### Documents -/

section Documents

/-- A number without a sign and an exponent, as it is written. -/
def plainNumber (whole fraction : String) : Json.Numeral :=
  { negative := false, whole := whole.toList, fraction := fraction.toList, exponent := none }

variable (safeLow fast fastest : Json.Numeral)

/-- The document of a service that sends numbers. -/
def numbersDocument : Written :=
  .ofEntries [("safeLow", .number safeLow), ("fast", .number fast), ("fastest", .number fastest)]

theorem sendsNumerals_numbersDocument :
    SendsNumerals (numbersDocument safeLow fast fastest) safeLow fast fastest where
  isRecord := .table (by simp [tenthsFields])
  safeLow := .named (by simp)
  fast := .named (by simp)
  fastest := .named (by simp)

/-- A service that sends numbers writes them as they are. -/
def numbersText (safeLow fast fastest : String) : String :=
  braced
    ("\x22safeLow\x22:" ++ safeLow ++ ",\x22fast\x22:" ++ fast ++ ",\x22fastest\x22:" ++ fastest)

end Documents

namespace GasProvider

/-- In the texts, the second number becomes a half by rounding, and it goes to the same even number
    as the third one. -/
theorem isOrdered_of_tiers_rounded :
    ((tenths localAddress none).tiers
      (fun _ => .arrived (.plain 200 (numbersText "10" "29.5" "30"))) = .ok ⟨1, 2, 3⟩ ∧
      (⟨1, 2, 3⟩ : GasTiers).IsOrdered) ∧
    (status localAddress none).tiers
        (fun _ => .arrived (.plain 200 (textsText "1.4" "1.49999999999999999999999999999" "2.5"))) =
          .ok ⟨1, 2, 2⟩ ∧
      (⟨1, 2, 2⟩ : GasTiers).IsOrdered := by
  have hnumbers : readDocument (numbersText "10" "29.5" "30") =
      .ok (numbersDocument (plainNumber "10" "") (plainNumber "29" "5") (plainNumber "30" "")) := by
    refine readDocument_of_readValue (toList_braced _) ?_
    simp only [String.toList_append]
    rfl
  have htexts : readDocument (textsText "1.4" "1.49999999999999999999999999999" "2.5") =
      .ok (textsDocument "1.4" "1.49999999999999999999999999999" "2.5") := by
    refine readDocument_of_readValue (toList_braced _) ?_
    simp only [String.toList_append, toList_braced]
    cbv
  have harrived := @receives_of_arrived (tenths localAddress none) _ _ _ rfl hnumbers
  have harrived' := @receives_of_arrived (status localAddress none) _ _ _ rfl htexts
  have hsent :=
    sendsNumerals_numbersDocument (plainNumber "10" "") (plainNumber "29" "5") (plainNumber "30" "")
  have hsent' := sendsTexts_textsDocument "1.4" "1.49999999999999999999999999999" "2.5"
  have htiers : (tenths localAddress none).tiers
        (fun _ => .arrived (.plain 200 (numbersText "10" "29.5" "30"))) =
      .ok ⟨1, 2, 3⟩ :=
    tiers_tenths_eq_ok_iff.2 ⟨_, ⟨10, 29.5, 30⟩, harrived,
      hsent.sendsNumbers (by decide +kernel) (by decide +kernel) (by decide +kernel),
      by decide +kernel, by decide +kernel, by decide +kernel⟩
  have htiers' : (status localAddress none).tiers
      (fun _ => .arrived (.plain 200 (textsText "1.4" "1.49999999999999999999999999999" "2.5"))) =
        .ok ⟨1, 2, 2⟩ :=
    tiers_status_eq_ok_iff.2
      ⟨_, _, _, _, harrived', hsent', by decide +kernel, by decide +kernel, by decide +kernel⟩
  refine ⟨⟨htiers, ((isOrdered_of_tiers _ _ _ _).1 htiers).2 _ _ _ _ harrived hsent ?_ ?_ ?_ ?_ ?_⟩,
    htiers', (isOrdered_of_tiers _ _ _ _).2 htiers' _ _ _ _ harrived' hsent' ?_ ?_ ?_ ?_ ?_⟩
  · exact .whole (by decide +kernel)
  · exact .pointed (by decide +kernel) (by decide)
  · exact .whole (by decide +kernel)
  · decide +kernel
  · decide +kernel
  · exact not_losesDigit_of_not_mem (by decide +kernel)
  · exact not_losesDigit_of_not_mem (by decide +kernel)
  · exact not_losesDigit_of_not_mem (by decide +kernel)
  · decide +kernel
  · decide +kernel

/-- Numbers that are too long. The first two are the same number, written with one digit more the
    second time. -/
def crowdedNumbers : String := numbersText "19.999999999999998" "19.9999999999999980" "20"

/-- Texts of which the first two are the same number, written with a separator the second time. -/
def separatedTexts : String :=
  textsText "1.49999999999999999999999999999" "1.4999999999999999999999999999_9" "1.5"

/-- The tiers of these documents are not in ascending order, although what the services sent is. -/
theorem tiers_not_isOrdered :
    (∃ document safeLow fast fastest,
      (tenths localAddress none).Receives (fun _ => .arrived (.plain 200 crowdedNumbers)) document ∧
        SendsNumerals document safeLow fast fastest ∧ safeLow.toRat ≤ fast.toRat ∧
        fast.toRat ≤ fastest.toRat ∧
        (tenths localAddress none).tiers (fun _ => .arrived (.plain 200 crowdedNumbers)) =
          .ok ⟨2, 1, 2⟩) ∧
    (∃ document safe propose fast,
      (status localAddress none).Receives (fun _ => .arrived (.plain 200 separatedTexts)) document ∧
        SendsTexts document safe propose fast ∧ writtenValue safe ≤ writtenValue propose ∧
        writtenValue propose ≤ writtenValue fast ∧
        (status localAddress none).tiers (fun _ => .arrived (.plain 200 separatedTexts)) =
          .ok ⟨2, 1, 2⟩) ∧
    ¬ (⟨2, 1, 2⟩ : GasTiers).IsOrdered := by
  have hnumbers : readDocument crowdedNumbers =
      .ok (numbersDocument (plainNumber "19" "999999999999998")
        (plainNumber "19" "9999999999999980") (plainNumber "20" "")) := by
    refine readDocument_of_readValue (toList_braced _) ?_
    simp only [String.toList_append]
    rfl
  have htexts : readDocument separatedTexts =
      .ok (textsDocument "1.49999999999999999999999999999" "1.4999999999999999999999999999_9"
        "1.5") := by
    refine readDocument_of_readValue (toList_braced _) ?_
    simp only [String.toList_append, toList_braced]
    cbv
  have harrived := @receives_of_arrived (tenths localAddress none) _ _ _ rfl hnumbers
  have harrived' := @receives_of_arrived (status localAddress none) _ _ _ rfl htexts
  have hsent := sendsNumerals_numbersDocument (plainNumber "19" "999999999999998")
    (plainNumber "19" "9999999999999980")
    (plainNumber "20" "")
  have hsent' :=
    sendsTexts_textsDocument "1.49999999999999999999999999999"
      "1.4999999999999999999999999999_9" "1.5"
  refine ⟨⟨_, _, _, _, harrived, hsent, ?_, ?_,
    tiers_tenths_eq_ok_iff.2 ⟨_, ⟨20, 19.999999999999996, 20⟩, harrived,
      hsent.sendsNumbers ?_ ?_ ?_, ?_, ?_, ?_⟩⟩,
    ⟨_, _, _, _, harrived', hsent', ?_, ?_,
    tiers_status_eq_ok_iff.2 ⟨_, _, _, _, harrived', hsent', ?_, ?_, ?_⟩⟩,
    fun hordered => absurd hordered.slow_le (by decide)⟩ <;> decide +kernel

end GasProvider

end FeeOracle
