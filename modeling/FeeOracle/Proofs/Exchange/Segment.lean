import FeeOracle.Proofs.Exchange.Query
import FeeOracle.Proofs.Http.Path

/-!
# Symbols in paths

Three exchanges are asked at an address that has the symbol in its path, and there the symbol stands
unescaped. No pair can direct such a request to another server, but only a symbol that is a plain
segment is asked for as it stands (`Adapter.asksInPath_iff_of_isServer`): slashes, question marks,
number signs, steps, escapes and line ends change the path, the query or the symbol.
-/

namespace FeeOracle

open Http Http.Url Text

variable {address host : String} {port : Option Nat} {front back : List (List Char)}
  {segment symbol kept rest : List Char}

/-- The address asks for the symbol in one segment of its path, between what always stands there,
    and has no query. -/
def Http.Url.AsksInPath (url : Url) (before symbol after : String) : Prop :=
  url.query = none ∧ ∃ segment : List Char, '/' ∉ segment ∧
    url.path.toList = before.toList ++ segment ++ after.toList ∧
    percentDecode segment = encodeUtf8 symbol

/-- The symbol means itself where it stands in a path, with the rest of the path after it. -/
structure IsPlainSegment (symbol after : String) : Prop where
  chars : ∀ c ∈ symbol.toList, c ∉ ['/', '\\', '?', '#', '\t', '\n', '\r']
  step : symbol ≠ "." ∧ symbol ≠ ".."
  escape : ¬ HasEscape symbol.toList
  edge : ∀ c ∈ (symbol ++ after).toList.getLast?, 0x20 < c.toNat

/-! ### Segments that always stand in a path -/

/-- The segment is sent as it is, and is decoded to itself. -/
def IsFixed (segment : List Char) : Prop :=
  isStep segment = false ∧
  segment.all (fun c => isPathChar c && !(['/', '\\', '%'].contains c)) = true

instance : DecidablePred IsFixed := fun _ => instDecidableAnd

/-- What stands around a symbol is sent as it is. -/
structure IsFrame (front back : List (List Char)) : Prop where
  front : ∀ segment ∈ front, IsFixed segment
  back : ∀ segment ∈ back, IsFixed segment

namespace IsFixed

theorem of_mem {c : Char} (h : IsFixed segment) (hc : c ∈ segment) :
    isPathChar c = true ∧ c ≠ '/' ∧ c ≠ '\\' ∧ c ≠ '%' := by
  have hkept := List.all_eq_true.1 h.2 c hc
  simp only [Bool.and_eq_true, Bool.not_eq_true', List.contains_eq_mem, decide_eq_false_iff_not,
    List.mem_cons, List.not_mem_nil, or_false, not_or] at hkept
  exact hkept

theorem slashed_eq (h : IsFixed segment) : slashed segment = segment :=
  slashed_eq_self fun hmem => (h.of_mem hmem).2.2.1 rfl

theorem percentEncode_eq (h : IsFixed segment) : percentEncode isPathChar segment = segment := by
  have hkept : ∀ c ∈ segment, isPathChar c = true := fun c hc => (h.of_mem hc).1
  clear h
  induction segment with
  | nil => rfl
  | cons c segment ih =>
    rw [List.forall_mem_cons] at hkept
    rw [percentEncode_cons, if_pos hkept.1, ih hkept.2, List.singleton_append]

theorem percentDecode_eq (h : IsFixed segment) : percentDecode segment = utf8Bytes segment :=
  percentDecode_eq_utf8Bytes_iff.2 fun hescape => (h.of_mem hescape.percent_mem).2.2.2 rfl

end IsFixed

namespace IsFrame

variable (h : IsFrame front back)
include h

/-- What is done to the segments of a path is done to the symbol alone. -/
theorem map_eq {f : List Char → List Char}
    (hfixed : ∀ segment, IsFixed segment → f segment = segment) (symbol : List Char) :
    (front ++ symbol :: back).map f = front ++ f symbol :: back := by
  have hall {segments : List (List Char)} (h : ∀ segment ∈ segments, IsFixed segment) :
      segments.map f = segments :=
    (List.map_congr_left fun segment hsegment => hfixed segment (h segment hsegment)).trans
      (List.map_id _)
  rw [List.map_append, List.map_cons, hall h.front, hall h.back]

/-- Without steps, a path is sent as it was written but for the symbol. -/
theorem percentEncode_slashed (symbol : List Char) :
    percentEncode isPathChar (slashed ((front ++ symbol :: back).flatMap ('/' :: ·))) =
      (front ++ percentEncode isPathChar (slashed symbol) :: back).flatMap ('/' :: ·) := by
  rw [slashed_flatMap, h.map_eq fun _ => IsFixed.slashed_eq, ← flatMap_map_percentEncode,
    h.map_eq fun _ => IsFixed.percentEncode_eq]

/-- What a path decodes to that asks for the symbol. -/
theorem percentDecode_eq (hsegment : percentDecode segment = utf8Bytes symbol) :
    percentDecode ((front ++ segment :: back).flatMap ('/' :: ·)) =
      utf8Bytes ((front ++ symbol :: back).flatMap ('/' :: ·)) := by
  have hbytes (segments : List (List Char)) : utf8Bytes (segments.flatMap ('/' :: ·)) =
      segments.flatMap fun segment => String.utf8EncodeChar '/' ++ utf8Bytes segment := by
    rw [utf8Bytes, List.flatMap_assoc]
    rfl
  have hfixed {segments : List (List Char)} (h : ∀ segment ∈ segments, IsFixed segment) :
      (segments.flatMap fun segment => String.utf8EncodeChar '/' ++ percentDecode segment) =
        segments.flatMap fun segment => String.utf8EncodeChar '/' ++ utf8Bytes segment :=
    List.flatMap_congr fun segment hmem => by rw [(h segment hmem).percentDecode_eq]
  rw [percentDecode_flatMap_slash, hbytes, List.flatMap_append, List.flatMap_append,
    List.flatMap_cons, List.flatMap_cons, hfixed h.front, hfixed h.back, hsegment]

/-- What a path is made of. -/
theorem mem_of_mem_flatMap {c : Char} (hmem : c ∈ (front ++ symbol :: back).flatMap ('/' :: ·)) :
    isPathChar c = true ∨ c ∈ symbol := by
  obtain ⟨segment, hsegment, hc⟩ := List.mem_flatMap.1 hmem
  rcases List.mem_cons.1 hc with rfl | hc
  · exact .inl (by decide +kernel)
  · simp only [List.mem_append, List.mem_cons] at hsegment
    rcases hsegment with hsegment | rfl | hsegment
    · exact .inl ((h.front segment hsegment).of_mem hc).1
    · exact .inr hc
    · exact .inl ((h.back segment hsegment).of_mem hc).1

variable (hrest : (front ++ symbol :: back).flatMap ('/' :: ·) = '/' :: rest)
include hrest

/-- A symbol without slashes is a segment. -/
theorem splitOn_slashed (hslash : '/' ∉ symbol) (hbackslash : '\\' ∉ symbol) :
    (slashed rest).splitOn '/' = front ++ symbol :: back := by
  have hslashed : slashed ('/' :: rest) = '/' :: rest := by
    rw [← hrest, slashed_flatMap, h.map_eq fun _ => IsFixed.slashed_eq, slashed_eq_self hbackslash]
  have hsame : slashed rest = rest := (List.cons.inj hslashed).2
  rw [flatMap_cons_slash (by simp)] at hrest
  rw [hsame, ← (List.cons.inj hrest).2]
  refine List.splitOn_intercalate '/' ?_ (by simp)
  simp only [List.mem_append, List.mem_cons]
  rintro segment (hmem | rfl | hmem)
  · exact fun hslash => ((h.front segment hmem).of_mem hslash).2.1 rfl
  · exact hslash
  · exact fun hslash => ((h.back segment hmem).of_mem hslash).2.1 rfl

/-- A symbol without slashes that is no step is sent as one segment. -/
theorem pathText_eq (hslash : '/' ∉ symbol) (hbackslash : '\\' ∉ symbol)
    (hstep : isStep symbol = false) :
    pathText ('/' :: rest) =
      (front ++ percentEncode isPathChar symbol :: back).flatMap ('/' :: ·) := by
  have hsteps : ∀ segment ∈ (slashed rest).splitOn '/', isStep segment = false := by
    rw [h.splitOn_slashed hrest hslash hbackslash]
    simp only [List.mem_append, List.mem_cons]
    rintro segment (hmem | rfl | hmem)
    · exact (h.front segment hmem).1
    · exact hstep
    · exact (h.back segment hmem).1
  have hslashed : '/' :: slashed rest = slashed ('/' :: rest) := rfl
  rw [pathText_of_no_steps hsteps, hslashed, ← hrest, h.percentEncode_slashed,
    slashed_eq_self hbackslash]

/-- Where a path decodes to what was written, nothing was lost of it on the way, and its symbol is
    plain. -/
theorem plain_of_asked (hkept : kept.Sublist rest) (hslash : '/' ∉ segment)
    (hpath : pathText ('/' :: kept) = (front ++ segment :: back).flatMap ('/' :: ·))
    (hsegment : percentDecode segment = utf8Bytes symbol) :
    kept = rest ∧ '/' ∉ symbol ∧ '\\' ∉ symbol ∧ isStep symbol = false ∧ ¬ HasEscape symbol := by
  have hdecoded : percentDecode (pathText ('/' :: kept)) = utf8Bytes ('/' :: rest) := by
    rw [hpath, h.percentDecode_eq hsegment, hrest]
  -- As many bytes are decoded as were written, so neither characters nor segments were lost.
  have hlength := length_percentDecode_pathText kept
  have hlost := length_utf8Bytes_of_sublist (hkept.cons_cons '/')
  rw [hdecoded] at hlength
  have hsame : kept = rest := (List.cons.inj (hlost.2 (Nat.le_antisymm hlost.1 hlength.1))).2
  rw [hsame] at hlength hpath
  have hsteps : ∀ segment ∈ (slashed rest).splitOn '/', isStep segment = false := by
    intro segment hmem
    by_contra hstep
    exact absurd (hlength.2 ⟨segment, hmem, by simpa using hstep⟩) (Nat.lt_irrefl _)
  have hencoded : percentEncode isPathChar (slashed symbol) = segment := by
    have hslashed : '/' :: slashed rest = slashed ('/' :: rest) := rfl
    rw [pathText_of_no_steps hsteps, hslashed, ← hrest, h.percentEncode_slashed] at hpath
    simpa using hpath
  have hplain : '/' ∉ slashed symbol :=
    fun hmem => hslash (hencoded ▸ slash_mem_percentEncode_iff.2 hmem)
  have hforward : '/' ∉ symbol := fun hmem => hplain (List.mem_map.2 ⟨'/', hmem, rfl⟩)
  have hbackward : '\\' ∉ symbol := fun hmem => hplain (List.mem_map.2 ⟨'\\', hmem, rfl⟩)
  rw [slashed_eq_self hbackward] at hencoded
  refine ⟨hsame, hforward, hbackward, hsteps symbol ?_, ?_⟩
  · rw [h.splitOn_slashed hrest hforward hbackward]
    exact List.mem_append_right _ List.mem_cons_self
  · rw [← percentDecode_eq_utf8Bytes_iff, ← percentDecode_percentEncode_isPathChar,
      hencoded, hsegment]

end IsFrame

/-! ### Plain segments -/

namespace IsPlainSegment

variable {symbol after : String}

theorem isStep_eq_false (h : IsPlainSegment symbol after) : isStep symbol.toList = false := by
  by_contra hstep
  have hone : symbol.toList ≠ ".".toList := mt String.toList_inj.1 h.step.1
  have htwo : symbol.toList ≠ "..".toList := mt String.toList_inj.1 h.step.2
  exact h.escape (hasEscape_of_isStep (by simpa using hstep) hone htwo)

/-- Nothing of an address with a plain symbol is taken for something else than its path. -/
theorem kept_of_mem (h : IsPlainSegment symbol after) (hframe : IsFrame front back)
    (hrest : (front ++ symbol.toList :: back).flatMap ('/' :: ·) = '/' :: rest) :
    ∀ c ∈ rest, c ≠ '?' ∧ c ≠ '#' ∧ c ≠ '\t' ∧ c ≠ '\n' ∧ c ≠ '\r' := by
  intro c hc
  have hkept : c ∉ ['?', '#', '\t', '\n', '\r'] := by
    intro hbad
    rcases hframe.mem_of_mem_flatMap (hrest ▸ List.mem_cons_of_mem '/' hc) with hplain | hsymbol
    · simp only [List.mem_cons, List.not_mem_nil, or_false] at hbad
      rcases hbad with rfl | rfl | rfl | rfl | rfl <;> exact absurd hplain (by decide +kernel)
    · exact h.chars c hsymbol (List.mem_cons_of_mem _ (List.mem_cons_of_mem _ hbad))
  simpa using hkept

/-- A symbol is plain if no character of its address is lost, and neither are slashes, steps nor
    escapes in it. -/
theorem of_kept (hrest : (front ++ symbol.toList :: back).flatMap ('/' :: ·) = '/' :: rest)
    (hkept : ∀ c ∈ rest, c ≠ '?' ∧ c ≠ '#' ∧ c ≠ '\t' ∧ c ≠ '\n' ∧ c ≠ '\r')
    (hslash : '/' ∉ symbol.toList) (hbackslash : '\\' ∉ symbol.toList)
    (hstep : isStep symbol.toList = false) (hescape : ¬ HasEscape symbol.toList)
    (hedge : ∀ c ∈ (symbol ++ after).toList.getLast?, 0x20 < c.toNat) :
    IsPlainSegment symbol after := by
  refine ⟨fun c hc => ?_, ?_, hescape, hedge⟩
  · have hne : c ≠ '/' ∧ c ≠ '\\' :=
      ⟨fun heq => hslash (heq ▸ hc), fun heq => hbackslash (heq ▸ hc)⟩
    have hmem : c ∈ '/' :: rest := by
      rw [← hrest]
      exact List.mem_flatMap.2 ⟨symbol.toList, by simp, List.mem_cons_of_mem _ hc⟩
    simpa using ⟨hne.1, hne.2, hkept c ((List.mem_cons.1 hmem).resolve_left hne.1)⟩
  · constructor <;> rintro rfl <;> exact absurd hstep (by decide +kernel)

end IsPlainSegment

/-- A slash is no blank, so it can stand in front of a text that does not end with one. -/
theorem getLast?_cons_slash {cs : List Char} :
    (∀ c ∈ ('/' :: cs).getLast?, 0x20 < c.toNat) ↔ ∀ c ∈ cs.getLast?, 0x20 < c.toNat := by
  cases cs with
  | nil => simp
  | cons c cs => rw [List.getLast?_cons_cons]

/-- An address with a symbol in its path leads to its server. It asks for the symbol if and only if
    that is plain. -/
theorem exists_parse?_and_asksInPath_iff (symbol : String) (h : IsServer address host port)
    (hframe : IsFrame front back) {before after : String}
    (hbefore : before.toList = front.flatMap ('/' :: ·) ++ ['/'])
    (hafter : after.toList = back.flatMap ('/' :: ·)) :
    ∃ url, parse? (address ++ (before ++ symbol ++ after)) = some url ∧ url.scheme = .http ∧
      url.host = host ∧
      url.port = port ∧
      ((url.withPairs []).AsksInPath before symbol after ↔ IsPlainSegment symbol after) := by
  have hwritten (segment : List Char) : before.toList ++ segment ++ after.toList =
      (front ++ segment :: back).flatMap ('/' :: ·) := by simp [hbefore, hafter]
  obtain ⟨rest, hrest⟩ :
      ∃ rest, (front ++ symbol.toList :: back).flatMap ('/' :: ·) = '/' :: rest :=
    ⟨_, flatMap_cons_slash (by simp)⟩
  have htext : before ++ symbol ++ after = String.ofList ('/' :: rest) := by
    rw [← hrest, ← hwritten, ← String.toList_append, ← String.toList_append, String.ofList_toList]
  have hedge : (∀ c ∈ rest.getLast?, 0x20 < c.toNat) ↔
      ∀ c ∈ (symbol ++ after).toList.getLast?, 0x20 < c.toNat := by
    have hlast : ('/' :: rest).getLast? = ('/' :: (symbol ++ after).toList).getLast? := by
      rw [← hrest, ← hwritten, hbefore, String.toList_append, List.append_assoc, List.append_assoc,
        List.getLast?_append_of_ne_nil _ (by simp)]
      rfl
    rw [← getLast?_cons_slash, hlast, getLast?_cons_slash]
  rw [htext]
  refine ⟨_, parse?_of_isServer h rest, rfl, rfl, rfl, ?_⟩
  constructor
  · rintro ⟨-, segment, hslash, hpath, hsegment⟩
    replace hpath : pathText ('/' :: (sent rest).takeWhile (· ≠ '?')) =
        (front ++ segment :: back).flatMap ('/' :: ·) := by
      rw [← hwritten, ← hpath]
      exact String.toList_ofList.symm
    rw [encodeUtf8_eq] at hsegment
    obtain ⟨hkept, hforward, hbackward, hstep, hescape⟩ := hframe.plain_of_asked hrest
      ((List.takeWhile_sublist _).trans (sent_sublist rest)) hslash hpath hsegment
    have hsent : sent rest = rest := by
      refine (sent_sublist rest).eq_of_length_le ?_
      calc rest.length = ((sent rest).takeWhile (· ≠ '?')).length := by rw [hkept]
        _ ≤ (sent rest).length := (List.takeWhile_sublist _).length_le
    rw [hsent, List.takeWhile_eq_self_iff] at hkept
    obtain ⟨hchars, hlast⟩ := sent_eq_self_iff.1 hsent
    exact .of_kept hrest (fun c hc => ⟨of_decide_eq_true (hkept c hc), hchars c hc⟩)
      hforward hbackward hstep hescape
      (hedge.1 hlast)
  · intro hplain
    have hchars := hplain.kept_of_mem hframe hrest
    have hkept : sent rest = rest :=
      sent_eq_self_iff.2 ⟨fun c hc => (hchars c hc).2, hedge.2 hplain.edge⟩
    have hquery : ∀ c ∈ rest, decide (c ≠ '?') = true := fun c hc => decide_eq_true (hchars c hc).1
    have hslash : '/' ∉ symbol.toList := fun hmem => hplain.chars _ hmem (by simp)
    have hbackslash : '\\' ∉ symbol.toList := fun hmem => hplain.chars _ hmem (by simp)
    simp only [hkept, List.dropWhile_eq_nil_iff.2 hquery, List.takeWhile_eq_self_iff.2 hquery]
    refine ⟨rfl, percentEncode isPathChar symbol.toList,
      mt slash_mem_percentEncode_iff.1 hslash, ?_, ?_⟩
    · rw [withPairs, String.toList_ofList,
        hframe.pathText_eq hrest hslash hbackslash hplain.isStep_eq_false, hwritten]
    · rw [percentDecode_percentEncode_isPathChar, percentDecode_eq_utf8Bytes_iff.2 hplain.escape,
        encodeUtf8_eq]

/-- The request of an exchange that is asked by a path. -/
theorem Exchange.exists_request?_and_asksInPath_iff (h : IsServer address host port)
    (hframe : IsFrame front back)
    {exchange : Exchange} {base quote before after : String} (hname : exchange.queryName? = none)
    (hpath : exchange.path (exchange.symbol base quote) =
      before ++ exchange.symbol base quote ++ after)
    (hbefore : before.toList = front.flatMap ('/' :: ·) ++ ['/'])
    (hafter : after.toList = back.flatMap ('/' :: ·))
    (slashes : Nat) (apiKey : Option String) :
    ∃ url,
      exchange.request? (address ++ String.ofList (List.replicate slashes '/')) apiKey base quote =
        some { url, apiKey } ∧
      url.scheme = .http ∧ url.host = host ∧ url.port = port ∧
      (url.AsksInPath before (exchange.symbol base quote) after ↔
        IsPlainSegment (exchange.symbol base quote) after) := by
  obtain ⟨url, hurl, hscheme, hhost, hport, hasks⟩ :=
    exists_parse?_and_asksInPath_iff (exchange.symbol base quote) h hframe hbefore hafter
  refine ⟨url.withPairs [], ?_, hscheme, hhost, hport, hasks⟩
  simp [request?, trimBaseUrl_of_isServer h, hname, hpath, Http.request?, hurl]

/-- Over any server, with any number of slashes after it, the three exchanges that are asked by a
    path ask that server for any pair, and each asks for the symbol of the pair if and only if that
    is a plain segment of the path. -/
theorem Adapter.asksInPath_iff_of_isServer (h : IsServer address host port) (slashes : Nat)
    (apiKey : Option String)
    (base quote : String) {exchange : Exchange} {before after : String}
    (hexchange : (exchange, before, after) ∈
      [(.bitfinex, "/v2/ticker/", ""), (.coinbase, "/v2/prices/", "/spot"),
      (.gemini, "/v1/pubticker/", "")]) :
    ∃ url,
      request?
          { exchange, address := address ++ String.ofList (List.replicate slashes '/'), apiKey }
          base quote = some { url, apiKey } ∧
      url.scheme = .http ∧ url.host = host ∧ url.port = port ∧
      (url.AsksInPath before (exchange.symbol base quote) after ↔
        IsPlainSegment (exchange.symbol base quote) after) := by
  have hbitfinex : IsFrame ["v2".toList, "ticker".toList] [] := ⟨by decide +kernel, by decide⟩
  have hcoinbase : IsFrame ["v2".toList, "prices".toList] ["spot".toList] :=
    ⟨by decide +kernel, by decide +kernel⟩
  have hgemini : IsFrame ["v1".toList, "pubticker".toList] [] := ⟨by decide +kernel, by decide⟩
  simp only [List.mem_cons, Prod.mk.injEq, List.not_mem_nil, or_false] at hexchange
  rcases hexchange with ⟨rfl, rfl, rfl⟩ | ⟨rfl, rfl, rfl⟩ | ⟨rfl, rfl, rfl⟩
  · exact Exchange.exists_request?_and_asksInPath_iff h hbitfinex rfl String.append_empty.symm rfl
      rfl slashes apiKey
  · exact Exchange.exists_request?_and_asksInPath_iff h hcoinbase rfl rfl rfl rfl slashes apiKey
  · exact Exchange.exists_request?_and_asksInPath_iff h hgemini rfl String.append_empty.symm rfl rfl
      slashes apiKey

/-- A pair of plain letters is asked for as it stands. -/
theorem Adapter.asksInPath_iff_of_isServer_letters :
    IsServer "http://127.0.0.1:8080" "127.0.0.1" (some 8080) ∧
    ∃ url,
      request?
        { exchange := .gemini, address := "http://127.0.0.1:8080/", apiKey := none } "BTC" "USD" =
        some { url, apiKey := none } ∧
      url.AsksInPath "/v1/pubticker/" "btcusd" "" := by
  have hsymbol : Exchange.symbol .gemini "BTC" "USD" = "btcusd" := by decide +kernel
  have hplain : IsPlainSegment "btcusd" "" := by
    refine ⟨fun c hc hbad => ?_, by decide,
      fun hescape => absurd hescape.percent_mem (by decide), ?_⟩
    · have hletters : "btcusd".toList.all Char.isAlpha = true := by decide
      have hletter := List.all_eq_true.1 hletters c hc
      simp only [List.mem_cons, List.not_mem_nil, or_false] at hbad
      rcases hbad with rfl | rfl | rfl | rfl | rfl | rfl | rfl <;> exact absurd hletter (by decide)
    · rintro c ⟨⟩
      decide
  have hgemini : (Exchange.gemini, "/v1/pubticker/", "") ∈ [(Exchange.bitfinex, "/v2/ticker/", ""),
      (.coinbase, "/v2/prices/", "/spot"), (.gemini, "/v1/pubticker/", "")] := by decide
  obtain ⟨url, hrequest, -, -, -, hasks⟩ :=
    asksInPath_iff_of_isServer isServer_local 1 none "BTC" "USD" hgemini
  rw [hsymbol] at hasks
  exact ⟨isServer_local, url, hrequest, hasks.2 hplain⟩

/-- A question mark in a ticker ends the path: instead of `a?busd`, the symbol `a` is asked for. -/
theorem Adapter.asksInPath_fails_on_question_mark :
    IsServer "http://127.0.0.1:8080" "127.0.0.1" (some 8080) ∧
    TickerPair.of "A?B" "USD" = .ok { base := "A?B", quote := "USD" } ∧
    ∃ url,
      request?
        { exchange := .gemini, address := "http://127.0.0.1:8080", apiKey := none } "A?B" "USD" =
        some { url, apiKey := none } ∧
      url.target = "/v1/pubticker/a?busd" ∧
      ¬ url.AsksInPath "/v1/pubticker/" (Exchange.symbol .gemini "A?B" "USD") "" := by
  have hrequest :
      request?
        { exchange := .gemini, address := "http://127.0.0.1:8080", apiKey := none } "A?B" "USD" =
      some
        { url :=
            { scheme := .http
              host := "127.0.0.1"
              port := some 8080
              path := "/v1/pubticker/a"
              query := some "busd" }
          apiKey := none } := by decide +kernel
  exact ⟨isServer_local, by decide +kernel, _, hrequest, by decide, fun hasks => nomatch hasks.1⟩

end FeeOracle
