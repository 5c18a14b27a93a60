import FeeOracle.Http.Url
import FeeOracle.Proofs.Http.Percent
import FeeOracle.Proofs.Text.Numeral

/-!
# Addresses on a server

The address of a server is a scheme and a host, with or without a port (`IsServer`). Whatever stands
behind it and a slash, the address as a whole leads to that server, and only the path and the query
depend on what stands there (`parse?_of_isServer`).
-/

namespace FeeOracle.Http.Url

open Text

variable {address host : String} {port : Option Nat} {front rest : List Char}

/-- The text is the address of a server and nothing more. -/
def IsServer (address host : String) (port : Option Nat) : Prop :=
  ∃ authority : List Char, address.toList = "http://".toList ++ authority ∧
    (∀ c ∈ authority, 0x20 < c.toNat ∧ endsAuthority c = false ∧ c ≠ '@') ∧
      readHost? .http authority = some (host, port)

/-- The characters without the blanks and controls at their end, and without tabs and line ends. -/
def tidyEnd (cs : List Char) : List Char :=
  (cs.reverse.dropWhile (·.toNat ≤ 0x20)).reverse.filter fun c => c ≠ '\t' ∧ c ≠ '\n' ∧ c ≠ '\r'

/-- What is sent of the characters behind the first slash after a server. -/
def sent (rest : List Char) : List Char := (tidyEnd rest).takeWhile (· ≠ '#')

/-- Only what follows the last plain character can be taken off the end. -/
theorem tidyEnd_cons {c : Char} (hc : 0x20 < c.toNat) :
    tidyEnd (c :: rest) = c :: tidyEnd rest := by
  have hedge : decide (c.toNat ≤ 0x20) = false := decide_eq_false (Nat.not_le_of_lt hc)
  have hkept : decide (c ≠ '\t' ∧ c ≠ '\n' ∧ c ≠ '\r') = true := by
    refine decide_eq_true ⟨?_, ?_, ?_⟩ <;> rintro rfl <;> exact absurd hc (by decide)
  rw [tidyEnd, List.reverse_cons, List.dropWhile_append]
  split
  next hempty =>
    rw [List.dropWhile_cons, hedge, tidyEnd, List.isEmpty_iff.1 hempty]
    simpa using hkept
  next =>
    rw [List.reverse_append, List.reverse_singleton, List.singleton_append, List.filter_cons,
      if_pos hkept, tidyEnd]

theorem tidyEnd_append (hfront : ∀ c ∈ front, 0x20 < c.toNat) :
    tidyEnd (front ++ rest) = front ++ tidyEnd rest := by
  induction front with
  | nil => rfl
  | cons c front ih =>
    rw [List.cons_append, tidyEnd_cons (hfront c List.mem_cons_self),
      ih fun c hc => hfront c (List.mem_cons_of_mem _ hc), List.cons_append]

/-- Nothing is taken off an address that begins with a plain character but at its end. -/
theorem tidy_cons {c : Char} (hc : 0x20 < c.toNat) : tidy (c :: rest) = tidyEnd (c :: rest) := by
  rw [tidy, List.dropWhile_cons_of_neg (by simpa using hc)]
  rfl

/-- A host has at least one character. -/
theorem ne_nil_of_readHost? {scheme : Scheme} {authority : List Char}
    (h : readHost? scheme authority = some (host, port)) : authority ≠ [] := by
  have hnone : readHost? scheme [] = none := by cases scheme <;> decide +kernel
  rintro rfl
  rw [hnone] at h
  cases h

/-- An address on a server leads to that server. -/
theorem parse?_of_isServer (h : IsServer address host port) (rest : List Char) :
    parse? (address ++ String.ofList ('/' :: rest)) = some
      { scheme := .http
        host
        port
        path := String.ofList (pathText ('/' :: (sent rest).takeWhile (· ≠ '?')))
        query := match (sent rest).dropWhile (· ≠ '?') with
          | _ :: query => some (String.ofList (percentEncode isQueryChar query))
          | [] => none } := by
  obtain ⟨authority, haddress, hauthority, hhost⟩ := h
  have htidy : tidy (address ++ String.ofList ('/' :: rest)).toList =
      "http:".toList ++ '/' :: '/' :: (authority ++ '/' :: tidyEnd rest) := by
    have hplain : ∀ c ∈ "http://".toList ++ authority ++ ['/'], 0x20 < c.toNat := by
      simp only [List.mem_append, List.mem_singleton]
      rintro c ((hc | hc) | rfl)
      · have hplain : "http://".toList.all (0x20 < ·.toNat) = true := by decide
        exact of_decide_eq_true (List.all_eq_true.1 hplain c hc)
      · exact (hauthority c hc).1
      · decide
    calc tidy (address ++ String.ofList ('/' :: rest)).toList
        = tidy ("http://".toList ++ authority ++ ['/'] ++ rest) := by
          simp only [String.toList_append, haddress, String.toList_ofList, List.append_assoc,
            List.singleton_append]
      _ = tidyEnd ("http://".toList ++ authority ++ ['/'] ++ rest) := tidy_cons (by decide)
      _ = "http://".toList ++ authority ++ ['/'] ++ tidyEnd rest := tidyEnd_append hplain
      _ = "http:".toList ++ '/' :: '/' :: (authority ++ '/' :: tidyEnd rest) := by simp
  have hscheme : readScheme? (tidy (address ++ String.ofList ('/' :: rest)).toList) =
      some (.http, '/' :: '/' :: (authority ++ '/' :: tidyEnd rest)) := by
    rw [htidy]
    rfl
  have hfirst : (authority ++ '/' :: tidyEnd rest).dropWhile isSlash =
      authority ++ '/' :: tidyEnd rest := by
    obtain ⟨c, authority, rfl⟩ := List.exists_cons_of_ne_nil (ne_nil_of_readHost? hhost)
    have hc := (hauthority c List.mem_cons_self).2.1
    rw [endsAuthority, Bool.or_eq_false_iff, Bool.or_eq_false_iff] at hc
    rw [List.cons_append, List.dropWhile_cons_of_neg (by simp [hc.1.1])]
  have hslashes : ('/' :: '/' :: (authority ++ '/' :: tidyEnd rest)).dropWhile isSlash =
      authority ++ '/' :: tidyEnd rest := hfirst
  have hends (c : Char) (hc : c ∈ authority) : (!endsAuthority c) = true := by
    simp [(hauthority c hc).2.1]
  have hname : (authority ++ '/' :: tidyEnd rest).takeWhile (!endsAuthority ·) = authority := by
    rw [List.takeWhile_append_of_pos hends]
    simp [endsAuthority, isSlash]
  have hpath : (authority ++ '/' :: tidyEnd rest).dropWhile (!endsAuthority ·) =
      '/' :: tidyEnd rest := by
    rw [List.dropWhile_append_of_pos hends]
    simp [endsAuthority, isSlash]
  rw [parse?, hscheme]
  simp only [Option.bind_eq_bind, Option.bind_some, hslashes, hname, hpath, hhost]
  rfl

/-! ### Hosts that are written as names -/

/-- What may stand in a name does not end it. -/
theorem endsAuthority_of_isHostChar {c : Char} (h : Host.isHostChar c = true) :
    0x20 < c.toNat ∧ endsAuthority c = false ∧ c ≠ '@' ∧ c ≠ ':' ∧ c ≠ '[' ∧ c ≠ '%' := by
  simp only [Host.isHostChar, Bool.and_eq_true, decide_eq_true_eq, Bool.not_eq_true',
    List.contains_eq_mem, decide_eq_false_iff_not, List.mem_cons, not_or] at h
  simp only [endsAuthority, isSlash, Bool.or_eq_false_iff, beq_eq_false_iff_ne]
  tauto

/-- How a port is written behind a host. -/
def portText (port : Option Nat) : List Char := (port.map fun n => ':' :: Nat.toDigits 10 n).getD []

theorem ne_of_mem_portText {c : Char} (h : c ∈ portText port) :
    0x20 < c.toNat ∧ endsAuthority c = false ∧ c ≠ '@' := by
  cases port with
  | none => cases h
  | some n =>
    rcases List.mem_cons.1 h with rfl | h
    · decide
    · have hdigit :=
        Char.isDigit_iff_toNat.1 (Nat.isDigit_of_mem_toDigits (by decide) (by decide) h)
      have hplain : 0x20 < c.toNat := Nat.lt_of_lt_of_le (by decide) hdigit.1
      refine ⟨hplain, ?_, ?_⟩
      · simp only [endsAuthority, isSlash, Bool.or_eq_false_iff, beq_eq_false_iff_ne]
        refine ⟨⟨⟨?_, ?_⟩, ?_⟩, ?_⟩ <;> rintro rfl <;> exact absurd hdigit (by decide)
      · rintro rfl
        exact absurd hdigit (by decide)

/-- Only a name of characters that may stand in one is a host. -/
theorem isHostChar_of_ofName? {name found : List Char} (h : Host.ofName? name = some found) :
    name ≠ [] ∧ ∀ c ∈ name, Host.isHostChar c = true := by
  rw [Host.ofName?, Option.ite_none_left_eq_some, not_or] at h
  exact ⟨h.1.1, List.all_eq_true.1 (by simpa using h.1.2)⟩

/-- What a name is as a host, it is alone or with a port. -/
theorem readHost?_of_name {name found : List Char} (hfound : Host.ofName? name = some found)
    (hport : ∀ n ∈ port, n < 2 ^ (16 : Nat)) :
    readHost? .http (name ++ portText port) = some (String.ofList found, port.filter (· ≠ 80)) := by
  obtain ⟨hne, hname⟩ := isHostChar_of_ofName? hfound
  have hplain {c : Char} (hc : c ∈ name) := endsAuthority_of_isHostChar (hname c hc)
  have hat : ((name ++ portText port).reverse.takeWhile (· ≠ '@')).reverse =
      name ++ portText port := by
    rw [List.takeWhile_eq_self_iff.2, List.reverse_reverse]
    simp only [List.mem_reverse, List.mem_append]
    rintro c (hc | hc)
    · exact decide_eq_true (hplain hc).2.2.1
    · exact decide_eq_true (ne_of_mem_portText hc).2.2
  have hcolon : (name ++ portText port).takeWhile (· ≠ ':') = name := by
    rw [List.takeWhile_append_of_pos fun c hc => decide_eq_true (hplain hc).2.2.2.1]
    cases port <;> simp [portText]
  have hrest : (name ++ portText port).dropWhile (· ≠ ':') = portText port := by
    rw [List.dropWhile_append_of_pos fun c hc => decide_eq_true (hplain hc).2.2.2.1]
    cases port <;> simp [portText]
  have hdecoded : decodeUtf8? (percentDecode name) = some (String.ofList name) := by
    have hnone : ¬ HasEscape name := fun hescape => (hplain hescape.percent_mem).2.2.2.2.2 rfl
    rw [percentDecode_eq_utf8Bytes_iff.2 hnone, ← String.toList_ofList (l := name), ← encodeUtf8_eq,
      decodeUtf8?_encodeUtf8, String.toList_ofList]
  obtain ⟨c, cs, rfl⟩ := List.exists_cons_of_ne_nil hne
  have hbracket := (hplain List.mem_cons_self).2.2.2.2.1
  rw [readHost?]
  simp only [hat, hcolon, hrest, hdecoded, Option.bind_eq_bind, Option.bind_some,
    String.toList_ofList]
  have hall {n : Nat} : (Nat.toDigits 10 n).all Char.isDigit = true :=
    List.all_eq_true.2 fun _ => Nat.isDigit_of_mem_toDigits (by decide) (by decide)
  split
  next inside hinside => exact absurd (List.cons.inj hinside).1 hbracket
  next =>
    rw [hfound, Option.bind_some]
    cases port with
    | none => rfl
    | some n =>
      have hn : n < 2 ^ (16 : Nat) := hport n rfl
      simp only [portText, Option.map_some, Option.getD_some, Nat.toDigits_ne_nil, if_false, hall,
        digitsValue_toDigits, hn, and_self, if_true, Scheme.defaultPort,
        Option.filter_some, decide_not]
      by_cases hdefault : n = 80 <;> simp [hdefault]

theorem isServer_of_name {name found : List Char} (port : Option Nat)
    (hfound : Host.ofName? name = some found) (hport : ∀ n ∈ port, n < 2 ^ (16 : Nat)) :
    IsServer ("http://" ++ String.ofList (name ++ portText port)) (String.ofList found)
      (port.filter (· ≠ 80)) := by
  refine ⟨name ++ portText port, by simp, ?_, readHost?_of_name hfound hport⟩
  intro c hc
  rcases List.mem_append.1 hc with hc | hc
  · obtain ⟨hplain, hends, hat, -⟩ :=
      endsAuthority_of_isHostChar ((isHostChar_of_ofName? hfound).2 c hc)
    exact ⟨hplain, hends, hat⟩
  · exact ne_of_mem_portText hc

/-- A server on the machine itself. -/
theorem isServer_local : IsServer "http://127.0.0.1:8080" "127.0.0.1" (some 8080) :=
  isServer_of_name (some 8080)
    (by decide +kernel : Host.ofName? "127.0.0.1".toList = some "127.0.0.1".toList)
    (by decide)

end FeeOracle.Http.Url
