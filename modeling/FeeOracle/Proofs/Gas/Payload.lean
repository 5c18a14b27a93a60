import FeeOracle.Gas.Provider
import FeeOracle.Proofs.Exchange.Failures
import FeeOracle.Proofs.Http.Url
import FeeOracle.Proofs.Json.Record
import FeeOracle.Proofs.Ticker
import Mathlib.Data.List.Nodup

/-!
# The documents of gas price services

A service is believed only if a reply with the status of success arrives whose document has the form
that it sends. One form has three numbers (`SendsNumbers`), the other a status of its own and three
texts (`SendsTexts`). The tiers are what these numbers or texts stand for, each under its own name,
and there are none if one of them stands for nothing (`tiers_tenths_eq_ok_iff`,
`tiers_status_eq_ok_iff`).
-/

namespace FeeOracle

open Json

/-- A document is fetched if and only if a reply with the status of success arrives and its document
    has the form. -/
theorem Http.fetch_eq_ok_iff {α : Type} {network : Network} {request : Option Request}
    {ofWritten? : Nat → Written → Option α} {value : α} :
    fetch network request ofWritten? = .ok value ↔
      ∃ sent reply document, request = some sent ∧ network sent = .arrived reply ∧
        (200 ≤ reply.status ∧ reply.status < 300) ∧ readDocument reply.text = .ok document ∧
        ofWritten? reply.draw document = some value := by
  have hreply (reply : Reply) : reply.decode ofWritten? = .ok value ↔
      (200 ≤ reply.status ∧ reply.status < 300) ∧
        ∃ document,
          readDocument reply.text = .ok document ∧ ofWritten? reply.draw document = some value := by
    rw [← decode_eq_ok_iff, Reply.decode]
    have hsuccess : reply.isSuccess = true ↔ 200 ≤ reply.status ∧ reply.status < 300 := by
      simp [Reply.isSuccess]
    rw [← hsuccess]
    split
    next h => cases decode (ofWritten? reply.draw) reply.text <;> simp [h]
    next h => simp [h]
  cases request with
  | none => simp [fetch]
  | some sent => cases hdelivery : network sent <;> simp [fetch, hdelivery, Delivery.decode, hreply]

/-! ### Numbers -/

/-- The names under which the tiers are sent as numbers. -/
def tenthsFields : List String := ["safeLow", "fast", "fastest"]

/-- The document is a record with three numbers that are read as these doubles. -/
structure SendsNumbers (document : Written) (payload : TenthsPayload) : Prop where
  isRecord : document.IsRecord tenthsFields
  safeLow :
    ∃ value, document.HasField tenthsFields "safeLow" value ∧ value.double? = some payload.safeLow
  fast : ∃ value, document.HasField tenthsFields "fast" value ∧ value.double? = some payload.fast
  fastest :
    ∃ value, document.HasField tenthsFields "fastest" value ∧ value.double? = some payload.fastest

theorem TenthsPayload.ofWritten?_eq_some_iff {document : Written} {payload : TenthsPayload} :
    ofWritten? document = some payload ↔ SendsNumbers document payload := by
  have hnames : tenthsFields.Nodup := by decide
  simp only [ofWritten?, Option.bind_eq_bind, Option.bind_eq_some_iff]
  constructor
  · rintro ⟨fields, hfields, safeLow, hsafeLow, fast, hfast, fastest, hfastest, ⟨⟩⟩
    exact ⟨Written.isSome_fields?_iff.1 (Option.isSome_iff_exists.2 ⟨fields, hfields⟩),
      (Written.field?_eq_some_iff hfields hnames (by decide)).1 hsafeLow,
      (Written.field?_eq_some_iff hfields hnames (by decide)).1 hfast,
      (Written.field?_eq_some_iff hfields hnames (by decide)).1 hfastest⟩
  · rintro ⟨hrecord, hsafeLow, hfast, hfastest⟩
    obtain ⟨fields, hfields⟩ := Option.isSome_iff_exists.1 (Written.isSome_fields?_iff.2 hrecord)
    exact ⟨fields, hfields, _,
      (Written.field?_eq_some_iff hfields hnames (by decide)).2 hsafeLow, _,
      (Written.field?_eq_some_iff hfields hnames (by decide)).2 hfast, _,
      (Written.field?_eq_some_iff hfields hnames (by decide)).2 hfastest, rfl⟩

theorem TenthsPayload.tiers_eq_ok_iff {payload : TenthsPayload} {tiers : GasTiers} :
    payload.tiers = .ok tiers ↔
      tierOfTenths "safeLow" payload.safeLow = .ok tiers.slow ∧
      tierOfTenths "fast" payload.fast = .ok tiers.fast ∧
        tierOfTenths "fastest" payload.fastest = .ok tiers.fastest := by
  simp only [TenthsPayload.tiers, bind_eq_ok_iff]
  constructor
  · rintro ⟨slow, hslow, fast, hfast, fastest, hfastest, ⟨⟩⟩
    exact ⟨hslow, hfast, hfastest⟩
  · rintro ⟨hslow, hfast, hfastest⟩
    exact ⟨_, hslow, _, hfast, _, hfastest, rfl⟩

/-! ### Texts -/

/-- The names in a document that tells its status. -/
def statusFields : List String := ["status", "message", "result"]

/-- The texts of the tiers stand in a result, under their names or in their order. -/
inductive HoldsTexts (safe propose fast : String) : Datum → Prop
  | named {entries : List (String × Datum)}
      (hsafe : entries.lookup "SafeGasPrice" = some (.text safe))
      (hpropose : entries.lookup "ProposeGasPrice" = some (.text propose))
      (hfast : entries.lookup "FastGasPrice" = some (.text fast)) :
      HoldsTexts safe propose fast (.table entries)
  | listed : HoldsTexts safe propose fast (.list [.text safe, .text propose, .text fast])

/-- The document is a record that tells of success, and the texts of the tiers stand in its
    result. -/
structure SendsTexts (document : Written) (safe propose fast : String) : Prop where
  isRecord : document.IsRecord statusFields
  status : document.HasField statusFields "status" (.text (some "1"))
  message :
    ∀ value, document.HasField statusFields "message" value → ∃ text, value = .text (some text)
  result : ∃ value result, document.HasField statusFields "result" value ∧
    value.datum? (maxDepth - 1) = some result ∧ HoldsTexts safe propose fast result

theorem Datum.text?_eq_some_iff {datum : Datum} {text : String} :
    datum.text? = some text ↔ datum = .text text := by
  cases datum <;> simp [Datum.text?]

theorem Json.Written.text?_eq_some_iff {document : Written} {text : String} :
    document.text? = some text ↔ document = .text (some text) := by
  cases document <;> simp [Written.text?]

theorem StatusPayload.tierTexts?_eq_some_iff {result : Datum} {safe propose fast : String} :
    tierTexts? result = some (safe, propose, fast) ↔ HoldsTexts safe propose fast result := by
  simp only [tierTexts?, Option.bind_eq_bind, Option.bind_eq_some_iff, Datum.field?,
    Datum.text?_eq_some_iff]
  constructor
  · rintro ⟨fields, hfields, safe, ⟨_, hsafe, rfl⟩, propose, ⟨_, hpropose, rfl⟩,
      fast, ⟨_, hfast, rfl⟩, ⟨⟩⟩
    cases result with
    | table entries =>
      obtain rfl := Option.some.inj hfields
      exact .named hsafe hpropose hfast
    | list items =>
      obtain ⟨-, hzip⟩ := Option.ite_none_right_eq_some.1 hfields
      obtain rfl := Option.some.inj hzip
      match items with
      | [] => cases hsafe
      | [_] => cases hpropose
      | [_, _] => cases hfast
      | [_, _, _] =>
        obtain rfl := Option.some.inj hsafe
        obtain rfl := Option.some.inj hpropose
        obtain rfl := Option.some.inj hfast
        exact .listed
    | _ => cases hfields
  · rintro (⟨hsafe, hpropose, hfast⟩ | _)
    · exact ⟨_, rfl, _, ⟨_, hsafe, rfl⟩, _, ⟨_, hpropose, rfl⟩, _, ⟨_, hfast, rfl⟩, rfl⟩
    · exact ⟨_, rfl, _, ⟨_, rfl, rfl⟩, _, ⟨_, rfl, rfl⟩, _, ⟨_, rfl, rfl⟩, rfl⟩

/-- The tiers of a document that tells its status. -/
theorem StatusPayload.tiers_eq_ok_iff {payload : StatusPayload} {tiers : GasTiers} :
    payload.tiers = .ok tiers ↔
      payload.status = "1" ∧ ∃ safe propose fast, HoldsTexts safe propose fast payload.result ∧
        tierOfText "SafeGasPrice" safe = .ok tiers.slow ∧
        tierOfText "ProposeGasPrice" propose = .ok tiers.fast ∧
        tierOfText "FastGasPrice" fast = .ok tiers.fastest := by
  simp only [← tierTexts?_eq_some_iff]
  unfold StatusPayload.tiers
  split
  next hstatus => simp [hstatus]
  next hstatus =>
    rw [ne_eq, not_not] at hstatus
    cases htexts : tierTexts? payload.result with
    | none => simp
    | some texts =>
      obtain ⟨safe, propose, fast⟩ := texts
      simp only [bind_eq_ok_iff, hstatus, true_and, Option.some.injEq, Prod.mk.injEq]
      constructor
      · rintro ⟨slow, hslow, middle, hmiddle, fastest, hfastest, ⟨⟩⟩
        exact ⟨_, _, _, ⟨rfl, rfl, rfl⟩, hslow, hmiddle, hfastest⟩
      · rintro ⟨_, _, _, ⟨rfl, rfl, rfl⟩, hslow, hmiddle, hfastest⟩
        exact ⟨_, hslow, _, hmiddle, _, hfastest, rfl⟩

/-- What is read of a document that tells its status, if that is success. -/
theorem StatusPayload.exists_ofWritten?_iff {document : Written} {safe propose fast : String} :
    (∃ payload, ofWritten? document = some payload ∧ payload.status = "1" ∧
        HoldsTexts safe propose fast payload.result) ↔ SendsTexts document safe propose fast := by
  have hnames : statusFields.Nodup := by decide
  simp only [ofWritten?, Option.bind_eq_bind, Option.bind_eq_some_iff]
  constructor
  · rintro ⟨_, ⟨fields, hfields, _, hstatus, message, hmessage, result, hresult, ⟨⟩⟩, rfl, hholds⟩
    obtain ⟨status, hfield, htext⟩ :=
      (Written.field?_eq_some_iff hfields hnames (by decide)).1 hstatus
    obtain rfl := Written.text?_eq_some_iff.1 htext
    obtain ⟨value, hvalue, hdatum⟩ :=
      (Written.field?_eq_some_iff hfields hnames (by decide)).1 hresult
    refine ⟨Written.isSome_fields?_iff.1 (Option.isSome_iff_exists.2 ⟨fields, hfields⟩), hfield, ?_,
      value, result, hvalue, hdatum, hholds⟩
    intro sent hsent
    obtain ⟨text, htext⟩ := Option.isSome_iff_exists.1
      ((Written.isSome_fieldOr?_iff "" hfields hnames (by decide)).1
        (Option.isSome_iff_exists.2 ⟨_, hmessage⟩) sent hsent)
    exact ⟨text, Written.text?_eq_some_iff.1 htext⟩
  · rintro ⟨hrecord, hstatus, hmessage, value, result, hvalue, hdatum, hholds⟩
    obtain ⟨fields, hfields⟩ := Option.isSome_iff_exists.1 (Written.isSome_fields?_iff.2 hrecord)
    have hsome : (fieldOr? fields "message" "" Written.text?).isSome = true := by
      refine (Written.isSome_fieldOr?_iff "" hfields hnames (by decide)).2 fun sent hsent => ?_
      obtain ⟨text, rfl⟩ := hmessage sent hsent
      rfl
    obtain ⟨message, hread⟩ := Option.isSome_iff_exists.1 hsome
    exact ⟨⟨"1", message, result⟩, ⟨fields, hfields, _,
      (Written.field?_eq_some_iff hfields hnames (by decide)).2 ⟨_, hstatus, rfl⟩, message,
      hread, result,
      (Written.field?_eq_some_iff hfields hnames (by decide)).2 ⟨value, hvalue, hdatum⟩, rfl⟩, rfl,
      hholds⟩

/-! ### Providers -/

namespace GasProvider

variable {network : Http.Network} {address : String} {apiKey : Option String} {tiers : GasTiers}

/-- A reply to the provider's request has arrived, with the status of success and this document. -/
structure Receives (provider : GasProvider) (network : Http.Network) (document : Written) :
    Prop where
  arrived : ∃ request reply, provider.request? = some request ∧ network request = .arrived reply ∧
    (200 ≤ reply.status ∧ reply.status < 300) ∧ readDocument reply.text = .ok document

theorem tiersOf_eq_ok_iff {α : Type} {provider : GasProvider}
    {ofPayload : α → Except GasError GasTiers} {ofWritten? : Written → Option α} :
    tiersOf ofPayload (Http.fetch network provider.request? fun _ => ofWritten?) = .ok tiers ↔
      ∃ document payload, provider.Receives network document ∧ ofWritten? document = some payload ∧
        ofPayload payload = .ok tiers := by
  have hfetched (fetched : Except Http.FetchError α) :
      tiersOf ofPayload fetched = .ok tiers ↔
      ∃ payload, fetched = .ok payload ∧ ofPayload payload = .ok tiers := by
    cases fetched <;> simp [tiersOf]
  simp only [hfetched, Http.fetch_eq_ok_iff]
  constructor
  · rintro ⟨payload,
      ⟨request, reply, document, hrequest, hreply, hsuccess, hdocument, hpayload⟩, htiers⟩
    exact ⟨document, payload, ⟨request, reply, hrequest, hreply, hsuccess, hdocument⟩,
      hpayload, htiers⟩
  · rintro ⟨document, payload, ⟨request, reply, hrequest, hreply, hsuccess, hdocument⟩,
      hpayload, htiers⟩
    exact ⟨payload,
      ⟨request, reply, document, hrequest, hreply, hsuccess, hdocument, hpayload⟩, htiers⟩

/-- What a document is read as decides about the tiers. -/
theorem tiersOf_of_receives {α : Type} {provider : GasProvider}
    {ofPayload : α → Except GasError GasTiers} {ofWritten? : Written → Option α}
    {document : Written} {payload : α} (hreceives : provider.Receives network document)
    (hpayload : ofWritten? document = some payload) :
    tiersOf ofPayload (Http.fetch network provider.request? fun _ => ofWritten?) =
      ofPayload payload := by
  obtain ⟨request, reply, hrequest, hreply, hsuccess, hdocument⟩ := hreceives.arrived
  rw [Http.fetch_eq_ok_iff.2
    ⟨request, reply, document, hrequest, hreply, hsuccess, hdocument, hpayload⟩, tiersOf]

theorem tiers_tenths_of_receives {document : Written} {payload : TenthsPayload}
    (hreceives : (tenths address apiKey).Receives network document)
    (hsends : SendsNumbers document payload) :
    (tenths address apiKey).tiers network = payload.tiers :=
  tiersOf_of_receives hreceives (TenthsPayload.ofWritten?_eq_some_iff.2 hsends)

theorem tiers_status_of_receives {document : Written} {safe propose fast : String}
    (hreceives : (status address apiKey).Receives network document)
    (hsends : SendsTexts document safe propose fast)
    (h : (status address apiKey).tiers network = .ok tiers) :
    tierOfText "SafeGasPrice" safe = .ok tiers.slow ∧
    tierOfText "ProposeGasPrice" propose = .ok tiers.fast ∧
      tierOfText "FastGasPrice" fast = .ok tiers.fastest := by
  obtain ⟨payload, hpayload, -, hholds⟩ := StatusPayload.exists_ofWritten?_iff.2 hsends
  rw [GasProvider.tiers, tiersOf_of_receives hreceives hpayload] at h
  obtain ⟨-, _, _, _, hholds', htiers⟩ := StatusPayload.tiers_eq_ok_iff.1 h
  rw [← StatusPayload.tierTexts?_eq_some_iff] at hholds hholds'
  cases hholds.symm.trans hholds'
  exact htiers

theorem tiers_tenths_eq_ok_iff :
    (tenths address apiKey).tiers network = .ok tiers ↔
      ∃ document payload,
        (tenths address apiKey).Receives network document ∧ SendsNumbers document payload ∧
        tierOfTenths "safeLow" payload.safeLow = .ok tiers.slow ∧
        tierOfTenths "fast" payload.fast = .ok tiers.fast ∧
        tierOfTenths "fastest" payload.fastest = .ok tiers.fastest := by
  rw [GasProvider.tiers, tiersOf_eq_ok_iff]
  simp only [TenthsPayload.ofWritten?_eq_some_iff, TenthsPayload.tiers_eq_ok_iff]

theorem tiers_status_eq_ok_iff :
    (status address apiKey).tiers network = .ok tiers ↔
      ∃ document safe propose fast, (status address apiKey).Receives network document ∧
        SendsTexts document safe propose fast ∧ tierOfText "SafeGasPrice" safe = .ok tiers.slow ∧
        tierOfText "ProposeGasPrice" propose = .ok tiers.fast ∧
        tierOfText "FastGasPrice" fast = .ok tiers.fastest := by
  rw [GasProvider.tiers, tiersOf_eq_ok_iff]
  simp only [StatusPayload.tiers_eq_ok_iff, ← StatusPayload.exists_ofWritten?_iff]
  constructor
  · rintro ⟨document, payload, hreceives, hpayload, hstatus, safe, propose, fast, hholds, htiers⟩
    exact ⟨document, safe, propose, fast, hreceives, ⟨payload, hpayload, hstatus, hholds⟩, htiers⟩
  · rintro ⟨document, safe, propose, fast, hreceives, ⟨payload, hpayload, hstatus, hholds⟩, htiers⟩
    exact ⟨document, payload, hreceives, hpayload, hstatus, safe, propose, fast, hholds, htiers⟩

end GasProvider

/-! ### Documents that arrive -/

section Documents

/-- A text is read if its characters are one value with nothing after it. -/
theorem readDocument_of_readValue {text : String} {cs : List Char} {value : Written}
    (htext : text.toList = cs) (hvalue : readValue (2 * cs.length + 2) cs = .ok (value, [])) :
    readDocument text = .ok value := by
  subst htext
  rw [readDocument, hvalue]
  rfl

/-- A table with these entries. -/
def braced (entries : String) : String := "\x7b" ++ entries ++ "\x7d"

theorem toList_braced (entries : String) :
    (braced entries).toList = '\x7b' :: (entries.toList ++ ['\x7d']) := by
  rw [braced, String.toList_append, String.toList_append]
  rfl

variable (safe propose quick : String)

/-- A service that sends texts writes them in the result of its success. -/
def textsText : String :=
  braced ("\x22status\x22:\x221\x22,\x22result\x22:" ++
    braced ("\x22SafeGasPrice\x22:\x22" ++ safe ++ "\x22,\x22ProposeGasPrice\x22:\x22" ++
      propose ++ "\x22,\x22FastGasPrice\x22:\x22" ++ quick ++ "\x22"))

/-- The document of such a service. -/
def textsDocument : Written :=
  .ofEntries [("status", .text (some "1")),
    ("result", .ofEntries [("SafeGasPrice", .text (some safe)),
      ("ProposeGasPrice", .text (some propose)), ("FastGasPrice", .text (some quick))])]

theorem sendsTexts_textsDocument :
    SendsTexts (textsDocument safe propose quick) safe propose quick where
  isRecord := .table (by simp [statusFields])
  status := .named (by simp)
  message value hvalue := by
    have hmem := Written.hasField_ofEntries_iff.1 hvalue
    simp at hmem
  result := ⟨_,
    .table [("FastGasPrice", .text quick), ("ProposeGasPrice", .text propose),
      ("SafeGasPrice", .text safe)],
    .named (List.mem_cons_of_mem _ List.mem_cons_self), rfl, .named rfl rfl rfl⟩

end Documents

namespace GasProvider

/-- The address of a service on the machine itself. -/
def localAddress : String := "http://127.0.0.1:8080/"

/-- A table that a service there sends in answer to every request is received. -/
theorem receives_of_arrived {provider : GasProvider} {pairs : List (String × String)}
    {entries : String} {document : Written}
    (hquestion : provider.question? = some (localAddress, pairs))
    (hdocument : readDocument (braced entries) = .ok document) :
    provider.Receives (fun _ => .arrived (.plain 200 (braced entries))) document := by
  have hparse := Http.Url.parse?_of_isServer Http.Url.isServer_local []
  rw [show "http://127.0.0.1:8080" ++ String.ofList ['/'] = localAddress by decide] at hparse
  have hrequest : provider.request? = Http.request? localAddress pairs none := by
    rw [request?, hquestion]
    rfl
  rw [Http.request?, hparse] at hrequest
  have hplain : ∃ c ∈ (braced entries).toList.head?, c.toNat < 0x80 :=
    ⟨'\x7b', by simp [toList_braced], by decide⟩
  rw [← Http.Reply.text_plain 200 0 hplain] at hdocument
  exact ⟨_, _, hrequest, rfl, ⟨Nat.le_refl 200, (by decide : 200 < 300)⟩, hdocument⟩

end GasProvider

end FeeOracle
