import FeeOracle.Exchange.Adapter
import FeeOracle.Proofs.Http.Form
import FeeOracle.Proofs.Http.Url

/-!
# Symbols in queries

Three exchanges are asked at an address that is the same for all pairs, and the query names the
symbol. Whoever answers reads from that query one name and one value, and the value is the symbol
(`Adapter.asksInQuery_of_isServer`): no ticker can add a name, end the value early or change the
address.
-/

namespace FeeOracle

open Http Http.Url

variable {address host : String} {port : Option Nat} {exchange : Exchange}

/-- Slashes at the end of the address of a server make no difference. -/
theorem Exchange.trimBaseUrl_of_isServer (h : IsServer address host port) (slashes : Nat) :
    trimBaseUrl (address ++ String.ofList (List.replicate slashes '/')) = address := by
  obtain ⟨authority, haddress, hauthority, hhost⟩ := h
  have hauthority : address.toList.reverse.dropWhile (· = '/') = address.toList.reverse := by
    obtain ⟨c, back, hback⟩ :=
      List.exists_cons_of_ne_nil (mt List.reverse_eq_nil_iff.1 (ne_nil_of_readHost? hhost))
    have hc := (hauthority c (List.mem_reverse.1 (hback ▸ List.mem_cons_self))).2.1
    have hslash : c ≠ '/' := by
      rintro rfl
      exact absurd hc (by decide)
    rw [haddress, List.reverse_append, hback, List.cons_append,
      List.dropWhile_cons_of_neg (by simpa using hslash)]
  have hslashes : (List.replicate slashes '/' ++ address.toList.reverse).dropWhile (· = '/') =
      address.toList.reverse.dropWhile (· = '/') :=
    List.dropWhile_append_of_pos fun c hc => decide_eq_true (List.eq_of_mem_replicate hc)
  rw [trimBaseUrl, String.toList_append, String.toList_ofList, List.reverse_append,
    List.reverse_replicate, hslashes, hauthority, List.reverse_reverse, String.ofList_toList]

/-- An exchange that is asked by a query has one address for all symbols. -/
theorem Exchange.parse?_path_of_queryName? (h : IsServer address host port) {name : String}
    (hname : exchange.queryName? = some name) (symbol : String) :
    parse? (address ++ exchange.path symbol) =
      some { scheme := .http, host, port, path := exchange.path "", query := none } := by
  have hplain (rest : List Char) (hsent : sent rest = rest) (hquery : rest.all (· ≠ '?') = true)
      (hpath : pathText ('/' :: rest) = '/' :: rest) :
      parse? (address ++ String.ofList ('/' :: rest)) =
        some { scheme := .http, host, port, path := String.ofList ('/' :: rest),
               query := none } := by
    have htake : rest.takeWhile (· ≠ '?') = rest :=
      List.takeWhile_eq_self_iff.2 (List.all_eq_true.1 hquery)
    have hdrop : rest.dropWhile (· ≠ '?') = [] :=
      List.dropWhile_eq_nil_iff.2 (List.all_eq_true.1 hquery)
    rw [parse?_of_isServer h, hsent, htake, hdrop, hpath]
  cases exchange with
  | binance =>
    exact hplain "api/v3/ticker/price".toList (by decide +kernel) (by decide) (by decide +kernel)
  | cryptocom =>
    exact hplain "v2/public/get-ticker".toList (by decide +kernel) (by decide) (by decide +kernel)
  | kraken =>
    exact hplain "0/public/Ticker".toList (by decide +kernel) (by decide) (by decide +kernel)
  | bitfinex | coinbase | gemini => cases hname

/-- The request of an exchange that is asked by a query. -/
theorem Exchange.request?_of_queryName? (h : IsServer address host port) {name : String}
    (hname : exchange.queryName? = some name) (slashes : Nat) (apiKey : Option String)
    (base quote : String) :
    exchange.request? (address ++ String.ofList (List.replicate slashes '/')) apiKey base quote =
      some
        { url :=
            { scheme := .http
              host
              port
              path := exchange.path ""
              query := some (String.ofList (formText [(name, exchange.symbol base quote)])) }
          apiKey } := by
  have hform : formText [(name, exchange.symbol base quote)] ≠ [] := by simp [formText]
  simp [request?, trimBaseUrl_of_isServer h, hname, Http.request?,
    parse?_path_of_queryName? h hname, withPairs, hform]

/-- The adapter asks the host at one path, whatever the pair. Its query is read as one name with the
    symbol of the pair as its value, so that requests differ exactly if symbols do. -/
def Adapter.AsksInQuery (adapter : Adapter) (host : String) (port : Option Nat) (path name : String)
    (symbolOf : String → String → String) : Prop :=
  ∀ base quote,
    (∃ query, adapter.request? base quote =
        some { url := { scheme := .http, host, port, path, query := some query },
               apiKey := adapter.apiKey } ∧
      readForm query.toList = [(name, symbolOf base quote)]) ∧
    ∀ otherBase otherQuote, adapter.request? base quote = adapter.request? otherBase otherQuote ↔
      symbolOf base quote = symbolOf otherBase otherQuote

theorem Adapter.asksInQuery_of_queryName? (h : IsServer address host port) {name : String}
    (hname : exchange.queryName? = some name) (slashes : Nat) (apiKey : Option String) :
    AsksInQuery
      { exchange, address := address ++ String.ofList (List.replicate slashes '/'), apiKey }
      host port (exchange.path "") name exchange.symbol := by
  intro base quote
  have hrequest (base quote : String) :=
    Exchange.request?_of_queryName? h hname slashes apiKey base quote
  refine ⟨⟨_, hrequest base quote, by rw [String.toList_ofList, readForm_formText]⟩, ?_⟩
  intro otherBase otherQuote
  simp only [Adapter.request?, hrequest, Option.some.injEq, Request.mk.injEq, Url.mk.injEq,
    true_and, and_true, String.ofList_inj]
  constructor
  · intro hsame
    have hread := congrArg readForm hsame
    simpa [readForm_formText] using hread
  · intro hsame
    rw [hsame]

/-- Over any server, with any number of slashes after it, the three exchanges that are asked by a
    query are asked at one path each and for just the symbol they know a pair by: with the coin that
    stands for dollars at the first, with a separator at the second, with the international code of
    bitcoin at the third. -/
theorem Adapter.asksInQuery_of_isServer (h : IsServer address host port) (slashes : Nat)
    (apiKey : Option String) :
    let adapterOf (exchange : Exchange) : Adapter :=
      { exchange, address := address ++ String.ofList (List.replicate slashes '/'), apiKey }
    AsksInQuery (adapterOf .binance) host port "/api/v3/ticker/price" "symbol"
      (fun base quote => base ++ if quote = "USD" then "USDT" else quote) ∧
    AsksInQuery (adapterOf .cryptocom) host port "/v2/public/get-ticker" "instrument_name"
      (fun base quote => base ++ "_" ++ quote) ∧
    AsksInQuery (adapterOf .kraken) host port "/0/public/Ticker" "pair"
      (fun base quote => (if base = "BTC" then "XBT" else base) ++
          if quote = "BTC" then "XBT" else quote) :=
  ⟨asksInQuery_of_queryName? h rfl slashes apiKey, asksInQuery_of_queryName? h rfl slashes apiKey,
    asksInQuery_of_queryName? h rfl slashes apiKey⟩

/-- A base that holds everything a query is made of is asked for as it stands. -/
theorem Adapter.asksInQuery_of_isServer_local :
    IsServer "http://127.0.0.1:8080" "127.0.0.1" (some 8080) ∧
    ∃ query,
      request? { exchange := .binance, address := "http://127.0.0.1:8080//", apiKey := some "key" }
        "A&B=%26+ #é" "USD" =
          some
            { url :=
                { scheme := .http
                  host := "127.0.0.1"
                  port := some 8080
                  path := "/api/v3/ticker/price"
                  query := some query }
              apiKey := some "key" } ∧
      readForm query.toList = [("symbol", "A&B=%26+ #éUSDT")] := by
  obtain ⟨hbinance, -, -⟩ := asksInQuery_of_isServer isServer_local 2 (some "key")
  obtain ⟨⟨query, hrequest, hread⟩, -⟩ := hbinance "A&B=%26+ #é" "USD"
  exact ⟨isServer_local, query, hrequest, hread⟩

end FeeOracle
