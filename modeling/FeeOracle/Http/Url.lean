import FeeOracle.Http.Host

/-!
# Addresses

An address of a service: a scheme, a host with an optional port, a path and a query. Reading one
forgives much: letters of scheme and host may be in any case, backslashes count as slashes, a port
that goes without saying is dropped, steps up and down the path are taken, and characters that may
not stand for themselves are escaped. What follows a number sign is never sent.
-/

namespace FeeOracle.Http

open Text

/-- How a service is spoken to. -/
inductive Scheme
  | http
  | https
deriving DecidableEq, Repr

/-- The name in an address. -/
def Scheme.name : Scheme → String
  | http => "http"
  | https => "https"

/-- The port that goes without saying. -/
def Scheme.defaultPort : Scheme → Nat
  | http => 80
  | https => 443

/-- An address in normal form. A port that goes without saying is absent. -/
structure Url where
  scheme : Scheme
  host : String
  port : Option Nat
  path : String
  query : Option String
deriving DecidableEq, Repr

namespace Url

/-- The characters without the blanks and controls around them, and without tabs and line ends. -/
def tidy (cs : List Char) : List Char :=
  let isEdge := fun (c : Char) => c.toNat ≤ 0x20
  let trimmed := ((cs.dropWhile isEdge).reverse.dropWhile isEdge).reverse
  trimmed.filter fun c => c ≠ '\t' ∧ c ≠ '\n' ∧ c ≠ '\r'

/-- The scheme in front of an address, and what follows its colon. -/
def readScheme? (cs : List Char) : Option (Scheme × List Char) :=
  let name := String.ofList ((cs.takeWhile (· ≠ ':')).map Char.toLower)
  match cs.dropWhile (· ≠ ':') with
  | ':' :: rest =>
    if name = "http" then some (.http, rest)
    else if name = "https" then some (.https, rest)
    else none
  | _ => none

/-- Does the character separate the parts of an address? -/
def isSlash (c : Char) : Bool := c == '/' || c == '\\'

/-- Does the part of an address that names the host end here? -/
def endsAuthority (c : Char) : Bool := isSlash c || c == '?' || c == '#'

/-- A host and a port from the characters between the slashes and the path. -/
def readHost? (scheme : Scheme) (authority : List Char) : Option (String × Option Nat) := do
  let hostAndPort := (authority.reverse.takeWhile (· ≠ '@')).reverse
  let (host, rest) ← match hostAndPort with
    | '[' :: inside =>
      match inside.dropWhile (· ≠ ']') with
      | _ :: rest => (Host.ofBrackets? (inside.takeWhile (· ≠ ']'))).map fun pieces =>
        (Host.piecesText pieces, rest)
      | [] => none
    | _ => do
      let name ← decodeUtf8? (percentDecode (hostAndPort.takeWhile (· ≠ ':')))
      let host ← Host.ofName? name.toList
      some (host, hostAndPort.dropWhile (· ≠ ':'))
  let host := String.ofList host
  match rest with
  | [] => some (host, none)
  | ':' :: digits =>
    if digits = [] then some (host, none)
    else if digits.all Char.isDigit ∧ digitsValue digits < 2 ^ (16 : Nat) then
      let port := digitsValue digits
      some (host, if port = scheme.defaultPort then none else some port)
    else none
  | _ => none

/-- Is the segment a step that stays? -/
def isHere (segment : List Char) : Bool :=
  ["." , "%2e"].contains (String.ofList (segment.map Char.toLower))

/-- Is the segment a step up? -/
def isUp (segment : List Char) : Bool :=
  ["..", ".%2e", "%2e.", "%2e%2e"].contains (String.ofList (segment.map Char.toLower))

/-- The segments of a path with the steps taken; `before` holds those already passed, the nearest
    first. A step at the end leaves an empty segment. -/
def resolve (before : List (List Char)) : List (List Char) → List (List Char)
  | [] => before.reverse
  | segment :: rest =>
    let last := rest.isEmpty
    if isUp segment then
      resolve (if last then [] :: before.drop 1 else before.drop 1) rest
    else if isHere segment then resolve (if last then [] :: before else before) rest
    else resolve (segment :: before) rest

/-- The path that some characters write. -/
def pathText (cs : List Char) : List Char :=
  let slashed := cs.map fun c => if c = '\\' then '/' else c
  let segments := match slashed with
    | '/' :: rest => rest.splitOn '/'
    | _ => slashed.splitOn '/'
  (resolve [] segments).flatMap fun segment => '/' :: percentEncode isPathChar segment

/-- The address that a text writes. -/
def parse? (text : String) : Option Url := do
  let (scheme, rest) ← readScheme? (tidy text.toList)
  let rest := rest.dropWhile isSlash
  let (host, port) ← readHost? scheme (rest.takeWhile (!endsAuthority ·))
  let sent := (rest.dropWhile (!endsAuthority ·)).takeWhile (· ≠ '#')
  let path := pathText (sent.takeWhile (· ≠ '?'))
  let query := match sent.dropWhile (· ≠ '?') with
    | _ :: query => some (String.ofList (percentEncode isQueryChar query))
    | [] => none
  some { scheme, host, port, path := String.ofList path, query }

/-- The address with more names and values at the end of its query. An empty query is none. -/
def withPairs (url : Url) (pairs : List (String × String)) : Url :=
  let known := (url.query.getD "").toList
  let added := formText pairs
  let query := if known = [] ∨ added = [] then known ++ added else known ++ '&' :: added
  { url with query := if query = [] then none else some (String.ofList query) }

/-- What is asked of the host. -/
def target (url : Url) : String :=
  match url.query with
  | some query => url.path ++ "?" ++ query
  | none => url.path

/-- The host with its port, if that has to be said. -/
def authority (url : Url) : String :=
  match url.port with
  | some port => url.host ++ ":" ++ toString port
  | none => url.host

/-- The address as it is written. -/
def text (url : Url) : String := url.scheme.name ++ "://" ++ url.authority ++ url.target

example :
    (parse? "HTTP://Host:80/a/./b/../c d?x='#y").map text = some "http://host/a/c%20d?x=%27" := by
  decide +kernel
example : (parse? "http://h").map text = some "http://h/" := by decide +kernel
example : (parse? "http://[::1]:81/").map text = some "http://[::1]:81/" := by decide +kernel
example : (parse? "ftp://h/").isNone = true := by decide +kernel

end Url
end FeeOracle.Http
