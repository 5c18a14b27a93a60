/-!
# Media types

What a reply says about its body: a type and a subtype, and parameters such as the encoding. A text
that does not keep to this form says nothing.
-/

namespace FeeOracle.Http

/-- May the character stand in a token? -/
def isTokenChar (c : Char) : Bool :=
  c.isAlphanum ||
    ['!', '#', '$', '%', '&', '\x27', '*', '+', '-', '.', '^', '_', '\x60', '|', '~'].contains c

/-- May the character stand between quotes? -/
def isQuotedChar (c : Char) : Bool := 0x1F < c.toNat && c.toNat < 0x80 && c.toNat ≠ 0x7F

/-- How far the reading of parameters has got: in a name, in a value, in one between quotes or
    behind it. -/
inductive ParameterState
  | name (read : List Char)
  | value (name read : List Char)
  | quoted (name read : List Char)
  | closed (name value : List Char)

/-- The parameters that are left, with their values. Neither names nor values are empty, but for a
    value at the very end. -/
def readParameters? : ParameterState → List Char → Option (List (List Char × List Char))
  | .name read, [] => if read = [] then some [] else none
  | .name read, c :: rest =>
    if c = ' ' ∧ read = [] then readParameters? (.name []) rest
    else if isTokenChar c then readParameters? (.name (read ++ [c])) rest
    else if c = '=' ∧ read ≠ [] then readParameters? (.value read []) rest
    else none
  | .value name read, [] => some [(name, read)]
  | .value name read, c :: rest =>
    if c = '\x22' ∧ read = [] then readParameters? (.quoted name []) rest
    else if isTokenChar c then readParameters? (.value name (read ++ [c])) rest
    else if c = ';' ∧ read ≠ [] then (readParameters? (.name []) rest).map ((name, read) :: ·)
    else none
  | .quoted _ _, [] => none
  | .quoted name read, c :: rest =>
    if c = '\x22' ∧ read ≠ [] then readParameters? (.closed name read) rest
    else if isQuotedChar c then readParameters? (.quoted name (read ++ [c])) rest
    else none
  | .closed name value, [] => some [(name, value)]
  | .closed name value, c :: rest =>
    if c = ';' then (readParameters? (.name []) rest).map ((name, value) :: ·)
    else if c = ' ' then readParameters? (.closed name value) rest
    else none

/-- The parameters of a media type. -/
def parameters? (mediaType : String) : Option (List (List Char × List Char)) :=
  let (type, rest) := mediaType.toList.span isTokenChar
  match rest with
  | '/' :: rest =>
    let (subtype, rest) := rest.span isTokenChar
    match rest with
    | [] => if type = [] then none else some []
    | ';' :: rest => if type = [] ∨ subtype = [] then none else readParameters? (.name []) rest
    | _ => none
  | _ => none

/-- The value of the first parameter of a name in a media type. -/
def parameter? (name mediaType : String) : Option String := do
  let parameters ← parameters? mediaType
  let found ← parameters.find? fun parameter => String.ofList (parameter.1.map Char.toLower) == name
  some (String.ofList found.2)

example : parameter? "charset" "text/plain; q=1;Charset=\x22utf-8\x22 " = some "utf-8" := by
  decide +kernel
example : parameter? "charset" "plain; charset=utf-8" = none := by decide +kernel

end FeeOracle.Http
