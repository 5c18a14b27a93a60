import FeeOracle.Json.Written

/-!
# Reading documents

A reader takes a value off the front of a list of characters and returns what is left; where it
fails it returns the characters before which it stopped. A document is one value with nothing but
blanks around it.
-/

namespace FeeOracle.Json

open Text

/-- What a reader returns, or the characters before which it stopped. -/
abbrev Reading := Except (List Char)

/-- The characters that may stand between the parts of a document. -/
def isSpace (c : Char) : Bool := c == ' ' || c == '\t' || c == '\n' || c == '\r'

/-- What follows the spaces. -/
def skipSpaces (cs : List Char) : List Char := cs.dropWhile isSpace

/-- Takes a given word. -/
def readWord (value : Written) : List Char → List Char → Reading (Written × List Char)
  | [], cs => .ok (value, cs)
  | _ :: _, [] => .error []
  | w :: word, c :: cs => if w = c then readWord value word cs else .error (c :: cs)

/-- Part of a text: a character, or the code of an escape. -/
inductive TextUnit
  | char (c : Char)
  | code (n : Nat)
deriving DecidableEq, Repr

/-- The character that an escape of one letter stands for. -/
def simpleEscape? (c : Char) : Option Char :=
  match c with
  | '\x22' => some '\x22'
  | '\\' => some '\\'
  | '/' => some '/'
  | 'b' => some '\x08'
  | 'f' => some '\x0c'
  | 'n' => some '\n'
  | 'r' => some '\r'
  | 't' => some '\t'
  | _ => none

/-- The rest of a text, after its opening quotation mark; the parts read before stand in reverse
    order. -/
def readUnits (before : List TextUnit) : List Char → Reading (List TextUnit × List Char)
  | [] => .error []
  | '\x22' :: rest => .ok (before.reverse, rest)
  | '\\' :: 'u' :: a :: b :: c :: d :: rest =>
    match hexDigitsValue? [a, b, c, d] with
    | some code => readUnits (.code code :: before) rest
    | none => .error (a :: b :: c :: d :: rest)
  | '\\' :: c :: rest =>
    match simpleEscape? c with
    | some escaped => readUnits (.char escaped :: before) rest
    | none => .error (c :: rest)
  | c :: rest =>
    if c.toNat < 0x20 ∨ c = '\\' then .error (c :: rest) else readUnits (.char c :: before) rest

/-- The character of a code outside the range of surrogates. -/
def plainChar? (code : Nat) : Option Char :=
  if code < 0xD800 ∨ 0xDFFF < code then some (Char.ofNat code) else none

/-- The characters of the parts of a text. Two codes of surrogates that fit together are one
    character, a lone one is none. -/
def joinUnits : List TextUnit → Option (List Char)
  | [] => some []
  | .char c :: rest => (joinUnits rest).map (c :: ·)
  | .code high :: .code low :: rest =>
    if 0xD800 ≤ high ∧ high < 0xDC00 ∧ 0xDC00 ≤ low ∧ low < 0xE000 then
      (joinUnits rest).map (Char.ofNat (0x10000 + (high - 0xD800) * 0x400 + (low - 0xDC00)) :: ·)
    else do
      let c ← plainChar? high
      (joinUnits (.code low :: rest)).map (c :: ·)
  | .code code :: rest => do
    let c ← plainChar? code
    (joinUnits rest).map (c :: ·)

/-- A text, after its opening quotation mark. -/
def readText (cs : List Char) : Reading (Option String × List Char) :=
  (readUnits [] cs).map fun (units, rest) => ((joinUnits units).map String.ofList, rest)

/-- The digits in front, of which there has to be one. -/
def readDigits (cs : List Char) : Reading (List Char × List Char) :=
  let digits := cs.takeWhile Char.isDigit
  if digits.isEmpty then .error cs else .ok (digits, cs.dropWhile Char.isDigit)

/-- The whole part of a number: a zero, or digits that do not begin with one. -/
def readWhole (cs : List Char) : Reading (List Char × List Char) := do
  let (digits, rest) ← readDigits cs
  if digits.head? = some '0' ∧ digits.length > 1 then .error (cs.drop 1) else .ok (digits, rest)

/-- The fraction of a number, if it has one. -/
def readFraction (cs : List Char) : Reading (List Char × List Char) :=
  match cs with
  | '.' :: rest => readDigits rest
  | _ => .ok ([], cs)

/-- The exponent of a number, if it has one. -/
def readExponent (cs : List Char) : Reading (Option (Bool × List Char) × List Char) :=
  match cs with
  | c :: rest =>
    if c = 'e' ∨ c = 'E' then do
      let (negative, digits) := match rest with
        | '+' :: digits => (false, digits)
        | '-' :: digits => (true, digits)
        | _ => (false, rest)
      let (digits, rest) ← readDigits digits
      .ok (some (negative, digits), rest)
    else .ok (none, cs)
  | [] => .ok (none, [])

/-- A number as it is written: sign, whole part, fraction and exponent. -/
def readNumeral (cs : List Char) : Reading (Numeral × List Char) := do
  let (negative, unsigned) := match cs with
    | '-' :: rest => (true, rest)
    | _ => (false, cs)
  let (whole, rest) ← readWhole unsigned
  let (fraction, rest) ← readFraction rest
  let (exponent, rest) ← readExponent rest
  .ok ({ negative, whole, fraction, exponent }, rest)

mutual

/-- A value. `fuel` bounds the number of values, entries and items on the way down; one more than
    there are characters is always enough. -/
def readValue (fuel : Nat) (cs : List Char) : Reading (Written × List Char) :=
  match fuel with
  | 0 => .error cs
  | fuel + 1 =>
    match skipSpaces cs with
    | 'n' :: rest => readWord .null ['u', 'l', 'l'] rest
    | 't' :: rest => readWord (.bool true) ['r', 'u', 'e'] rest
    | 'f' :: rest => readWord (.bool false) ['a', 'l', 's', 'e'] rest
    | '\x22' :: rest => (readText rest).map fun (value, rest) => (.text value, rest)
    | '[' :: rest =>
      match skipSpaces rest with
      | ']' :: rest => .ok (.list [], rest)
      | _ => (readItems fuel rest).map fun (items, rest) => (.list items, rest)
    | '\x7b' :: rest =>
      match skipSpaces rest with
      | '\x7d' :: rest => .ok (.table [], rest)
      | _ => (readEntries fuel rest).map fun (entries, rest) => (.table entries, rest)
    | rest => (readNumeral rest).map fun (numeral, rest) => (.number numeral, rest)

/-- The items of a list that is not empty, and the bracket that closes it. -/
def readItems (fuel : Nat) (cs : List Char) : Reading (List Written × List Char) :=
  match fuel with
  | 0 => .error cs
  | fuel + 1 => do
    let (item, rest) ← readValue fuel cs
    match skipSpaces rest with
    | ',' :: rest => (readItems fuel rest).map fun (items, rest) => (item :: items, rest)
    | ']' :: rest => .ok ([item], rest)
    | rest => .error rest

/-- The entries of a table that is not empty, and the brace that closes it. -/
def readEntries (fuel : Nat) (cs : List Char) :
    Reading (List (Option String × Written) × List Char) :=
  match fuel with
  | 0 => .error cs
  | fuel + 1 =>
    match skipSpaces cs with
    | '\x22' :: rest => do
      let (name, rest) ← readText rest
      match skipSpaces rest with
      | ':' :: rest =>
        let (value, rest) ← readValue fuel rest
        match skipSpaces rest with
        | ',' :: rest =>
          (readEntries fuel rest).map fun (entries, rest) => ((name, value) :: entries, rest)
        | '\x7d' :: rest => .ok ([(name, value)], rest)
        | rest => .error rest
      | rest => .error rest
    | rest => .error rest

end

/-- A place in a document. -/
structure Position where
  line : Nat
  column : Nat
deriving DecidableEq, Repr

/-- The place behind some characters. -/
def Position.after (cs : List Char) : Position where
  line := cs.count '\n' + 1
  column := (cs.reverse.takeWhile (· ≠ '\n')).length

instance : ToString Position := ⟨fun place => s!"line {place.line} column {place.column}"⟩

/-- The document that a text writes, or the place where it is none. -/
def readDocument (text : String) : Except Position Written :=
  let cs := text.toList
  let stopped (left : List Char) : Position := .after (cs.take (cs.length - left.length))
  match readValue (2 * cs.length + 2) cs with
  | .error left => .error (stopped left)
  | .ok (value, rest) =>
    match skipSpaces rest with
    | [] => .ok value
    | left => .error (stopped left)

end FeeOracle.Json
