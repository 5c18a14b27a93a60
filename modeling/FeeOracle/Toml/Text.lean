import FeeOracle.Text.Digits
import FeeOracle.Toml.Blank

/-!
# Texts in configurations

Four forms of text: within double quotation marks with escapes, within single ones without, and each
of them over several lines within tripled marks. A line break right after tripled marks does not
count, and within them a line break is always a line feed. Up to two marks may stand right before
the closing three.
-/

namespace FeeOracle.Toml

open FeeOracle.Text (hexDigitsValue?)

/-- The character that an escape of one letter stands for. -/
def simpleEscape? (c : Char) : Option Char :=
  match c with
  | 'b' => some '\x08'
  | 't' => some '\t'
  | 'n' => some '\n'
  | 'f' => some '\x0c'
  | 'r' => some '\r'
  | '\x22' => some '\x22'
  | '\\' => some '\\'
  | _ => none

/-- The character whose code hexadecimal digits write. -/
def coded? (digits : List Char) : Option Char := do
  let code ← hexDigitsValue? digits
  if code < 0xD800 ∨ (0xDFFF < code ∧ code < 0x110000) then some (Char.ofNat code) else none

/-- A text with escapes on one line, after its opening mark; the characters before stand in reverse
    order. -/
def readEscaped (before : List Char) : List Char → Option (List Char × List Char)
  | [] => none
  | '\x22' :: rest => some (before.reverse, rest)
  | '\\' :: 'u' :: a :: b :: c :: d :: rest =>
    match coded? [a, b, c, d] with
    | some coded => readEscaped (coded :: before) rest
    | none => none
  | '\\' :: 'U' :: a :: b :: c :: d :: e :: f :: g :: h :: rest =>
    match coded? [a, b, c, d, e, f, g, h] with
    | some coded => readEscaped (coded :: before) rest
    | none => none
  | '\\' :: c :: rest =>
    match simpleEscape? c with
    | some escaped => readEscaped (escaped :: before) rest
    | none => none
  | c :: rest => if isPrintable c ∧ c ≠ '\\' then readEscaped (c :: before) rest else none

/-- Where the reader of a text over several lines is: within the text, behind a backslash that has
    to end its line, or in the margin that such a backslash removes. -/
inductive Place
  | text
  | lineEnd
  | margin
deriving DecidableEq, Repr

/-- What a line break contributes, and where it leads. -/
def Place.break (place : Place) (before : List Char) : Place × List Char :=
  match place with
  | text => (text, '\n' :: before)
  | lineEnd => (margin, before)
  | margin => (margin, before)

/-- A text with escapes over several lines, after its opening marks. -/
def readEscapedLines (place : Place) (before : List Char) :
    List Char → Option (List Char × List Char)
  | [] => none
  | '\n' :: rest => readEscapedLines (place.break before).1 (place.break before).2 rest
  | '\r' :: '\n' :: rest => readEscapedLines (place.break before).1 (place.break before).2 rest
  | c :: rest =>
    if isBlank c ∧ place ≠ .text then readEscapedLines place before rest
    else if place = .lineEnd ∨ !isPrintable c then none
    else
      match c, rest with
      | '\x22', '\x22' :: '\x22' :: '\x22' :: '\x22' :: rest =>
        some (('\x22' :: '\x22' :: before).reverse, rest)
      | '\x22', '\x22' :: '\x22' :: '\x22' :: rest => some (('\x22' :: before).reverse, rest)
      | '\x22', '\x22' :: '\x22' :: rest => some (before.reverse, rest)
      | '\\', 'u' :: d :: e :: f :: g :: rest =>
        match coded? [d, e, f, g] with
        | some coded => readEscapedLines .text (coded :: before) rest
        | none => none
      | '\\', 'U' :: d :: e :: f :: g :: h :: i :: j :: k :: rest =>
        match coded? [d, e, f, g, h, i, j, k] with
        | some coded => readEscapedLines .text (coded :: before) rest
        | none => none
      | '\\', '\n' :: rest => readEscapedLines .margin before rest
      | '\\', '\r' :: '\n' :: rest => readEscapedLines .margin before rest
      | '\\', d :: rest =>
        if isBlank d then readEscapedLines .lineEnd before rest
        else
          match simpleEscape? d with
          | some escaped => readEscapedLines .text (escaped :: before) rest
          | none => none
      | '\\', [] => none
      | plain, rest => readEscapedLines .text (plain :: before) rest

/-- A text without escapes on one line, after its opening mark. -/
def readLiteral (before : List Char) : List Char → Option (List Char × List Char)
  | [] => none
  | '\x27' :: rest => some (before.reverse, rest)
  | c :: rest => if isPrintable c then readLiteral (c :: before) rest else none

/-- A text without escapes over several lines, after its opening marks. -/
def readLiteralLines (before : List Char) : List Char → Option (List Char × List Char)
  | [] => none
  | '\n' :: rest => readLiteralLines ('\n' :: before) rest
  | '\r' :: '\n' :: rest => readLiteralLines ('\n' :: before) rest
  | '\x27' :: '\x27' :: '\x27' :: '\x27' :: '\x27' :: rest =>
    some (('\x27' :: '\x27' :: before).reverse, rest)
  | '\x27' :: '\x27' :: '\x27' :: '\x27' :: rest => some (('\x27' :: before).reverse, rest)
  | '\x27' :: '\x27' :: '\x27' :: rest => some (before.reverse, rest)
  | c :: rest => if isPrintable c then readLiteralLines (c :: before) rest else none

/-- The characters without a line break in front. -/
def dropNewline (cs : List Char) : List Char := (newline? cs).getD cs

/-- A text within a line, with escapes or without. -/
def readLineText? : List Char → Option (String × List Char)
  | '\x22' :: rest => (readEscaped [] rest).map fun (chars, rest) => (String.ofList chars, rest)
  | '\x27' :: rest => (readLiteral [] rest).map fun (chars, rest) => (String.ofList chars, rest)
  | _ => none

/-- Any text; three quotes begin one of several lines. -/
def readText? (cs : List Char) : Option (String × List Char) :=
  match cs with
  | '\x22' :: '\x22' :: '\x22' :: rest =>
    (readEscapedLines .text [] (dropNewline rest)).map fun (chars, rest) =>
      (String.ofList chars, rest)
  | '\x27' :: '\x27' :: '\x27' :: rest =>
    (readLiteralLines [] (dropNewline rest)).map fun (chars, rest) => (String.ofList chars, rest)
  | _ => readLineText? cs

example : readText? "\x22a\\tb\\u00e9\x22 x".toList = some ("a\tbé", [' ', 'x']) := by
  decide +kernel
example :
    readText? "\x22\x22\x22\r\na\x22 \\  \n\n  b\x22\x22\x22\x22\x22".toList =
      some ("a\x22 b\x22\x22", []) := by
  decide +kernel
example : readText? "\x27a\nb\x27".toList = none := by decide +kernel

end FeeOracle.Toml
