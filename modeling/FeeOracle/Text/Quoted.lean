import FeeOracle.Text.PrintableTable

/-!
# Quoted text

A text between quotation marks, with escapes for everything that would not be seen: the quotation
mark and the backslash, controls, characters without a visible form, and characters that attach to
the one before them.
-/

namespace FeeOracle.Text

/-- The code point of a character between braces. -/
def codeEscape (c : Char) : List Char :=
  ['\\', 'u', '\x7b'] ++ Nat.toDigits 16 c.toNat ++ ['\x7d']

/-- Does the character have no visible form of its own? -/
def isInvisible (c : Char) : Bool := within graphemeExtendRanges c || within invisibleRanges c

/-- A character as it stands inside quotation marks. -/
def quoteChar (c : Char) : List Char :=
  if c = '\x00' then ['\\', '0']
  else if c = '\t' then ['\\', 't']
  else if c = '\r' then ['\\', 'r']
  else if c = '\n' then ['\\', 'n']
  else if c = '\\' ∨ c = '\x22' then ['\\', c]
  else if isInvisible c then codeEscape c
  else [c]

/-- The text between quotation marks. -/
def quote (text : String) : String :=
  String.ofList ('\x22' :: text.toList.flatMap quoteChar ++ ['\x22'])

example : quote "a\x22b\u0301" = "\x22a\\\x22b\\u\x7b301\x7d\x22" := by decide +kernel
example : quote "\x1f é" = "\x22\\u\x7b1f\x7d é\x22" := by decide +kernel

end FeeOracle.Text
