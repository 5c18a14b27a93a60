import FeeOracle.Text.Digits
import FeeOracle.Text.Utf8

/-!
# Percent-encoding

A byte that may not stand for itself is written as a percent sign and two hexadecimal digits.
Characters are encoded as the bytes of their UTF-8 form.
-/

namespace FeeOracle.Http

open Text

/-- The escape of a byte. -/
def escapeByte (byte : UInt8) : List Char :=
  let digit (n : Nat) : Char := (Nat.digitChar n).toUpper
  ['%', digit (byte.toNat / 16), digit (byte.toNat % 16)]

/-- The characters with those that may not stand for themselves escaped. -/
def percentEncode (isKept : Char → Bool) (cs : List Char) : List Char :=
  cs.flatMap fun c => if isKept c then [c] else (encodeUtf8 (String.singleton c)).flatMap escapeByte

/-- The bytes that characters write. A percent sign without two hexadecimal digits stands for
    itself. -/
def percentDecode : List Char → List UInt8
  | [] => []
  | '%' :: a :: b :: rest =>
    match hexDigitsValue? [a, b] with
    | some value => UInt8.ofNat value :: percentDecode rest
    | none => '%'.toNat.toUInt8 :: percentDecode (a :: b :: rest)
  | c :: rest => encodeUtf8 (String.singleton c) ++ percentDecode rest

/-- May the character stand for itself in a path? -/
def isPathChar (c : Char) : Bool :=
  0x20 < c.toNat && c.toNat < 0x7F &&
    !(['\x22', '#', '<', '>', '?', '\x60', '\x7b', '\x7d'].contains c)

/-- May the character stand for itself in the query of an address? -/
def isQueryChar (c : Char) : Bool :=
  0x20 < c.toNat && c.toNat < 0x7F && !(['\x22', '#', '<', '>', '\x27'].contains c)

/-- May the character stand for itself in a form? -/
def isFormChar (c : Char) : Bool := c.isAlphanum || ['*', '-', '.', '_'].contains c

/-- A text in a form: a blank is a plus sign. -/
def formEncode (text : String) : List Char :=
  text.toList.flatMap fun c => if c = ' ' then ['+'] else percentEncode isFormChar [c]

/-- Names and values in a form. -/
def formText (pairs : List (String × String)) : List Char :=
  List.intercalate ['&'] (pairs.map fun (name, value) => formEncode name ++ '=' :: formEncode value)

example :
    String.ofList (formText [("pair", "XBT USD"), ("a", "é&")]) = "pair=XBT+USD&a=%C3%A9%26" := by
  decide +kernel
example : percentDecode "a%2Fb%zz".toList = [0x61, 0x2F, 0x62, 0x25, 0x7A, 0x7A] := by
  decide +kernel

end FeeOracle.Http
