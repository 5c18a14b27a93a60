import FeeOracle.Text.Utf8

/-!
# Character encodings

The encodings that a reply can name and that are read here. A byte order mark in front is not part
of the text, and settles the encoding whatever was named.
-/

namespace FeeOracle.Text

/-- An encoding of text as bytes. -/
inductive Charset
  | utf8
  | utf16le
  | utf16be
  | windows1252
deriving DecidableEq, Repr

/-- The characters of the bytes from `0x80` to `0x9F` in the encoding `windows1252`. -/
def windows1252High : List Nat :=
  [0x20AC, 0x81, 0x201A, 0x0192, 0x201E, 0x2026, 0x2020, 0x2021, 0x02C6, 0x2030, 0x0160, 0x2039,
   0x0152, 0x8D, 0x017D, 0x8F, 0x90, 0x2018, 0x2019, 0x201C, 0x201D, 0x2022, 0x2013, 0x2014, 0x02DC,
   0x2122, 0x0161, 0x203A, 0x0153, 0x9D, 0x017E, 0x0178]

/-- The character of a byte in the encoding `windows1252`. -/
def windows1252Char (byte : UInt8) : Char :=
  if between 0x80 0x9F byte then Char.ofNat (windows1252High.getD (byte.toNat - 0x80) 0xFFFD)
  else Char.ofNat byte.toNat

/-- Does a code unit begin a character of two units? -/
def isLeadUnit (unit : Nat) : Bool := 0xD800 ≤ unit && unit < 0xDC00

/-- Does a code unit end a character of two units? -/
def isTrailUnit (unit : Nat) : Bool := 0xDC00 ≤ unit && unit < 0xE000

/-- The code units that pairs of bytes are; `unitOf` is the unit of two bytes. -/
def codeUnits (unitOf : UInt8 → UInt8 → Nat) : List UInt8 → List Nat
  | a :: b :: rest => unitOf a b :: codeUnits unitOf rest
  | _ => []

/-- The characters that code units encode, after the half of a character or not. What encodes
    nothing is a half on its own, and a byte that is `left` behind all units. -/
def decodeUnits (left : Bool) : Option Nat → List Nat → List Char
  | half, [] => if half.isSome || left then [replacementChar] else []
  | none, unit :: rest =>
    if isLeadUnit unit then decodeUnits left (some unit) rest
    else if isTrailUnit unit then replacementChar :: decodeUnits left none rest
    else Char.ofNat unit :: decodeUnits left none rest
  | some lead, unit :: rest =>
    if isTrailUnit unit then
      Char.ofNat (0x10000 + 0x400 * (lead - 0xD800) + (unit - 0xDC00)) ::
        decodeUnits left none rest
    else if isLeadUnit unit then replacementChar :: decodeUnits left (some unit) rest
    else replacementChar :: Char.ofNat unit :: decodeUnits left none rest

/-- The text that bytes encode by two for each unit. -/
def decodeUtf16 (unitOf : UInt8 → UInt8 → Nat) (bytes : List UInt8) : String :=
  String.ofList (decodeUnits (bytes.length % 2 == 1) none (codeUnits unitOf bytes))

/-- The encoding that a byte order mark tells of, and the bytes behind the mark. -/
def markedCharset? : List UInt8 → Option (Charset × List UInt8)
  | 0xEF :: 0xBB :: 0xBF :: rest => some (.utf8, rest)
  | 0xFF :: 0xFE :: rest => some (.utf16le, rest)
  | 0xFE :: 0xFF :: rest => some (.utf16be, rest)
  | _ => none

/-- The text that bytes without a mark encode. -/
def Charset.decodeUnmarked (charset : Charset) (bytes : List UInt8) : String :=
  match charset with
  | utf8 => decodeUtf8 bytes
  | utf16le => decodeUtf16 (fun a b => a.toNat + 0x100 * b.toNat) bytes
  | utf16be => decodeUtf16 (fun a b => 0x100 * a.toNat + b.toNat) bytes
  | windows1252 => String.ofList (bytes.map windows1252Char)

/-- The text that bytes encode. -/
def Charset.decode (charset : Charset) (bytes : List UInt8) : String :=
  match markedCharset? bytes with
  | some (marked, rest) => marked.decodeUnmarked rest
  | none => charset.decodeUnmarked bytes

/-- The encodings by their names, in either case and with blanks around them. -/
def Charset.ofName? (name : String) : Option Charset :=
  let isBlank := fun (c : Char) => c == ' '
  let trimmed := ((name.toList.dropWhile isBlank).reverse.dropWhile isBlank).reverse
  match String.ofList (trimmed.map Char.toLower) with
  | "utf-8" | "utf8" | "unicode-1-1-utf-8" | "unicode11utf8" | "unicode20utf8"
  | "x-unicode20utf8" => some utf8
  | "utf-16" | "utf-16le" | "csunicode" | "iso-10646-ucs-2" | "ucs-2" | "unicode"
  | "unicodefeff" => some utf16le
  | "utf-16be" | "unicodefffe" => some utf16be
  | "windows-1252" | "iso-8859-1" | "iso8859-1" | "iso_8859-1" | "iso88591" | "latin1" | "l1"
  | "us-ascii" | "ascii" | "ansi_x3.4-1968" | "cp1252" | "x-cp1252" | "cp819" | "ibm819"
  | "csisolatin1" | "iso-ir-100" | "iso_8859-1:1987" => some windows1252
  | _ => none

example : Charset.windows1252.decode [0x80, 0xE9] = "€é" := by decide +kernel
example : Charset.windows1252.decode [0xEF, 0xBB, 0xBF, 0x61] = "a" := by decide +kernel
example : Charset.utf16be.decode [0xD8, 0x3D, 0xDE, 0x00, 0xDC, 0x00, 0x61] = "😀\ufffd\ufffd" := by
  decide +kernel

end FeeOracle.Text
