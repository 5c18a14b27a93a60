import FeeOracle.Http.Percent
import FeeOracle.Power

/-!
# Hosts

The host of an address is a name, the number of a host in four parts, or one of eight pieces between
brackets. Numbers may be written in many ways and are always shown in the same way. What ends like a
number is no name. Hosts consist of ASCII characters: a name of other characters is not read.
-/

namespace FeeOracle.Http.Host

open Text

/-- May the character stand in the name of a host? -/
def isHostChar (c : Char) : Bool :=
  0x20 < c.toNat && c.toNat < 0x7F &&
    !(['#', '%', '/', ':', '<', '>', '?', '@', '[', '\\', ']', '^', '|'].contains c)

/-- The number that digits of a base write, the base being at most sixteen. -/
def valueIn? (base : Nat) (cs : List Char) : Option Nat :=
  cs.foldlM (fun value c => (hexValue? c).bind fun digit =>
    if digit < base then some (base * value + digit) else none) 0

/-! ### Numbers in four parts -/

/-- The number that one part writes. How it begins tells the base. -/
def partValue? : List Char → Option Nat
  | [] => none
  | '0' :: 'x' :: digits => valueIn? 16 digits
  | '0' :: 'X' :: digits => valueIn? 16 digits
  | '0' :: digit :: digits => valueIn? 8 (digit :: digits)
  | digits => valueIn? 10 digits

/-- The parts between the points. A single point at the end does not begin another part. -/
def parts (name : List Char) : List (List Char) :=
  let written := name.splitOn '.'
  if written.getLast? = some [] then written.dropLast else written

/-- Does the name end like a number? -/
def endsInNumber (name : List Char) : Bool :=
  match (parts name).getLast? with
  | some part => (part != [] && part.all Char.isDigit) || (partValue? part).isSome
  | none => false

/-- The number of a host that parts write. The last of up to four parts stands for all bytes that
    are left. -/
def number? (name : List Char) : Option Nat := do
  let values ← (parts name).mapM partValue?
  match values.reverse with
  | last :: before =>
    if before.length < 4 ∧ before.all (· < 0x100) ∧ last < 0x100 ^ (4 - before.length) then
      some (before.reverse.foldr (fun value rest => value * 0x1000000 + rest / 0x100) 0 + last)
    else none
  | [] => none

/-- The number of a host, byte by byte. -/
def numberText (number : Nat) : List Char :=
  List.intercalate ['.'] ([0x1000000, 0x10000, 0x100, 1].map fun unit =>
    Nat.toDigits 10 (number / unit % 0x100))

/-- The host that a name is. -/
def ofName? (name : List Char) : Option (List Char) :=
  if name = [] ∨ !name.all isHostChar then none
  else
    let name := name.map Char.toLower
    if endsInNumber name then (number? name).map numberText else some name

/-! ### Numbers in eight pieces -/

/-- The number that one piece writes in up to four hexadecimal digits. -/
def pieceValue? (cs : List Char) : Option Nat :=
  if cs ≠ [] ∧ cs.length ≤ 4 then valueIn? 16 cs else none

/-- The two pieces that four bytes write: each in decimal and without a superfluous zero. -/
def bytePieces? (cs : List Char) : Option (List Nat) := do
  let bytes ← (cs.splitOn '.').mapM fun digits =>
    if digits ≠ [] ∧ digits.all Char.isDigit ∧ (digits.head? = some '0' → digits.length = 1) ∧
      digitsValue digits < 0x100 then some (digitsValue digits) else none
  match bytes with
  | [a, b, c, d] => some [0x100 * a + b, 0x100 * c + d]
  | _ => none

/-- The pieces at the end of an address. The last one may be two, written as four bytes. -/
def lastPieces? : List (List Char) → Option (List Nat)
  | [] => some []
  | [last] => if last.contains '.' then bytePieces? last else (pieceValue? last).map ([·])
  | piece :: rest => do
    let value ← pieceValue? piece
    let values ← lastPieces? rest
    some (value :: values)

/-- The characters in front of the first two colons and those behind them. -/
def cutAtGap? : List Char → Option (List Char × List Char)
  | ':' :: ':' :: rest => some ([], rest)
  | c :: rest => (cutAtGap? rest).map fun (before, after) => (c :: before, after)
  | [] => none

/-- What colons separate. -/
def pieces (cs : List Char) : List (List Char) := if cs = [] then [] else cs.splitOn ':'

/-- The eight pieces that the characters between brackets write. Two colons stand for zeros. -/
def ofBrackets? (cs : List Char) : Option (List Nat) :=
  match cutAtGap? cs with
  | none => do
    let values ← lastPieces? (pieces cs)
    if values.length = 8 then some values else none
  | some (before, after) => do
    let first ← (pieces before).mapM pieceValue?
    let last ← lastPieces? (pieces after)
    if first.length + last.length < 8 then
      some (first ++ List.replicate (8 - first.length - last.length) 0 ++ last)
    else none

/-- The number of zeros from a piece on. -/
def zerosFrom (values : List Nat) (place : Nat) : Nat :=
  ((values.drop place).takeWhile (· = 0)).length

/-- Where the longest run of zeros begins, the first of those that are equally long. -/
def longestZeros (values : List Nat) : Nat :=
  (List.range values.length).foldl
    (fun best place => if zerosFrom values best < zerosFrom values place then place else best) 0

/-- Pieces with colons between them. -/
def joined (values : List Nat) : List Char :=
  List.intercalate [':'] (values.map (Nat.toDigits 16))

/-- The eight pieces of a host between brackets. The longest run of zeros is left out unless it is a
    single one. -/
def piecesText (values : List Nat) : List Char :=
  let place := longestZeros values
  let count := zerosFrom values place
  let shown :=
    if count < 2 then joined values
    else joined (values.take place) ++ "::".toList ++ joined (values.drop (place + count))
  '[' :: shown ++ [']']

example : (ofName? "0x7F.1".toList).map String.ofList = some "127.0.0.1" := by decide +kernel
example : ofName? "1.2.3.4.5".toList = none := by decide +kernel
example : (ofBrackets? "1:0::FfFf:10.0.0.1".toList).map (String.ofList ∘ piecesText) =
    some "[1::ffff:a00:1]" := by decide +kernel

end FeeOracle.Http.Host
