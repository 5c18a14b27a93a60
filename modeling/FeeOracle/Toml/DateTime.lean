import FeeOracle.Datum.Basic
import FeeOracle.Text.Digits

/-!
# Dates and times in configurations

A date, a time of day, or both with an optional distance from universal time. They are checked
against the calendar and kept as written, in a table of their own, because nothing here computes
with them.
-/

namespace FeeOracle.Toml

open FeeOracle.Text (digitsValue)

/-- A number of exactly `count` digits within bounds. -/
def readField? (count least greatest : Nat) (cs : List Char) : Option (Nat × List Char) :=
  let digits := cs.take count
  let value := digitsValue digits
  if digits.length = count ∧ digits.all Char.isDigit ∧ least ≤ value ∧ value ≤ greatest then
    some (value, cs.drop count)
  else none

/-- Takes a given character. -/
def expect? (c : Char) : List Char → Option (List Char)
  | [] => none
  | d :: rest => if c = d then some rest else none

/-- The number of days in a month. -/
def daysIn (year month : Nat) : Nat :=
  if month = 2 then
    if year % 4 = 0 ∧ (year % 100 ≠ 0 ∨ year % 400 = 0) then 29 else 28
  else if month = 4 ∨ month = 6 ∨ month = 9 ∨ month = 11 then 30
  else 31

/-- What follows a date. -/
def skipDate? (cs : List Char) : Option (List Char) := do
  let (year, rest) ← readField? 4 0 9999 cs
  let rest ← expect? '-' rest
  let (month, rest) ← readField? 2 1 12 rest
  let rest ← expect? '-' rest
  let (_, rest) ← readField? 2 1 (daysIn year month) rest
  some rest

/-- What follows a fraction of a second, if there is one. -/
def skipSecondFraction (cs : List Char) : List Char :=
  match cs with
  | '.' :: c :: rest => if c.isDigit then rest.dropWhile Char.isDigit else cs
  | _ => cs

/-- What follows a time of day. A minute may have a leap second. -/
def skipTime? (cs : List Char) : Option (List Char) := do
  let (_, rest) ← readField? 2 0 23 cs
  let rest ← expect? ':' rest
  let (_, rest) ← readField? 2 0 59 rest
  let rest ← expect? ':' rest
  let (_, rest) ← readField? 2 0 60 rest
  some (skipSecondFraction rest)

/-- What follows hours and minutes. -/
def skipDistance? (cs : List Char) : Option (List Char) := do
  let (_, rest) ← readField? 2 0 23 cs
  let rest ← expect? ':' rest
  let (_, rest) ← readField? 2 0 59 rest
  some rest

/-- What follows a distance from universal time, if there is one. -/
def skipOffset? (cs : List Char) : Option (List Char) :=
  match cs with
  | 'Z' :: rest => some rest
  | 'z' :: rest => some rest
  | '+' :: rest => skipDistance? rest
  | '-' :: rest => skipDistance? rest
  | _ => some cs

/-- What follows a date, and the time of day if one is there. -/
def skipDateTime? (cs : List Char) : Option (List Char) := do
  let rest ← skipDate? cs
  match rest with
  | mark :: next :: _ =>
    if mark = 'T' ∨ mark = 't' ∨ (mark = ' ' ∧ next.isDigit) then
      let rest ← skipTime? (rest.drop 1)
      skipOffset? rest
    else some rest
  | _ => some rest

/-- Is there a run of digits of this length, and the given character behind it? -/
def startsField (count : Nat) (mark : Char) (cs : List Char) : Bool :=
  (cs.take count).length == count && (cs.take count).all Char.isDigit && cs[count]? == some mark

/-- Does a date or a time of day begin here? -/
def startsDateTime (cs : List Char) : Bool := startsField 4 '-' cs || startsField 2 ':' cs

/-- The name under which a date or a time is kept. -/
def dateTimeName : String := "date-time"

/-- A date, a time, or both, kept as it is written. -/
def readDateTime? (cs : List Char) : Option (Datum × List Char) := do
  let rest ← if startsField 4 '-' cs then skipDateTime? cs else skipTime? cs
  let written := String.ofList (cs.take (cs.length - rest.length))
  some (.table [(dateTimeName, .text written)], rest)

end FeeOracle.Toml
