/-!
# Digits

The values of digits and of runs of digits, and the reading of plain natural numbers.
-/

namespace FeeOracle.Text

/-- The value of a decimal digit. -/
def digitValue (c : Char) : Nat := c.toNat - '0'.toNat

/-- The number that a list of decimal digits writes. -/
def digitsValue (cs : List Char) : Nat := cs.foldl (fun n c => 10 * n + digitValue c) 0

/-- The value of a hexadecimal digit of either case. -/
def hexValue? (c : Char) : Option Nat :=
  if c.isDigit then some (digitValue c)
  else if 'a' ≤ c ∧ c ≤ 'f' then some (c.toNat - 'a'.toNat + 10)
  else if 'A' ≤ c ∧ c ≤ 'F' then some (c.toNat - 'A'.toNat + 10)
  else none

/-- The number that hexadecimal digits write; a character that is no such digit spoils it. -/
def hexDigitsValue? (cs : List Char) : Option Nat :=
  cs.foldlM (fun n c => (hexValue? c).map (16 * n + ·)) 0

/-- A natural number below `bound`: digits, with at most a plus sign in front. -/
def readNatBelow? (bound : Nat) (cs : List Char) : Option Nat :=
  let digits := match cs with
    | '+' :: rest => rest
    | _ => cs
  if digits ≠ [] ∧ digits.all Char.isDigit ∧
    digitsValue digits < bound then some (digitsValue digits)
  else none

theorem digitValue_le {c : Char} (h : c.isDigit = true) : digitValue c ≤ 9 := by
  simp only [Char.isDigit, Bool.and_eq_true, decide_eq_true_eq] at h
  have : c.toNat ≤ '9'.toNat := h.2
  simp only [digitValue, Char.reduceToNat] at *
  omega

example : readNatBelow? 256 "+042".toList = some 42 := by decide +kernel
example : readNatBelow? 256 "256".toList = none := by decide +kernel
example : hexDigitsValue? "fF".toList = some 255 := by decide +kernel

end FeeOracle.Text
