import FeeOracle.Power

/-!
# Reading UTF-8

The characters that a list of bytes encodes. Bytes that encode nothing become the replacement
character: one for each longest run that begins like a character and does not end like one, and one
for each byte that cannot begin a character.
-/

namespace FeeOracle.Text

/-- The character that stands for bytes that encode nothing. -/
def replacementChar : Char := '\ufffd'

/-- Is the byte between the two bounds? -/
def between (first last : Nat) (byte : UInt8) : Bool := first ≤ byte.toNat && byte.toNat ≤ last

/-- How many bytes continue a character that begins with this one, and the bounds of the first of
    them. None for a byte that begins no character of several bytes. -/
def continuation? (byte : UInt8) : Option (Nat × Nat × Nat) :=
  if between 0xC2 0xDF byte then some (1, 0x80, 0xBF)
  else if byte = 0xE0 then some (2, 0xA0, 0xBF)
  else if byte = 0xED then some (2, 0x80, 0x9F)
  else if between 0xE1 0xEF byte then some (2, 0x80, 0xBF)
  else if byte = 0xF0 then some (3, 0x90, 0xBF)
  else if between 0xF1 0xF3 byte then some (3, 0x80, 0xBF)
  else if byte = 0xF4 then some (3, 0x80, 0x8F)
  else none

/-- The bits that the first byte of a character of several bytes contributes. -/
def leadingBits (continuing : Nat) (byte : UInt8) : Nat := byte.toNat % 2 ^ (6 - continuing)

/-- Takes up to `wanted` continuing bytes, the first one within its bounds. The answer is the code
    so far, how many are missing, and what is left. -/
def takeContinuing (code : Nat) : Nat → Nat → Nat → List UInt8 → Nat × Nat × List UInt8
  | 0, _, _, bytes => (code, 0, bytes)
  | wanted + 1, _, _, [] => (code, wanted + 1, [])
  | wanted + 1, first, last, byte :: rest =>
    if between first last byte then
      takeContinuing (64 * code + byte.toNat % 64) wanted 0x80 0xBF rest
    else (code, wanted + 1, byte :: rest)

theorem takeContinuing_length_le (code wanted first last : Nat) (bytes : List UInt8) :
    (takeContinuing code wanted first last bytes).2.2.length ≤ bytes.length := by
  induction bytes generalizing code wanted first last with
  | nil => cases wanted <;> simp [takeContinuing]
  | cons byte rest ih =>
    cases wanted with
    | zero => simp [takeContinuing]
    | succ wanted =>
      simp only [takeContinuing]
      split
      · have := ih (64 * code + byte.toNat % 64) wanted 0x80 0xBF
        simp only [List.length_cons]
        omega
      · simp

/-- The characters that bytes encode; none stands for bytes that encode nothing. -/
def decodeChars (bytes : List UInt8) : List (Option Char) :=
  match bytes with
  | [] => []
  | byte :: rest =>
    if byte.toNat < 0x80 then some (Char.ofNat byte.toNat) :: decodeChars rest
    else
      match continuation? byte with
      | none => none :: decodeChars rest
      | some (wanted, first, last) =>
        let taken := takeContinuing (leadingBits wanted byte) wanted first last rest
        (if taken.2.1 = 0 then some (Char.ofNat taken.1) else none) :: decodeChars taken.2.2
termination_by bytes.length
decreasing_by
  · simp
  · simp
  · have := takeContinuing_length_le (leadingBits wanted byte) wanted first last rest
    simp only [List.length_cons]
    omega

/-- The text that bytes encode, with the replacement character for what is no text. -/
def decodeUtf8 (bytes : List UInt8) : String :=
  String.ofList ((decodeChars bytes).map (·.getD replacementChar))

/-- The text that bytes encode, if they encode one. -/
def decodeUtf8? (bytes : List UInt8) : Option String :=
  ((decodeChars bytes).mapM id).map String.ofList

/-- The bytes of a text. -/
def encodeUtf8 (text : String) : List UInt8 := text.toUTF8.toList

example : decodeUtf8 [0x61, 0xC3, 0xA9, 0xE2, 0x82, 0x61, 0xFF] = "aé\ufffda\ufffd" := by
  decide +kernel
example : decodeUtf8? [0xF0, 0x9F, 0x98, 0x80] = some "😀" := by decide +kernel
example : decodeUtf8? [0xED, 0xA0, 0x80] = none := by decide +kernel

end FeeOracle.Text
