import FeeOracle.Text.CodeRange
import FeeOracle.Text.LowercaseTable

/-!
# Lowercase

The full lowercase mapping. It looks at neighbours in one case only: a capital sigma that ends a
word becomes the final form of the letter.
-/

namespace FeeOracle.Text

/-- The lowercase letters of a character, wherever it stands. -/
def lowercaseChar (c : Char) : List Char := mapCase lowercaseExpansions lowercaseRuns c

/-- Past the characters that casing looks through, does a letter with case come first? -/
def meetsCased (cs : List Char) : Bool :=
  match cs.dropWhile (within caseIgnorableRanges) with
  | [] => false
  | c :: _ => within casedRanges c

/-- The lowercase letters of characters, given those before them, nearest first. A sigma at the end
    of a word has a form of its own. -/
def lowercaseChars (before : List Char) : List Char → List Char
  | [] => []
  | c :: rest =>
    let mapped :=
      if c = 'Σ' then [if meetsCased before && !meetsCased rest then 'ς' else 'σ']
        else lowercaseChar c
    mapped ++ lowercaseChars (c :: before) rest

/-- The text in lower case. -/
def lowercase (text : String) : String := String.ofList (lowercaseChars [] text.toList)

example : lowercase "ΟΔΟΣ ΣΑΣ" = "οδος σας" := by decide +kernel
example : lowercase "BTCUSD" = "btcusd" := by decide +kernel

end FeeOracle.Text
