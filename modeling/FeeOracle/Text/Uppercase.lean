import FeeOracle.Text.UppercaseTable

/-!
# Uppercase

The full uppercase mapping: one letter may become several (`ß` becomes `SS`), and a character
without an uppercase form stays as it is. No character's mapping depends on its neighbours.
-/

namespace FeeOracle.Text

/-- The uppercase letters of a character. -/
def uppercaseChar (c : Char) : List Char := mapCase uppercaseExpansions uppercaseRuns c

/-- The text in upper case. -/
def uppercase (text : String) : String := String.ofList (text.toList.flatMap uppercaseChar)

example : uppercase "straße" = "STRASSE" := by decide +kernel
example : uppercase "ǆŉ1" = "Ǆ\u02bcN1" := by decide +kernel

end FeeOracle.Text
