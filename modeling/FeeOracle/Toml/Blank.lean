/-!
# Between the parts of a configuration text

Blanks, comments and line ends. A comment runs to the end of its line and holds no control
characters but the tab; a line ends with a line feed, with or without a carriage return, or with the
text.
-/

namespace FeeOracle.Toml

/-- Is the character a blank within a line? -/
def isBlank (c : Char) : Bool := c == ' ' || c == '\t'

/-- May the character stand in a comment or a text? Controls other than the tab may not. -/
def isPrintable (c : Char) : Bool := c == '\t' || (0x20 ≤ c.toNat && c.toNat != 0x7F)

/-- What follows the blanks. -/
def skipBlanks (cs : List Char) : List Char := cs.dropWhile isBlank

/-- What follows a line end. -/
def newline? : List Char → Option (List Char)
  | '\n' :: rest => some rest
  | '\r' :: '\n' :: rest => some rest
  | _ => none

/-- What follows a comment, if there is one. -/
def skipComment : List Char → List Char
  | '#' :: rest => rest.dropWhile isPrintable
  | cs => cs

/-- What follows the end of a line, before which only blanks and a comment may stand. -/
def endLine? (cs : List Char) : Option (List Char) :=
  match skipComment (skipBlanks cs) with
  | [] => some []
  | rest => newline? rest

/-- What follows blanks, comments and line ends. -/
def skipFiller (inComment : Bool) : List Char → List Char
  | [] => []
  | '\n' :: rest => skipFiller false rest
  | '\r' :: '\n' :: rest => skipFiller false rest
  | c :: rest =>
    if inComment then if isPrintable c then skipFiller true rest else c :: rest
    else if c = '#' then skipFiller true rest
    else if isBlank c then skipFiller false rest
    else c :: rest

end FeeOracle.Toml
