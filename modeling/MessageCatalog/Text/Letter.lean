import MessageCatalog.Text.Category

/-! # Letters of identifiers

An identifier starts with an underscore or a character of the property XID_Start and goes on
with characters of XID_Continue.  Both properties follow from the general categories but for
the exceptions listed here.
-/

namespace MessageCatalog.Text

/-- Characters that start an identifier whatever their category. -/
def wordStartExtra : Ranges := .ofRows ["1885-1886 2118 212e"]

/-- Letters that do not start an identifier, because a normal form of theirs does not. -/
def wordStartExcluded : Ranges := .ofRows [
  "37a e33 eb3 2e2f 309b-309c fc5e-fc63 fdfa-fdfb fe70 fe72 fe74 fe76 fe78 fe7a fe7c fe7e",
  "ff9e-ff9f"]

/-- Characters that continue an identifier whatever their category. -/
def wordPartExtra : Ranges := .ofRows ["b7 387 e33 eb3 1369-1371 19da ff9e-ff9f"]

/-- A letter, or a number written as one. -/
def isLetter (c : Char) : Bool :=
  [Category.upperLetter, .lowerLetter, .titleLetter, .modifierLetter, .otherLetter,
    .letterNumber].any (·.contains c)

/-- The character starts an identifier. -/
def isWordStart (c : Char) : Bool :=
  if c.toNat < 0x80 then c.isAlpha || c == '_'
  else (isLetter c || wordStartExtra.contains c) && !wordStartExcluded.contains c

/-- The character continues an identifier. -/
def isWordPart (c : Char) : Bool :=
  if c.toNat < 0x80 then c.isAlphanum || c == '_'
  else isWordStart c || wordPartExtra.contains c ||
    [Category.nonspacingMark, .spacingMark, .decimalDigit, .connector].any (·.contains c)

end MessageCatalog.Text
