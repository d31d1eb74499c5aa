import MessageCatalog.Text.Folding
import MessageCatalog.Text.Letter
import MessageCatalog.Text.Property
import MessageCatalog.Text.Script

/-! # Sets of characters in patterns

A set of characters is the test for membership.  Besides the set operations there are the sets
that patterns name: the classes of one letter (`d`, `s`, `w`), the classes written `[:name:]`,
and the Unicode properties.
-/

namespace MessageCatalog.Exclusion

/-- A set of characters. -/
abbrev CharSet := Char → Bool

namespace CharSet

/-- No character. -/
def none : CharSet := fun _ => false

/-- Every character. -/
def all : CharSet := fun _ => true

/-- One character. -/
def single (c : Char) : CharSet := fun d => d == c

/-- The characters between two, ends included. -/
def between (a b : Char) : CharSet := fun c => a ≤ c && c ≤ b

def union (s t : CharSet) : CharSet := fun c => s c || t c

def inter (s t : CharSet) : CharSet := fun c => s c && t c

def diff (s t : CharSet) : CharSet := fun c => s c && !t c

def symmDiff (s t : CharSet) : CharSet := fun c => s c != t c

def compl (s : CharSet) : CharSet := fun c => !s c

/-- The set with the other cases of its characters. -/
def caseClosed (s : CharSet) : CharSet := fun c => (Text.caseVariants c).any s

/-- The set with the other cases of its ASCII letters. -/
def asciiCaseClosed (s : CharSet) : CharSet := fun c => s c || s c.toUpper || s c.toLower

/-- The set has only ASCII characters among those of one byte. -/
def isAscii (s : CharSet) : Bool :=
  (List.range 0x80).all fun n => !s (Char.ofNat (0x80 + n))

/-! ### Classes of one letter -/

/-- The decimal digits. -/
def digit : CharSet := Text.Category.decimalDigit.contains

/-- White space. -/
def blank : CharSet := Text.isBlank

/-- The characters of words. -/
def word : CharSet := Text.isWordCharacter

/-- The ASCII decimal digits. -/
def asciiDigit : CharSet := between '0' '9'

/-- The ASCII white space. -/
def asciiBlank : CharSet := fun c => c == ' ' || between '\t' '\r' c

/-- The ASCII characters of words. -/
def asciiWord : CharSet := fun c => c.isAlphanum || c == '_'

/-! ### Classes in brackets -/

/-- The ASCII class of a name. -/
def ascii? (name : String) : Option CharSet :=
  match name with
  | "alnum" => some Char.isAlphanum
  | "alpha" => some Char.isAlpha
  | "ascii" => some fun c => c.toNat < 0x80
  | "blank" => some fun c => c == ' ' || c == '\t'
  | "cntrl" => some fun c => c.toNat < 0x20 || c.toNat == 0x7f
  | "digit" => some asciiDigit
  | "graph" => some (between '!' '~')
  | "lower" => some (between 'a' 'z')
  | "print" => some (between ' ' '~')
  | "punct" => some fun c => between '!' '~' c && !c.isAlphanum
  | "space" => some asciiBlank
  | "upper" => some (between 'A' 'Z')
  | "word" => some asciiWord
  | "xdigit" => some fun c => (Text.digit? 16 c).isSome
  | _ => Option.none

/-! ### Properties -/

/-- The form in which names of properties are compared: lower case, without blanks, hyphens and
underscores, and without a leading `is`. -/
def normalName (name : String) : String :=
  let fold (cs : List Char) := String.ofList <|
    (cs.filter fun c => c.toNat < 0x80 && c != ' ' && c != '_' && c != '-').map Char.toLower
  match name.toList with
  | a :: b :: rest =>
    if a.toLower == 'i' && b.toLower == 's' then
      let folded := fold rest
      if folded == "c" then "isc" else folded
    else fold (a :: b :: rest)
  | cs => fold cs

/-- The names of the general categories and of groups of them. -/
def categoryNames : List (List String × List Text.Category) := [
  (["lu", "uppercaseletter"], [.upperLetter]),
  (["ll", "lowercaseletter"], [.lowerLetter]),
  (["lt", "titlecaseletter"], [.titleLetter]),
  (["lm", "modifierletter"], [.modifierLetter]),
  (["lo", "otherletter"], [.otherLetter]),
  (["lc", "casedletter"], [.upperLetter, .lowerLetter, .titleLetter]),
  (["l", "letter"], [.upperLetter, .lowerLetter, .titleLetter, .modifierLetter, .otherLetter]),
  (["mn", "nonspacingmark"], [.nonspacingMark]),
  (["mc", "spacingmark"], [.spacingMark]),
  (["me", "enclosingmark"], [.enclosingMark]),
  (["m", "mark", "combiningmark"], [.nonspacingMark, .spacingMark, .enclosingMark]),
  (["nd", "decimalnumber", "digit"], [.decimalDigit]),
  (["nl", "letternumber"], [.letterNumber]),
  (["no", "othernumber"], [.otherNumber]),
  (["n", "number"], [.decimalDigit, .letterNumber, .otherNumber]),
  (["pc", "connectorpunctuation"], [.connector]),
  (["pd", "dashpunctuation"], [.dash]),
  (["ps", "openpunctuation"], [.opening]),
  (["pe", "closepunctuation"], [.closing]),
  (["pi", "initialpunctuation"], [.initialQuote]),
  (["pf", "finalpunctuation"], [.finalQuote]),
  (["po", "otherpunctuation"], [.otherPunctuation]),
  (["p", "punctuation", "punct"], [.connector, .dash, .opening, .closing, .initialQuote,
    .finalQuote, .otherPunctuation]),
  (["sm", "mathsymbol"], [.mathSymbol]),
  (["sc", "currencysymbol"], [.currencySymbol]),
  (["sk", "modifiersymbol"], [.modifierSymbol]),
  (["so", "othersymbol"], [.otherSymbol]),
  (["s", "symbol"], [.mathSymbol, .currencySymbol, .modifierSymbol, .otherSymbol]),
  (["zs", "spaceseparator"], [.spaceSeparator]),
  (["zl", "lineseparator"], [.lineSeparator]),
  (["zp", "paragraphseparator"], [.paragraphSeparator]),
  (["z", "separator"], [.spaceSeparator, .lineSeparator, .paragraphSeparator]),
  (["cc", "control", "cntrl"], [.control]),
  (["cf", "format"], [.format]),
  (["co", "privateuse"], [.privateUse]),
  (["cn", "unassigned"], [.unassigned]),
  (["c", "other"], [.control, .format, .privateUse, .unassigned])]

/-- The set of a general category, by its normal name. -/
def category? (name : String) : Option CharSet :=
  match name with
  | "any" => some all
  | "ascii" => some fun c => c.toNat < 0x80
  | "assigned" => some fun c => !Text.Category.unassigned.contains c
  | _ => (categoryNames.find? (·.1.contains name)).map fun (_, ks) => Text.isOneOf ks

/-- The characters that may start an identifier. -/
def identifierStart : CharSet := fun c =>
  (Text.isLetter c && c.toNat != 0x2e2f) || Text.wordStartExtra.contains c ||
    c.toNat == 0x309b || c.toNat == 0x309c

/-- Joiners and middle dots, which may stand inside an identifier. -/
def middleDots : List Nat := [0x200c, 0x200d, 0x30fb, 0xff65]

/-- The characters that may continue an identifier. -/
def identifierPart : CharSet := fun c =>
  identifierStart c || Text.wordPartExtra.contains c ||
    middleDots.contains c.toNat ||
    Text.isOneOf [.nonspacingMark, .spacingMark, .decimalDigit, .connector] c

/-- The names of the properties that a character has or has not. -/
def binaryNames : List (List String × CharSet) := [
  (["alphabetic", "alpha"], Text.isAlphabetic),
  (["lowercase", "lower"], Text.isLowercase),
  (["uppercase", "upper"], Text.isUppercase),
  (["whitespace", "wspace", "space"], Text.isBlank),
  (["cased"], Text.isCased),
  (["dash"], Text.dashMarkTable.contains),
  (["diacritic", "dia"], Text.diacriticTable.contains),
  (["emoji"], Text.emojiTable.contains),
  (["emojipresentation", "epres"], Text.emojiPresentationTable.contains),
  (["emojimodifier", "emod"], fun c => 0x1f3fb ≤ c.toNat && c.toNat ≤ 0x1f3ff),
  (["extendedpictographic", "extpict"], Text.pictographTable.contains),
  (["asciihexdigit", "ahex"], fun c => (Text.digit? 16 c).isSome),
  (["hexdigit", "hex"], Text.hexDigitTable.contains),
  (["idstart", "ids"], identifierStart),
  (["idcontinue", "idc"], identifierPart),
  (["xidstart", "xids"], fun c => Text.isWordStart c && c != '_'),
  (["xidcontinue", "xidc"], fun c => Text.isWordPart c || middleDots.contains c.toNat),
  (["ideographic", "ideo"], Text.ideographTable.contains),
  (["math"], fun c => Text.Category.mathSymbol.contains c || Text.mathExtra.contains c),
  (["noncharactercodepoint", "nchar"], fun c =>
    c.toNat % 0x10000 ≥ 0xfffe || (0xfdd0 ≤ c.toNat && c.toNat ≤ 0xfdef)),
  (["quotationmark", "qmark"], Text.quotationMarkTable.contains),
  (["regionalindicator", "ri"], fun c => 0x1f1e6 ≤ c.toNat && c.toNat ≤ 0x1f1ff),
  (["unifiedideograph", "uideo"], Text.unifiedIdeographTable.contains),
  (["variationselector", "vs"], Text.variationSelectorTable.contains),
  (["radical"], Text.radicalTable.contains),
  (["joincontrol", "joinc"], fun c => c.toNat == 0x200c || c.toNat == 0x200d),
  (["graphemeextend", "grext"], Text.isGraphemeExtender)]

/-- The set of a script, by its normal name. -/
def script? (name : String) : Option CharSet := (Text.script? name).map (·.contains)

/-- The set of a property: one of a character, a general category or a script. -/
def property? (name : String) : Option CharSet :=
  let n := normalName name
  match binaryNames.find? (·.1.contains n) with
  | some (_, s) => some s
  | Option.none => (category? n).or (script? n)

/-- The set of a property with a value; the extended scripts of a character are taken to be its
script. -/
def propertyValue? (name value : String) : Option CharSet :=
  let v := normalName value
  match normalName name with
  | "gc" | "generalcategory" => category? v
  | "sc" | "script" | "scx" | "scriptextensions" => script? v
  | _ => Option.none

end CharSet

end MessageCatalog.Exclusion
