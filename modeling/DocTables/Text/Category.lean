/-
# General categories of characters

Every character has one general category: it is a letter, a mark, a number, punctuation, a symbol, a
separator or none of these.  A word is made of alphabetic characters, marks, decimal digits,
connectors and joiners.
-/
import DocTables.Text.Category.Ranges
import DocTables.Text.Ranges

namespace DocTables.Text

/-- The general category of a character. -/
inductive Category where
  | uppercaseLetter
  | lowercaseLetter
  | titlecaseLetter
  | modifierLetter
  | otherLetter
  | nonspacingMark
  | spacingMark
  | enclosingMark
  | decimalDigit
  | letterNumber
  | otherNumber
  | connector
  | dash
  | opening
  | closing
  | initialQuote
  | finalQuote
  | otherPunctuation
  | mathSymbol
  | currencySymbol
  | modifierSymbol
  | otherSymbol
  | space
  | lineSeparator
  | paragraphSeparator
  | control
  | format
  | privateUse
  | unassigned
deriving Repr, DecidableEq

namespace Category

/-- The assigned categories and their ranges. -/
def table : List (Category × Ranges) :=
  [(lowercaseLetter, rangesOfText lowercaseLetterRanges),
   (uppercaseLetter, rangesOfText uppercaseLetterRanges),
   (decimalDigit, rangesOfText decimalDigitRanges),
   (titlecaseLetter, rangesOfText titlecaseLetterRanges),
   (modifierLetter, rangesOfText modifierLetterRanges),
   (otherLetter, rangesOfText otherLetterRanges),
   (nonspacingMark, rangesOfText nonspacingMarkRanges),
   (spacingMark, rangesOfText spacingMarkRanges),
   (enclosingMark, rangesOfText enclosingMarkRanges),
   (letterNumber, rangesOfText letterNumberRanges),
   (otherNumber, rangesOfText otherNumberRanges),
   (connector, rangesOfText connectorRanges),
   (dash, rangesOfText dashRanges),
   (opening, rangesOfText openingRanges),
   (closing, rangesOfText closingRanges),
   (initialQuote, rangesOfText initialQuoteRanges),
   (finalQuote, rangesOfText finalQuoteRanges),
   (otherPunctuation, rangesOfText otherPunctuationRanges),
   (mathSymbol, rangesOfText mathSymbolRanges),
   (currencySymbol, rangesOfText currencySymbolRanges),
   (modifierSymbol, rangesOfText modifierSymbolRanges),
   (otherSymbol, rangesOfText otherSymbolRanges),
   (space, rangesOfText spaceRanges),
   (lineSeparator, rangesOfText lineSeparatorRanges),
   (paragraphSeparator, rangesOfText paragraphSeparatorRanges),
   (control, rangesOfText controlRanges),
   (format, rangesOfText formatRanges),
   (privateUse, rangesOfText privateUseRanges)]

/-- The category of a character. -/
def ofChar (c : Char) : Category :=
  match table.find? fun entry => inRanges c.toNat entry.2 with
  | some (category, _) => category
  | none => unassigned

/-- The ranges of a category.  What no other category has is not assigned. -/
def ranges (category : Category) : Ranges :=
  match table.lookup category with
  | some rs => rs
  | none => Ranges.scalars (Ranges.outside (table.flatMap Prod.snd))

/-- The ranges of several categories. -/
def rangesOf (categories : List Category) : Ranges := Ranges.normal (categories.flatMap ranges)

/-- The letters. -/
def letters : List Category :=
  [uppercaseLetter, lowercaseLetter, titlecaseLetter, modifierLetter, otherLetter]

/-- The marks. -/
def marks : List Category := [nonspacingMark, spacingMark, enclosingMark]

/-- The numbers. -/
def numbers : List Category := [decimalDigit, letterNumber, otherNumber]

/-- The punctuation. -/
def punctuation : List Category :=
  [connector, dash, opening, closing, initialQuote, finalQuote, otherPunctuation]

/-- The symbols. -/
def symbols : List Category := [mathSymbol, currencySymbol, modifierSymbol, otherSymbol]

/-- The separators. -/
def separators : List Category := [space, lineSeparator, paragraphSeparator]

/-- What is none of the above. -/
def others : List Category := [control, format, privateUse, unassigned]

/-- The written forms of the categories and of their groups. -/
def names : List (List String × List Category) :=
  [(["l", "letter"], letters),
   (["lc", "casedletter"], [uppercaseLetter, lowercaseLetter, titlecaseLetter]),
   (["lu", "uppercaseletter"], [uppercaseLetter]),
   (["ll", "lowercaseletter"], [lowercaseLetter]),
   (["lt", "titlecaseletter"], [titlecaseLetter]),
   (["lm", "modifierletter"], [modifierLetter]),
   (["lo", "otherletter"], [otherLetter]),
   (["m", "mark", "combiningmark"], marks),
   (["mn", "nonspacingmark"], [nonspacingMark]),
   (["mc", "spacingmark"], [spacingMark]),
   (["me", "enclosingmark"], [enclosingMark]),
   (["n", "number"], numbers),
   (["nd", "decimalnumber", "digit"], [decimalDigit]),
   (["nl", "letternumber"], [letterNumber]),
   (["no", "othernumber"], [otherNumber]),
   (["p", "punctuation", "punct"], punctuation),
   (["pc", "connectorpunctuation"], [connector]),
   (["pd", "dashpunctuation"], [dash]),
   (["ps", "openpunctuation"], [opening]),
   (["pe", "closepunctuation"], [closing]),
   (["pi", "initialpunctuation"], [initialQuote]),
   (["pf", "finalpunctuation"], [finalQuote]),
   (["po", "otherpunctuation"], [otherPunctuation]),
   (["s", "symbol"], symbols),
   (["sm", "mathsymbol"], [mathSymbol]),
   (["sc", "currencysymbol"], [currencySymbol]),
   (["sk", "modifiersymbol"], [modifierSymbol]),
   (["so", "othersymbol"], [otherSymbol]),
   (["z", "separator"], separators),
   (["zs", "spaceseparator"], [space]),
   (["zl", "lineseparator"], [lineSeparator]),
   (["zp", "paragraphseparator"], [paragraphSeparator]),
   (["c", "other"], others),
   (["cc", "control", "cntrl"], [control]),
   (["cf", "format"], [format]),
   (["co", "privateuse"], [privateUse]),
   (["cn", "unassigned"], [unassigned])]

/-- The categories that a name stands for; the name is in lower case without separators. -/
def named? (name : String) : Option (List Category) :=
  (names.find? fun entry => entry.1.contains name).map Prod.snd

end Category

/-- The ranges of the alphabetic characters that are neither letters nor letter numbers. -/
def otherAlphabetic : Ranges := rangesOfText Category.otherAlphabeticRanges

/-- Whether a character is one of the first 128. -/
def isAscii (c : Char) : Bool := c.toNat < 128

/-- Whether a character is alphabetic. -/
def isAlphabetic (c : Char) : Bool :=
  if isAscii c then c.isAlpha
  else (.letterNumber :: Category.letters).contains (Category.ofChar c) ||
    inRanges c.toNat otherAlphabetic

/-- The joiners. -/
def joiners : Ranges := [(0x200C, 0x200D)]

/-- The categories of the characters of words that are not alphabetic. -/
def wordMarks : List Category := .decimalDigit :: .connector :: Category.marks

/-- Whether a character belongs to a word. -/
def isWordChar (c : Char) : Bool :=
  if isAscii c then c.isAlphanum || c == '_'
  else isAlphabetic c || wordMarks.contains (Category.ofChar c) || inRanges c.toNat joiners

/-- The alphabetic characters. -/
def alphabeticRanges : Ranges :=
  Ranges.union (Category.rangesOf (.letterNumber :: Category.letters)) otherAlphabetic

/-- The characters of words. -/
def wordRanges : Ranges :=
  Ranges.union alphabeticRanges (Ranges.union (Category.rangesOf wordMarks) joiners)

end DocTables.Text
