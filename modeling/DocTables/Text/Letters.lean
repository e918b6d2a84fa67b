/-
# Letters and numbers in names

A name starts with an alphabetic character, and numbers of any kind may follow.  Names go by the
seventeenth edition of the standard, the one after that of the categories; the ranges below are what
it added.
-/
import DocTables.Text.Category

namespace DocTables.Text

/-- The alphabetic characters that the categories do not know yet. -/
def addedLetters : Ranges :=
  rangesOfText
    ["88F C5C CDC A7CE-A7CF A7D2 A7D4 A7F1 10940-10959 10EC5-10EC7 10EFA-10EFB 11B60-11B67",
     "11DB0-11DDB 16EA0-16EB8 16EBB-16ED3 16FF2-16FF6 187F8-187FF 18D09-18D1E 18D80-18DF2",
     "1E6C0-1E6DE 1E6E0-1E6F5 1E6FE-1E6FF 2B73A-2B73F 2CEA2-2CEAD 323B0-33479"]

/-- The numbers that the categories do not know yet. -/
def addedNumbers : Ranges := rangesOfText ["11DE0-11DE9 16FF4-16FF6"]

/-- Whether a character is a letter of a name. -/
def isLetter (c : Char) : Bool :=
  if isAscii c then c.isAlpha else isAlphabetic c || inRanges c.toNat addedLetters

/-- Whether a character is a letter or a number of a name. -/
def isLetterOrNumber (c : Char) : Bool :=
  if isAscii c then c.isAlphanum
  else isLetter c || Category.numbers.contains (Category.ofChar c) ||
    inRanges c.toNat addedNumbers

end DocTables.Text
