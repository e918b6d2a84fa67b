/-
# Where a text can be divided

A text is divided into clusters of characters, into words and into sentences.  For each of the three
every character belongs to one class; the classes that have names are listed here.  What belongs to
none of them has no name.
-/
import DocTables.Text.Property
import DocTables.Text.Script

namespace DocTables.Text.Boundary

open Ranges (union without inter outside scalars)

/-! ## 1. Tables -/

/-- The ranges of the letters that are drawn in front of what follows. -/
def prependedLetters : Ranges :=
  rangesOfText ["D4E 111C2-111C3 113D1 1193F 11941 11A3A 11A84-11A89 11D46 11F02"]

/-- The ranges of the spacing marks that stand apart. -/
def apartSpacing : Ranges :=
  rangesOfText
    ["102B-102C 1038 1062-1064 1067-106D 1083 1087-108C 108F 109A-109C 1A61 1A63-1A64 AA7B AA7D",
     "11720-11721"]

/-- The ranges of the scripts whose words only a dictionary can tell apart. -/
def dictionaryScript : Ranges :=
  rangesOfText
    ["E01-E3A E40-E4E E81-E82 E84 E86-E8A E8C-EA3 EA5 EA7-EBD EC0-EC4 EC6 EC8-ECE EDC-EDF",
     "1000-103F 1050-108F 109A-109F 1780-17D3 17D7 17DC-17DD 1950-196D 1970-1974 1980-19AB",
     "19B0-19C9 19DA 19DE-19DF 1A20-1A5E 1A60-1A7C 1AA0-1AAD A9E0-A9EF A9FA-A9FE AA60-AAC2",
     "AADB-AADF 11700-1171A 1171D-1172B 1173A-1173B 1173F-11746"]

/-- The ranges of the signs that are letters inside words. -/
def letterLike : Ranges :=
  rangesOfText
    ["B8 2C2-2C5 2D2-2D7 2DE-2DF 2E5-2EB 2ED 2EF-2FF 55A-55C 55E 58A 5F3 70F A708-A716 A720-A721",
     "A789-A78A AB5B"]

/-- The ranges of katakana inside words. -/
def katakana : Ranges :=
  rangesOfText
    ["3031-3035 309B-309C 30A0-30FA 30FC-30FF 31F0-31FF 32D0-32FE 3300-3357 FF66-FF9D 1AFF0-1AFF3",
     "1AFF5-1AFFB 1AFFD-1AFFE 1B000 1B120-1B122 1B155 1B164-1B167"]

/-- The ranges of Hebrew letters. -/
def hebrewLetter : Ranges :=
  rangesOfText
    ["5D0-5EA 5EF-5F2 FB1D FB1F-FB28 FB2A-FB36 FB38-FB3C FB3E FB40-FB41 FB43-FB44 FB46-FB4F"]

/-- The ranges of the signs that span the digits of a number. -/
def numberSigns : Ranges :=
  rangesOfText ["600-605 6DD 890-891 8E2 110BD 110CD"]

/-- The ranges of quotation marks and brackets of no such category. -/
def quoteLike : Ranges :=
  rangesOfText ["22 27 275B-2760 2E00-2E01 2E06-2E08 2E0B 1F676-1F678"]

/-- The ranges of the punctuation after which a sentence goes on. -/
def sentenceContinue : Ranges :=
  rangesOfText
    ["2C-2D 3A-3B 37E 55D 60C-60D 7F8 1802 1808 2013-2014 3001 FE10-FE11 FE13-FE14 FE31-FE32",
     "FE50-FE51 FE54-FE55 FE58 FE63 FF0C-FF0D FF1A-FF1B FF64"]

/-- The decimal digits of all scripts, and the signs inside numbers and around them. -/
def numericRanges : Ranges :=
  union (union (Category.ranges .decimalDigit) [(0x66B, 0x66B)]) numberSigns

/-- The format characters between words. -/
def formatRanges : Ranges :=
  without (without (Category.ranges .format) [(0x200C, 0x200D), (0xE0020, 0xE007F)]) numberSigns

/-- Marks that never stand alone. -/
def extendRanges : Ranges :=
  union (Property.ranges .graphemeExtend) (Category.ranges .spacingMark)

/-! ## 2. Clusters -/

/-- The first and the last syllable of Hangul. -/
def hangulSyllables : Nat × Nat := (0xAC00, 0xD7A3)

/-- The syllables without a final consonant: every twenty-eighth one. -/
def openSyllables : Ranges := (List.range' hangulSyllables.1 399 28).map fun n => (n, n)

/-- What a cluster never holds beside others. -/
def controlRanges : Ranges :=
  let hidden := inter (Category.ranges .unassigned) (Property.ranges .defaultIgnorable)
  let plain := union hidden
    (Category.rangesOf [.control, .format, .lineSeparator, .paragraphSeparator])
  without plain (union (union (Property.ranges .graphemeExtend)
    (Property.ranges .prependedConcatenationMark)) [(0xA, 0xA), (0xD, 0xD), (0x200D, 0x200D)])

/-- The marks that take room of their own in a cluster. -/
def spacingRanges : Ranges :=
  union (without (Category.ranges .spacingMark)
    (union (Property.ranges .graphemeExtend) apartSpacing)) [(0xE33, 0xE33), (0xEB3, 0xEB3)]

/-- The characters of a class of clusters; the name is in lower case without separators. -/
def cluster? : String → Option Ranges
  | "cr" => some [(0xD, 0xD)]
  | "lf" => some [(0xA, 0xA)]
  | "cn" | "control" => some controlRanges
  | "ex" | "extend" =>
    some (union (Property.ranges .graphemeExtend) (Property.ranges .emojiModifier))
  | "pp" | "prepend" =>
    some (union prependedLetters (Property.ranges .prependedConcatenationMark))
  | "sm" | "spacingmark" => some spacingRanges
  | "l" => some [(0x1100, 0x115F), (0xA960, 0xA97C)]
  | "v" => some [(0x1160, 0x11A7), (0xD7B0, 0xD7C6), (0x16D63, 0x16D63), (0x16D67, 0x16D6A)]
  | "t" => some [(0x11A8, 0x11FF), (0xD7CB, 0xD7FB)]
  | "lv" => some openSyllables
  | "lvt" => some (without [hangulSyllables] openSyllables)
  | "ri" | "regionalindicator" => some (Property.ranges .regionalIndicator)
  | "zwj" => some [(0x200D, 0x200D)]
  | _ => none

/-! ## 3. Words -/

/-- The letters of words that a space or a sign ends. -/
def wordLetters : Ranges :=
  let others := union (Property.ranges .ideographic) (union katakana (union dictionaryScript
    (union ((Script.ranges? "hiragana").getD []) (union extendRanges hebrewLetter))))
  without (union alphabeticRanges letterLike) others

/-- The characters of a class of words; the name is in lower case without separators. -/
def word? : String → Option Ranges
  | "cr" => some [(0xD, 0xD)]
  | "lf" => some [(0xA, 0xA)]
  | "nl" | "newline" => some [(0xB, 0xC), (0x85, 0x85), (0x2028, 0x2029)]
  | "le" | "aletter" => some wordLetters
  | "hl" | "hebrewletter" => some hebrewLetter
  | "ka" | "katakana" => some katakana
  | "nu" | "numeric" => some numericRanges
  | "ex" | "extendnumlet" =>
    some [(0x5F, 0x5F), (0x202F, 0x202F), (0x203F, 0x2040), (0x2054, 0x2054), (0xFE33, 0xFE34),
      (0xFE4D, 0xFE4F), (0xFF3F, 0xFF3F)]
  | "extend" =>
    some (without (union extendRanges (Property.ranges .emojiModifier)) [(0x200D, 0x200D)])
  | "fo" | "format" => some (without formatRanges [(0x70F, 0x70F), (0x200B, 0x200B)])
  | "dq" | "doublequote" => some [(0x22, 0x22)]
  | "sq" | "singlequote" => some [(0x27, 0x27)]
  | "ml" | "midletter" =>
    some [(0x3A, 0x3A), (0xB7, 0xB7), (0x387, 0x387), (0x55F, 0x55F), (0x5F4, 0x5F4),
      (0x2027, 0x2027), (0xFE13, 0xFE13), (0xFE55, 0xFE55), (0xFF1A, 0xFF1A)]
  | "mb" | "midnumlet" =>
    some [(0x2E, 0x2E), (0x2018, 0x2019), (0x2024, 0x2024), (0xFE52, 0xFE52), (0xFF07, 0xFF07),
      (0xFF0E, 0xFF0E)]
  | "mn" | "midnum" =>
    some [(0x2C, 0x2C), (0x3B, 0x3B), (0x37E, 0x37E), (0x589, 0x589), (0x60C, 0x60D),
      (0x66C, 0x66C), (0x7F8, 0x7F8), (0x2044, 0x2044), (0xFE50, 0xFE50), (0xFE54, 0xFE54),
      (0xFF0C, 0xFF0C), (0xFF1B, 0xFF1B)]
  | "ri" | "regionalindicator" => some (Property.ranges .regionalIndicator)
  | "wsegspace" =>
    some [(0x20, 0x20), (0x1680, 0x1680), (0x2000, 0x2006), (0x2008, 0x200A), (0x205F, 0x205F),
      (0x3000, 0x3000)]
  | "zwj" => some [(0x200D, 0x200D)]
  | _ => none

/-! ## 4. Sentences -/

/-- The full stops that may also be part of a number or an abbreviation. -/
def fullStops : Ranges :=
  [(0x2E, 0x2E), (0x2024, 0x2024), (0xFE52, 0xFE52), (0xFF0E, 0xFF0E)]

/-- The small letters of sentences. -/
def sentenceSmall : Ranges :=
  without (Property.ranges .lowercase)
    (union (Property.ranges .graphemeExtend) [(0x10D0, 0x10FA), (0x10FD, 0x10FF)])

/-- The capital letters of sentences. -/
def sentenceCapital : Ranges :=
  without (union (Property.ranges .uppercase) (Category.ranges .titlecaseLetter))
    [(0x1C90, 0x1CBA), (0x1CBD, 0x1CBF)]

/-- The white space that divides lines. -/
def lineEnds : Ranges := [(0xA, 0xA), (0xD, 0xD), (0x85, 0x85), (0x2028, 0x2029)]

/-- The characters of a class of sentences; the name is in lower case without separators. -/
def sentence? : String → Option Ranges
  | "cr" => some [(0xD, 0xD)]
  | "lf" => some [(0xA, 0xA)]
  | "se" | "sep" => some [(0x85, 0x85), (0x2028, 0x2029)]
  | "sp" => some (without blankRanges lineEnds)
  | "lo" | "lower" => some sentenceSmall
  | "up" | "upper" => some sentenceCapital
  | "le" | "oletter" =>
    some (without (union alphabeticRanges [(0x5F3, 0x5F3)])
      (union sentenceSmall (union sentenceCapital extendRanges)))
  | "nu" | "numeric" => some (union numericRanges [(0x66C, 0x66C)])
  | "at" | "aterm" => some fullStops
  | "st" | "sterm" => some (without (Property.ranges .sentenceTerminal) fullStops)
  | "cl" | "close" =>
    some (union quoteLike
      (Category.rangesOf [.opening, .closing, .initialQuote, .finalQuote]))
  | "sc" | "scontinue" => some sentenceContinue
  | "ex" | "extend" => some (union extendRanges [(0x200D, 0x200D)])
  | "fo" | "format" => some formatRanges
  | _ => none

end DocTables.Text.Boundary
