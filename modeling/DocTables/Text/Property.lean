/-
# Yes/no properties of characters

A class of characters can be named by a property that each character has or has not.  Many follow
from the general categories and a few characters more; `Property.ranges` says how.
-/
import DocTables.Text.Blank
import DocTables.Text.Category
import DocTables.Text.Folding
import DocTables.Text.Property.Ranges

namespace DocTables.Text

/-- A yes/no property. -/
inductive Property where
  | asciiHexDigit
  | alphabetic
  | bidiControl
  | bidiMirrored
  | caseIgnorable
  | cased
  | changesWhenCaseFolded
  | changesWhenCaseMapped
  | changesWhenLowercased
  | changesWhenTitlecased
  | changesWhenUppercased
  | dash
  | defaultIgnorable
  | deprecated
  | diacritic
  | emoji
  | emojiComponent
  | emojiModifier
  | emojiModifierBase
  | emojiPresentation
  | extendedPictographic
  | extender
  | graphemeBase
  | graphemeExtend
  | graphemeLink
  | hexDigit
  | hyphen
  | idContinue
  | idStart
  | mathNameContinue
  | mathNameStart
  | ideographBinary
  | ideographTrinary
  | ideographUnary
  | ideographic
  | joinControl
  | logicalOrderException
  | lowercase
  | math
  | modifierCombiningMark
  | noncharacter
  | otherAlphabetic
  | otherDefaultIgnorable
  | otherGraphemeExtend
  | otherIdContinue
  | otherIdStart
  | otherLowercase
  | otherMath
  | otherUppercase
  | patternSyntax
  | patternWhiteSpace
  | prependedConcatenationMark
  | quotationMark
  | radical
  | regionalIndicator
  | sentenceTerminal
  | softDotted
  | terminalPunctuation
  | unifiedIdeograph
  | uppercase
  | variationSelector
  | whiteSpace
  | nameContinue
  | nameStart
deriving Repr, DecidableEq

namespace Property

open Ranges (union without outside scalars)

/-! ## 1. Case -/

/-- The small characters. -/
def lowercaseRanges : Ranges :=
  union (Category.ranges .lowercaseLetter) (rangesOfText Category.otherLowercaseRanges)

/-- The capital characters. -/
def uppercaseRanges : Ranges :=
  union (Category.ranges .uppercaseLetter) (rangesOfText Category.otherUppercaseRanges)

/-- The small, capital and title characters. -/
def casedRanges : Ranges :=
  union (Category.ranges .titlecaseLetter) (union lowercaseRanges uppercaseRanges)

/-- The categories of characters that do not end a word for case. -/
def caseIgnorableCategories : List Category :=
  [.nonspacingMark, .enclosingMark, .format, .modifierLetter, .modifierSymbol]

/-- The characters that do not end a word for case. -/
def caseIgnorableRanges : Ranges :=
  union (Category.rangesOf caseIgnorableCategories) (rangesOfText wordPunctuationRanges)

/-- What folding changes to one other character. -/
def foldingSources : Ranges :=
  Ranges.normal (foldingRuns.flatMap fun r => r.codes.map fun n => (n, n))

/-- What folding changes characters to. -/
def foldingTargets : Ranges :=
  Ranges.normal (foldingRuns.flatMap fun r => r.codes.map fun n => (r.target n, r.target n))

/-- What changes when case is folded. -/
def foldedAway : Ranges :=
  without (union foldingSources (rangesOfText foldsToSeveralRanges))
    (rangesOfText foldsOnlyWholeRanges)

/-- What changes when text is made small. -/
def smallened : Ranges :=
  without (union foldingSources (rangesOfText lowerOnlyRanges)) (rangesOfText foldsSmallRanges)

/-- What changes when text is made capital. -/
def capitalised : Ranges :=
  let small :=
    without (without foldingSources (Category.ranges .titlecaseLetter)) uppercaseRanges
  without (union (union foldingTargets small) (rangesOfText upperOnlyRanges))
    (rangesOfText foldsCapitalRanges)

/-- What changes when text gets title case. -/
def titled : Ranges :=
  without (union capitalised (rangesOfText titleOnlyRanges)) (rangesOfText titleKeptRanges)

/-! ## 2. Clusters and names -/

/-- What extends a cluster of characters. -/
def graphemeExtendRanges : Ranges :=
  union (Category.rangesOf [.enclosingMark, .nonspacingMark])
    (rangesOfText otherGraphemeExtendRanges)

/-- The categories whose characters never start a cluster of their own. -/
def baselessCategories : List Category :=
  [.control, .format, .privateUse, .unassigned, .lineSeparator, .paragraphSeparator]

/-- What a cluster is built on. -/
def graphemeBaseRanges : Ranges :=
  scalars (outside (union (Category.rangesOf baselessCategories) graphemeExtendRanges))

/-- The format characters that are shown although nothing else is to be seen of them. -/
def shownFormats : Ranges :=
  union [(0xFFF9, 0xFFFB), (0x13430, 0x13455)] (rangesOfText prependedConcatenationMarkRanges)

/-- What is not shown where a font has nothing for it. -/
def defaultIgnorableRanges : Ranges :=
  let candidates := union (rangesOfText otherDefaultIgnorableRanges)
    (union (Category.ranges .format) (rangesOfText variationSelectorRanges))
  without candidates (union blankRanges shownFormats)

/-- What is never part of a name. -/
def syntaxRanges : Ranges :=
  union (rangesOfText patternSyntaxRanges) (rangesOfText patternWhiteSpaceRanges)

/-- What can start a name. -/
def idStartRanges : Ranges :=
  without (union (Category.rangesOf (.letterNumber :: Category.letters))
    (rangesOfText otherIdStartRanges)) syntaxRanges

/-- What can go on a name. -/
def idContinueRanges : Ranges :=
  let marks := Category.rangesOf [.nonspacingMark, .spacingMark, .decimalDigit, .connector]
  without (union idStartRanges (union marks (rangesOfText otherIdContinueRanges))) syntaxRanges

/-! ## 3. Properties and their names -/

/-- The characters that have the property. -/
def ranges : Property → Ranges
  | .asciiHexDigit => [(0x30, 0x39), (0x41, 0x46), (0x61, 0x66)]
  | .alphabetic => alphabeticRanges
  | .bidiControl => rangesOfText bidiControlRanges
  | .bidiMirrored => rangesOfText bidiMirroredRanges
  | .caseIgnorable => caseIgnorableRanges
  | .cased => casedRanges
  | .changesWhenCaseFolded => foldedAway
  | .changesWhenCaseMapped => union smallened (union capitalised titled)
  | .changesWhenLowercased => smallened
  | .changesWhenTitlecased => titled
  | .changesWhenUppercased => capitalised
  | .dash => rangesOfText dashRanges
  | .defaultIgnorable => defaultIgnorableRanges
  | .deprecated => rangesOfText deprecatedRanges
  | .diacritic => rangesOfText diacriticRanges
  | .emoji => rangesOfText emojiRanges
  | .emojiComponent => rangesOfText emojiComponentRanges
  | .emojiModifier => rangesOfText emojiModifierRanges
  | .emojiModifierBase => rangesOfText emojiModifierBaseRanges
  | .emojiPresentation => rangesOfText emojiPresentationRanges
  | .extendedPictographic => rangesOfText extendedPictographicRanges
  | .extender => rangesOfText extenderRanges
  | .graphemeBase => graphemeBaseRanges
  | .graphemeExtend => graphemeExtendRanges
  | .graphemeLink => rangesOfText graphemeLinkRanges
  | .hexDigit => rangesOfText hexDigitRanges
  | .hyphen => rangesOfText hyphenRanges
  | .idContinue => idContinueRanges
  | .idStart => idStartRanges
  | .mathNameContinue => rangesOfText mathNameContinueRanges
  | .mathNameStart => rangesOfText mathNameStartRanges
  | .ideographBinary => rangesOfText ideographBinaryRanges
  | .ideographTrinary => rangesOfText ideographTrinaryRanges
  | .ideographUnary => rangesOfText ideographUnaryRanges
  | .ideographic => rangesOfText ideographicRanges
  | .joinControl => joiners
  | .logicalOrderException => rangesOfText logicalOrderExceptionRanges
  | .lowercase => lowercaseRanges
  | .math => union (Category.ranges .mathSymbol) (rangesOfText otherMathRanges)
  | .modifierCombiningMark => rangesOfText modifierCombiningMarkRanges
  | .noncharacter => rangesOfText noncharacterRanges
  | .otherAlphabetic => Text.otherAlphabetic
  | .otherDefaultIgnorable => rangesOfText otherDefaultIgnorableRanges
  | .otherGraphemeExtend => rangesOfText otherGraphemeExtendRanges
  | .otherIdContinue => rangesOfText otherIdContinueRanges
  | .otherIdStart => rangesOfText otherIdStartRanges
  | .otherLowercase => rangesOfText Category.otherLowercaseRanges
  | .otherMath => rangesOfText otherMathRanges
  | .otherUppercase => rangesOfText Category.otherUppercaseRanges
  | .patternSyntax => rangesOfText patternSyntaxRanges
  | .patternWhiteSpace => rangesOfText patternWhiteSpaceRanges
  | .prependedConcatenationMark => rangesOfText prependedConcatenationMarkRanges
  | .quotationMark => rangesOfText quotationMarkRanges
  | .radical => rangesOfText radicalRanges
  | .regionalIndicator => rangesOfText regionalIndicatorRanges
  | .sentenceTerminal => rangesOfText sentenceTerminalRanges
  | .softDotted => rangesOfText softDottedRanges
  | .terminalPunctuation => rangesOfText terminalPunctuationRanges
  | .unifiedIdeograph => rangesOfText unifiedIdeographRanges
  | .uppercase => uppercaseRanges
  | .variationSelector => rangesOfText variationSelectorRanges
  | .whiteSpace => blankRanges
  | .nameContinue => without idContinueRanges (rangesOfText continueUnstableRanges)
  | .nameStart => without idStartRanges (rangesOfText startUnstableRanges)

/-- The names of the properties, in lower case without separators. -/
def names : List (List String × Property) :=
  [(["ahex", "asciihexdigit"], .asciiHexDigit),
   (["alpha", "alphabetic"], .alphabetic),
   (["bidic", "bidicontrol"], .bidiControl),
   (["bidim", "bidimirrored"], .bidiMirrored),
   (["ci", "caseignorable"], .caseIgnorable),
   (["cased"], .cased),
   (["cwcf", "changeswhencasefolded"], .changesWhenCaseFolded),
   (["cwcm", "changeswhencasemapped"], .changesWhenCaseMapped),
   (["cwl", "changeswhenlowercased"], .changesWhenLowercased),
   (["cwt", "changeswhentitlecased"], .changesWhenTitlecased),
   (["cwu", "changeswhenuppercased"], .changesWhenUppercased),
   (["dash"], .dash),
   (["di", "defaultignorablecodepoint"], .defaultIgnorable),
   (["dep", "deprecated"], .deprecated),
   (["dia", "diacritic"], .diacritic),
   (["emoji"], .emoji),
   (["ecomp", "emojicomponent"], .emojiComponent),
   (["emod", "emojimodifier"], .emojiModifier),
   (["ebase", "emojimodifierbase"], .emojiModifierBase),
   (["epres", "emojipresentation"], .emojiPresentation),
   (["extpict", "extendedpictographic"], .extendedPictographic),
   (["ext", "extender"], .extender),
   (["grbase", "graphemebase"], .graphemeBase),
   (["grext", "graphemeextend"], .graphemeExtend),
   (["grlink", "graphemelink"], .graphemeLink),
   (["hex", "hexdigit"], .hexDigit),
   (["hyphen"], .hyphen),
   (["idc", "idcontinue"], .idContinue),
   (["ids", "idstart"], .idStart),
   (["idcompatmathcontinue"], .mathNameContinue),
   (["idcompatmathstart"], .mathNameStart),
   (["idsb", "idsbinaryoperator"], .ideographBinary),
   (["idst", "idstrinaryoperator"], .ideographTrinary),
   (["idsu", "idsunaryoperator"], .ideographUnary),
   (["ideo", "ideographic"], .ideographic),
   (["joinc", "joincontrol"], .joinControl),
   (["loe", "logicalorderexception"], .logicalOrderException),
   (["lower", "lowercase"], .lowercase),
   (["math"], .math),
   (["mcm", "modifiercombiningmark"], .modifierCombiningMark),
   (["nchar", "noncharactercodepoint"], .noncharacter),
   (["oalpha", "otheralphabetic"], .otherAlphabetic),
   (["odi", "otherdefaultignorablecodepoint"], .otherDefaultIgnorable),
   (["ogrext", "othergraphemeextend"], .otherGraphemeExtend),
   (["oidc", "otheridcontinue"], .otherIdContinue),
   (["oids", "otheridstart"], .otherIdStart),
   (["olower", "otherlowercase"], .otherLowercase),
   (["omath", "othermath"], .otherMath),
   (["oupper", "otheruppercase"], .otherUppercase),
   (["patsyn", "patternsyntax"], .patternSyntax),
   (["patws", "patternwhitespace"], .patternWhiteSpace),
   (["pcm", "prependedconcatenationmark"], .prependedConcatenationMark),
   (["qmark", "quotationmark"], .quotationMark),
   (["radical"], .radical),
   (["ri", "regionalindicator"], .regionalIndicator),
   (["sterm", "sentenceterminal"], .sentenceTerminal),
   (["sd", "softdotted"], .softDotted),
   (["term", "terminalpunctuation"], .terminalPunctuation),
   (["uideo", "unifiedideograph"], .unifiedIdeograph),
   (["upper", "uppercase"], .uppercase),
   (["vs", "variationselector"], .variationSelector),
   (["wspace", "space", "whitespace"], .whiteSpace),
   (["xidc", "xidcontinue"], .nameContinue),
   (["xids", "xidstart"], .nameStart)]

/-- The property of a name; the name is in lower case without separators. -/
def named? (name : String) : Option Property :=
  (names.find? fun entry => entry.1.contains name).map Prod.snd

end Property

end DocTables.Text
