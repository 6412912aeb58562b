import LinkerMap.Text.CaseFold
import LinkerMap.Text.Category
import LinkerMap.Text.Listed

/-! # Properties of characters

The properties that a character has or has not. Most of them are drawn from the categories and what
is listed besides.
-/

namespace LinkerMap.Text

/-- The properties, under the names of the standard. -/
inductive Property where
  | asciiHexDigit
  | alphabetic
  | bidiControl
  | bidiMirrored
  | caseIgnorable
  | cased
  | changesWhenCasefolded
  | changesWhenCasemapped
  | changesWhenLowercased
  | changesWhenTitlecased
  | changesWhenUppercased
  | dash
  | defaultIgnorableCodePoint
  | deprecated
  | diacritic
  | emoji
  | emojiComponent
  | emojiModifier
  | emojiModifierBase
  | emojiPresentation
  | extendedPictographic
  | extender
  | graphemeBase
  | graphemeExtend
  | graphemeLink
  | hexDigit
  | hyphen
  | idsBinaryOperator
  | idsTrinaryOperator
  | idsUnaryOperator
  | idCompatMathContinue
  | idCompatMathStart
  | idContinue
  | idStart
  | ideographic
  | joinControl
  | logicalOrderException
  | lowercase
  | math
  | modifierCombiningMark
  | noncharacterCodePoint
  | otherAlphabetic
  | otherDefaultIgnorableCodePoint
  | otherGraphemeExtend
  | otherIdContinue
  | otherIdStart
  | otherLowercase
  | otherMath
  | otherUppercase
  | patternSyntax
  | patternWhiteSpace
  | prependedConcatenationMark
  | quotationMark
  | radical
  | regionalIndicator
  | sentenceTerminal
  | softDotted
  | terminalPunctuation
  | unifiedIdeograph
  | uppercase
  | variationSelector
  | whiteSpace
  | xidContinue
  | xidStart
  deriving DecidableEq, Repr

inductive CaseChange where
  | folding
  | lowering
  | raising
  | titling
  deriving DecidableEq, Repr

def CharSet.ofCategories (categories : List Category) (more : List Interval) : CharSet :=
  (Category.setOf categories).union (.ofIntervals more)

def CaseChange.set : CaseChange → CharSet
  | folding => (CharSet.ofRuns foldSources).adjusted Listed.foldedMore Listed.foldedFewer
  | lowering => (CharSet.ofRuns foldSources).adjusted Listed.loweredMore Listed.loweredFewer
  | raising => (CharSet.ofRuns foldTargets).adjusted Listed.raisedMore Listed.raisedFewer
  | titling =>
    ((CharSet.ofRuns foldTargets).adjusted Listed.raisedMore Listed.raisedFewer).adjusted
      Listed.titledMore Listed.titledFewer

def asciiHexDigits : List Interval := [(0x30, 0x39), (0x41, 0x46), (0x61, 0x66)]

/-- The digits of numbers to the base sixteen in full width. -/
def wideHexDigits : List Interval := [(0xFF10, 0xFF19), (0xFF21, 0xFF26), (0xFF41, 0xFF46)]

def noncharacters : List Run :=
  [(0xFDD0, 0xFDEF, 1), (0xFFFE, 0x10FFFE, 0x10000), (0xFFFF, 0x10FFFF, 0x10000)]

/-- The format characters that are shown. -/
def shownFormats : List Interval := [(0xFFF9, 0xFFFB), (0x13430, 0x13440)]

def patternSigns : List Interval := Listed.patternSyntax ++ Listed.patternWhiteSpace

namespace Property

open Category in
def set : Property → CharSet
  | asciiHexDigit => .ofIntervals asciiHexDigits
  | alphabetic => .ofCategories (letterNumber :: letters) Listed.otherAlphabetic
  | bidiControl => .ofIntervals Listed.bidiControl
  | bidiMirrored => .ofIntervals Listed.bidiMirrored
  | caseIgnorable =>
    .ofCategories [nonspacingMark, enclosingMark, format, modifierLetter, modifierSymbol]
      Listed.withinWord
  | cased =>
    .ofCategories [lowercaseLetter, uppercaseLetter, titlecaseLetter]
      (Listed.otherLowercase ++ Listed.otherUppercase)
  | changesWhenCasefolded => CaseChange.folding.set
  | changesWhenCasemapped =>
    .unionAll [CaseChange.lowering.set, CaseChange.raising.set, CaseChange.titling.set]
  | changesWhenLowercased => CaseChange.lowering.set
  | changesWhenTitlecased => CaseChange.titling.set
  | changesWhenUppercased => CaseChange.raising.set
  | dash => .ofCategories [dashPunctuation] Listed.otherDash
  | defaultIgnorableCodePoint =>
    (CharSet.ofCategories [format] (Listed.otherIgnorable ++ Listed.variationSelector)).adjusted []
      (shownFormats ++ Listed.prependedMark)
  | deprecated => .ofIntervals Listed.deprecated
  | diacritic => .ofIntervals Listed.diacritic
  | emoji => .ofIntervals Listed.emoji
  | emojiComponent => .ofIntervals Listed.emojiComponent
  | emojiModifier => .ofIntervals Listed.emojiModifier
  | emojiModifierBase => .ofIntervals Listed.emojiModifierBase
  | emojiPresentation => .ofIntervals Listed.emojiPresentation
  | extendedPictographic => .ofIntervals Listed.extendedPictographic
  | extender => .ofIntervals Listed.extender
  | graphemeBase =>
    ((unassignedOr [control, format, surrogate, privateUse, lineSeparator, paragraphSeparator,
      enclosingMark, nonspacingMark]).union (.ofIntervals Listed.otherGraphemeExtend)).complement
  | graphemeExtend => .ofCategories [enclosingMark, nonspacingMark] Listed.otherGraphemeExtend
  | graphemeLink => .ofIntervals Listed.graphemeLink
  | hexDigit => .ofIntervals (asciiHexDigits ++ wideHexDigits)
  | hyphen => .ofIntervals Listed.hyphen
  | idsBinaryOperator => .ofIntervals Listed.idsBinaryOperator
  | idsTrinaryOperator => .ofIntervals Listed.idsTrinaryOperator
  | idsUnaryOperator => .ofIntervals Listed.idsUnaryOperator
  | idCompatMathContinue => .ofIntervals (Listed.mathStart ++ Listed.mathContinue)
  | idCompatMathStart => .ofIntervals Listed.mathStart
  | idContinue =>
    (CharSet.ofCategories
      (letterNumber :: nonspacingMark :: spacingMark :: decimalNumber :: connectorPunctuation ::
        letters)
      (Listed.otherIdStart ++ Listed.otherIdContinue)).adjusted [] patternSigns
  | idStart =>
    (CharSet.ofCategories (letterNumber :: letters) Listed.otherIdStart).adjusted [] patternSigns
  | ideographic => .ofIntervals Listed.ideographic
  | joinControl => .ofIntervals Listed.joinControl
  | logicalOrderException => .ofIntervals Listed.logicalOrderException
  | lowercase => .ofCategories [lowercaseLetter] Listed.otherLowercase
  | math => .ofCategories [mathSymbol] Listed.otherMath
  | modifierCombiningMark => .ofIntervals Listed.modifierCombiningMark
  | noncharacterCodePoint => .ofRuns noncharacters
  | otherAlphabetic => .ofIntervals Listed.otherAlphabetic
  | otherDefaultIgnorableCodePoint => .ofIntervals Listed.otherIgnorable
  | otherGraphemeExtend => .ofIntervals Listed.otherGraphemeExtend
  | otherIdContinue => .ofIntervals Listed.otherIdContinue
  | otherIdStart => .ofIntervals Listed.otherIdStart
  | otherLowercase => .ofIntervals Listed.otherLowercase
  | otherMath => .ofIntervals Listed.otherMath
  | otherUppercase => .ofIntervals Listed.otherUppercase
  | patternSyntax => .ofIntervals Listed.patternSyntax
  | patternWhiteSpace => .ofIntervals Listed.patternWhiteSpace
  | prependedConcatenationMark => .ofIntervals Listed.prependedMark
  | quotationMark => .ofIntervals Listed.quotationMark
  | radical => .ofIntervals Listed.radical
  | regionalIndicator => .ofIntervals Listed.regionalIndicator
  | sentenceTerminal => .ofIntervals Listed.sentenceTerminal
  | softDotted => .ofIntervals Listed.softDotted
  | terminalPunctuation => .ofIntervals (Listed.sentenceTerminal ++ Listed.otherTerminal)
  | unifiedIdeograph => .ofIntervals Listed.unifiedIdeograph
  | uppercase => .ofCategories [uppercaseLetter] Listed.otherUppercase
  | variationSelector => .ofIntervals Listed.variationSelector
  | whiteSpace => .ofIntervals Listed.whiteSpace
  | xidContinue =>
    (CharSet.ofCategories
      (letterNumber :: nonspacingMark :: spacingMark :: decimalNumber :: connectorPunctuation ::
        letters)
      (Listed.otherIdStart ++ Listed.otherIdContinue)).adjusted []
        (patternSigns ++ Listed.expandingContinue)
  | xidStart =>
    (CharSet.ofCategories (letterNumber :: letters) Listed.otherIdStart).adjusted []
      (patternSigns ++ Listed.expandingStart)

end Property

end LinkerMap.Text
