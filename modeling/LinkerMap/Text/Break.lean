import LinkerMap.Text.Property
import LinkerMap.Text.Script

/-! # Breaks in text

What a character is to the rules that part a text into graphemes, words and sentences.
-/

namespace LinkerMap.Text

inductive GraphemeBreak where
  | carriageReturn
  | lineFeed
  | control
  | extend
  | zeroWidthJoiner
  | regionalIndicator
  | prepended
  | spacingMark
  | leading
  | vowel
  | trailing
  | leadingVowel
  | leadingVowelTrailing
  deriving DecidableEq, Repr

inductive WordBreak where
  | carriageReturn
  | lineFeed
  | newline
  | extend
  | zeroWidthJoiner
  | format
  | regionalIndicator
  | katakana
  | hebrewLetter
  | letter
  | singleQuote
  | doubleQuote
  | midNumLet
  | midLetter
  | midNum
  | numeric
  | extendNumLet
  | space
  deriving DecidableEq, Repr

inductive SentenceBreak where
  | carriageReturn
  | lineFeed
  | extend
  | separator
  | format
  | space
  | lower
  | upper
  | otherLetter
  | numeric
  | ambiguousTerminal
  | continues
  | terminal
  | close
  deriving DecidableEq, Repr

def graphemeControls : List Interval :=
  [(0x0, 0x9), (0xB, 0xC), (0xE, 0x1F), (0x7F, 0x9F), (0xAD, 0xAD), (0x61C, 0x61C),
    (0x180E, 0x180E), (0x200B, 0x200B), (0x200E, 0x200F), (0x2028, 0x202E), (0x2060, 0x206F),
    (0xFEFF, 0xFEFF), (0xFFF0, 0xFFFB), (0x13430, 0x1343F), (0x1BCA0, 0x1BCA3),
    (0x1D173, 0x1D17A), (0xE0000, 0xE001F), (0xE0080, 0xE00FF), (0xE01F0, 0xE0FFF)]

def prependedSigns : List Interval :=
  [(0x600, 0x605), (0x6DD, 0x6DD), (0x70F, 0x70F), (0x890, 0x891), (0x8E2, 0x8E2),
    (0xD4E, 0xD4E), (0x110BD, 0x110BD), (0x110CD, 0x110CD), (0x111C2, 0x111C3),
    (0x113D1, 0x113D1), (0x1193F, 0x1193F), (0x11941, 0x11941), (0x11A3A, 0x11A3A),
    (0x11A84, 0x11A89), (0x11D46, 0x11D46), (0x11F02, 0x11F02)]

def notSpacing : List Interval :=
  [(0x102B, 0x102C), (0x1038, 0x1038), (0x1062, 0x1064), (0x1067, 0x106D), (0x1083, 0x1083),
    (0x1087, 0x108C), (0x108F, 0x108F), (0x109A, 0x109C), (0x1A61, 0x1A61), (0x1A63, 0x1A64),
    (0xAA7B, 0xAA7B), (0xAA7D, 0xAA7D), (0x11720, 0x11721)]

def leadingConsonants : List Interval :=
  [(0x1100, 0x115F), (0xA960, 0xA97C)]

def syllableVowels : List Interval :=
  [(0x1160, 0x11A7), (0xD7B0, 0xD7C6), (0x16D63, 0x16D63), (0x16D67, 0x16D6A)]

def trailingConsonants : List Interval :=
  [(0x11A8, 0x11FF), (0xD7CB, 0xD7FB)]

def numericSigns : List Interval :=
  [(0x600, 0x605), (0x66B, 0x66C), (0x6DD, 0x6DD), (0x890, 0x891), (0x8E2, 0x8E2),
    (0x19DA, 0x19DA), (0x110BD, 0x110BD), (0x110CD, 0x110CD)]

def katakanaSigns : List Interval :=
  [(0x3031, 0x3035), (0x309B, 0x309C), (0x30A0, 0x30A0), (0x30FC, 0x30FC), (0xFF70, 0xFF70)]

def letterSigns : List Interval :=
  [(0x2C2, 0x2C5), (0x2D2, 0x2D7), (0x2DE, 0x2DF), (0x2E5, 0x2EB), (0x2ED, 0x2ED),
    (0x2EF, 0x2FF), (0x55A, 0x55C), (0x55E, 0x55E), (0x58A, 0x58A), (0x5F3, 0x5F3),
    (0x70F, 0x70F), (0xA708, 0xA716), (0xA720, 0xA721), (0xA789, 0xA78A), (0xAB5B, 0xAB5B)]

/-- Quotes that close or open in either direction. -/
def quotes : List Interval :=
  [(0x22, 0x22), (0x27, 0x27), (0x275B, 0x2760), (0x2E00, 0x2E01), (0x2E06, 0x2E08),
    (0x2E0B, 0x2E0B), (0x1F676, 0x1F678)]

def shownMarks : List Interval :=
  [(0x600, 0x605), (0x6DD, 0x6DD), (0x890, 0x891), (0x8E2, 0x8E2), (0x200C, 0x200D),
    (0x110BD, 0x110BD), (0x110CD, 0x110CD), (0xE0020, 0xE007F)]

def fullStops : List Interval :=
  [(0x2E, 0x2E), (0x2024, 0x2024), (0xFE52, 0xFE52), (0xFF0E, 0xFF0E)]

def sentenceContinues : List Interval :=
  [(0x2C, 0x2D), (0x3A, 0x3B), (0x37E, 0x37E), (0x55D, 0x55D), (0x60C, 0x60D), (0x7F8, 0x7F8),
    (0x1802, 0x1802), (0x1808, 0x1808), (0x2013, 0x2014), (0x3001, 0x3001), (0xFE10, 0xFE11),
    (0xFE13, 0xFE14), (0xFE31, 0xFE32), (0xFE50, 0xFE51), (0xFE54, 0xFE55), (0xFE58, 0xFE58),
    (0xFE63, 0xFE63), (0xFF0C, 0xFF0D), (0xFF1A, 0xFF1B), (0xFF64, 0xFF64)]

def numberSeparators : List Interval :=
  [(0x2C, 0x2C), (0x3B, 0x3B), (0x37E, 0x37E), (0x589, 0x589), (0x60C, 0x60D), (0x66C, 0x66C),
    (0x7F8, 0x7F8), (0x2044, 0x2044), (0xFE50, 0xFE50), (0xFE54, 0xFE54), (0xFF0C, 0xFF0C),
    (0xFF1B, 0xFF1B)]

def wordColons : List Interval :=
  [(0x3A, 0x3A), (0xB7, 0xB7), (0x387, 0x387), (0x55F, 0x55F), (0x5F4, 0x5F4), (0x2027, 0x2027),
    (0xFE13, 0xFE13), (0xFE55, 0xFE55), (0xFF1A, 0xFF1A)]

def wordStops : List Interval :=
  [(0x2E, 0x2E), (0x2018, 0x2019), (0x2024, 0x2024), (0xFE52, 0xFE52), (0xFF07, 0xFF07),
    (0xFF0E, 0xFF0E)]

def lineEnds : List Interval :=
  [(0xA, 0xA), (0xD, 0xD), (0x85, 0x85), (0x2028, 0x2029)]

/-- Georgian letters, that are not told apart by case in sentences. -/
def georgianLower : List Interval :=
  [(0x10D0, 0x10FA), (0x10FD, 0x10FF)]

def georgianUpper : List Interval :=
  [(0x1C90, 0x1CBA), (0x1CBD, 0x1CBF)]

/-- The syllables without a consonant at their end. -/
def openSyllables : List Run := [(0xAC00, 0xD788, 28)]

def syllables : List Interval := [(0xAC00, 0xD7A3)]

def katakanaLetters : CharSet :=
  (Script.named ["kana"]).union (.ofIntervals katakanaSigns)

/-- What extends the character before it, with some more. -/
def extending (more : List Interval) : CharSet :=
  Property.graphemeExtend.set.union (.ofCategories [.spacingMark] more)

def code (n : Nat) : CharSet := ⟨[(n, n)]⟩

def GraphemeBreak.set : GraphemeBreak → CharSet
  | carriageReturn => code 0xD
  | lineFeed => code 0xA
  | control => .ofIntervals graphemeControls
  | extend => Property.graphemeExtend.set.union Property.emojiModifier.set
  | zeroWidthJoiner => code 0x200D
  | regionalIndicator => Property.regionalIndicator.set
  | prepended => .ofIntervals prependedSigns
  | spacingMark =>
    (CharSet.ofCategories [.spacingMark] [(0xE33, 0xE33), (0xEB3, 0xEB3)]).difference
      (Property.graphemeExtend.set.union (.ofIntervals notSpacing))
  | leading => .ofIntervals leadingConsonants
  | vowel => .ofIntervals syllableVowels
  | trailing => .ofIntervals trailingConsonants
  | leadingVowel => .ofRuns openSyllables
  | leadingVowelTrailing => (CharSet.ofIntervals syllables).difference (.ofRuns openSyllables)

def SentenceBreak.set : SentenceBreak → CharSet
  | carriageReturn => code 0xD
  | lineFeed => code 0xA
  | extend => extending [(0x200D, 0x200D)]
  | separator => .ofIntervals [(0x85, 0x85), (0x2028, 0x2029)]
  | format => (Category.setOf [.format]).adjusted [] shownMarks
  | space => Property.whiteSpace.set.adjusted [] lineEnds
  | lower =>
    (Property.lowercase.set.adjusted [] georgianLower).difference Property.graphemeExtend.set
  | upper => (Property.uppercase.set.union (Category.setOf [.titlecaseLetter])).adjusted []
      georgianUpper
  | otherLetter =>
    (Property.alphabetic.set.adjusted [(0x5F3, 0x5F3)] []).difference
      (.unionAll [Property.lowercase.set.adjusted [] georgianLower,
        (Property.uppercase.set.union (Category.setOf [.titlecaseLetter])).adjusted []
          georgianUpper,
        extending []])
  | numeric => .ofCategories [.decimalNumber] numericSigns
  | ambiguousTerminal => .ofIntervals fullStops
  | continues => .ofIntervals sentenceContinues
  | terminal => Property.sentenceTerminal.set.adjusted [] fullStops
  | close =>
    .ofCategories [.openPunctuation, .closePunctuation, .initialPunctuation, .finalPunctuation]
      quotes

/-- The members of a class of words. Letters of scripts that are written without spaces between
words are in none. -/
def WordBreak.set : WordBreak → CharSet
  | carriageReturn => code 0xD
  | lineFeed => code 0xA
  | newline => .ofIntervals [(0xB, 0xC), (0x85, 0x85), (0x2028, 0x2029)]
  | extend => extending Listed.emojiModifier
  | zeroWidthJoiner => code 0x200D
  | format => (Category.setOf [.format]).adjusted []
      ([(0x70F, 0x70F), (0x200B, 0x200B)] ++ shownMarks)
  | regionalIndicator => Property.regionalIndicator.set
  | katakana => katakanaLetters
  | hebrewLetter => (Script.named ["hebr"]).intersection (Category.setOf [.otherLetter])
  | letter =>
    (Property.alphabetic.set.adjusted letterSigns []).difference
      (.unionAll [Property.ideographic.set, katakanaLetters, extending [],
        (Script.named ["hebr"]).intersection (Category.setOf [.otherLetter]),
        Script.named ["hira", "ahom", "khmr", "laoo", "mymr", "talu", "tale", "lana", "tavt",
          "thai"]])
  | singleQuote => code 0x27
  | doubleQuote => code 0x22
  | midNumLet => .ofIntervals wordStops
  | midLetter => .ofIntervals wordColons
  | midNum => .ofIntervals numberSeparators
  | numeric => (CharSet.ofCategories [.decimalNumber] numericSigns).adjusted [] [(0x66C, 0x66C)]
  | extendNumLet => .ofCategories [.connectorPunctuation] [(0x202F, 0x202F)]
  | space => (Category.setOf [.spaceSeparator]).adjusted []
      [(0xA0, 0xA0), (0x2007, 0x2007), (0x202F, 0x202F)]

end LinkerMap.Text
