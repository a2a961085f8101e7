import FlowGraph.Text.Property
import FlowGraph.Text.Script

/-!
How characters take part in finding the ends of graphemes, words and sentences.
A character that takes no special part has no class here.
-/

namespace FlowGraph.Text

/-- What extends the character before it when words and sentences are cut. -/
def breakExtend : CharSet :=
  graphemeExtend ∪ Category.spacing.set

/-- Signs before numbers. -/
def numberMarks : CharSet :=
  .ofSpans prependedMarkSpans \ .range 0x70F 0x70F

inductive GraphemeBreak where
  | control | cr | lf | extend | zwj | regional | prepend | spacing
  | leading | vowel | trailing | syllable | closedSyllable

namespace GraphemeBreak

def all : List GraphemeBreak := [
  .control, .cr, .lf, .extend, .zwj, .regional, .prepend, .spacing, .leading, .vowel, .trailing,
  .syllable, .closedSyllable]

def names : GraphemeBreak → List String
  | .control => ["CN", "Control"]
  | .cr => ["CR"]
  | .lf => ["LF"]
  | .extend => ["EX", "Extend"]
  | .zwj => ["ZWJ"]
  | .regional => ["RI", "Regional_Indicator"]
  | .prepend => ["PP", "Prepend"]
  | .spacing => ["SM", "SpacingMark"]
  | .leading => ["L"]
  | .vowel => ["V"]
  | .trailing => ["T"]
  | .syllable => ["LV"]
  | .closedSyllable => ["LVT"]

/-- Hangul syllables without a final consonant: one in twenty-eight. -/
def openSyllables : CharSet :=
  .ofSpans ((List.range 399).map fun k => (0xAC00 + 28 * k, 0xAC00 + 28 * k))

def extendSet : CharSet :=
  graphemeExtend ∪ Property.emojiModifier.set

def set : GraphemeBreak → CharSet
  | .control =>
    (inCategories [.line, .paragraph, .control, .format] ∪
        (Category.unassigned.set ∩ defaultIgnorable)) \
      (.ofSpans [(0xA, 0xA), (0xD, 0xD), (0x200C, 0x200D)] ∪ .ofSpans prependedMarkSpans ∪ extendSet)
  | .cr => .range 0xD 0xD
  | .lf => .range 0xA 0xA
  | .extend => extendSet
  | .zwj => .range 0x200D 0x200D
  | .regional => Property.regionalIndicator.set
  | .prepend => .ofSpans prependedMarkSpans ∪ .ofSpans [
    (0xD4E, 0xD4E), (0x111C2, 0x111C3), (0x113D1, 0x113D1), (0x1193F, 0x1193F), (0x11941, 0x11941),
    (0x11A84, 0x11A89), (0x11D46, 0x11D46), (0x11F02, 0x11F02)]
  | .spacing =>
    (Category.spacing.set ∪ .ofSpans [(0xE33, 0xE33), (0xEB3, 0xEB3)]) \ (graphemeExtend ∪ .ofSpans [
      (0x102B, 0x102C), (0x1038, 0x1038), (0x1062, 0x1064), (0x1067, 0x106D), (0x1083, 0x1083),
      (0x1087, 0x108C), (0x108F, 0x108F), (0x109A, 0x109C), (0x1A61, 0x1A61), (0x1A63, 0x1A64),
      (0xAA7B, 0xAA7B), (0xAA7D, 0xAA7D), (0x11720, 0x11721)])
  | .leading => .ofSpans [(0x1100, 0x115F), (0xA960, 0xA97C)]
  | .vowel =>
    .ofSpans [(0x1160, 0x11A7), (0xD7B0, 0xD7C6), (0x16D63, 0x16D63), (0x16D67, 0x16D6A)]
  | .trailing => .ofSpans [(0x11A8, 0x11FF), (0xD7CB, 0xD7FB)]
  | .syllable => openSyllables
  | .closedSyllable => .range 0xAC00 0xD7A3 \ openSyllables

end GraphemeBreak

inductive WordBreak where
  | letter | cr | doubleQuote | joinWords | extend | format | hebrew | katakana | lf | midLetter
  | midNumber | midBoth | newline | numeric | regional | singleQuote | space | zwj

namespace WordBreak

def all : List WordBreak := [
  .letter, .cr, .doubleQuote, .joinWords, .extend, .format, .hebrew, .katakana, .lf, .midLetter,
  .midNumber, .midBoth, .newline, .numeric, .regional, .singleQuote, .space, .zwj]

def names : WordBreak → List String
  | .letter => ["LE", "ALetter"]
  | .cr => ["CR"]
  | .doubleQuote => ["DQ", "Double_Quote"]
  | .joinWords => ["EX", "ExtendNumLet"]
  | .extend => ["Extend"]
  | .format => ["FO", "Format"]
  | .hebrew => ["HL", "Hebrew_Letter"]
  | .katakana => ["KA", "Katakana"]
  | .lf => ["LF"]
  | .midLetter => ["ML", "MidLetter"]
  | .midNumber => ["MN", "MidNum"]
  | .midBoth => ["MB", "MidNumLet"]
  | .newline => ["NL", "Newline"]
  | .numeric => ["NU", "Numeric"]
  | .regional => ["RI", "Regional_Indicator"]
  | .singleQuote => ["SQ", "Single_Quote"]
  | .space => ["WSegSpace"]
  | .zwj => ["ZWJ"]

/-- Characters of scripts of South East Asia, which write no blanks between
words. -/
def unspacedSpans : List (Nat × Nat) := [
  (0xE01, 0xE3A), (0xE40, 0xE4E), (0xE81, 0xE82), (0xE84, 0xE84), (0xE86, 0xE8A), (0xE8C, 0xEA3),
  (0xEA5, 0xEA5), (0xEA7, 0xEBD), (0xEC0, 0xEC4), (0xEC6, 0xEC6), (0xEC8, 0xECE), (0xEDC, 0xEDF),
  (0x1000, 0x103F), (0x1050, 0x108F), (0x109A, 0x109F), (0x1780, 0x17D3), (0x17D7, 0x17D7),
  (0x17DC, 0x17DD), (0x1950, 0x196D), (0x1970, 0x1974), (0x1980, 0x19AB), (0x19B0, 0x19C9),
  (0x19DE, 0x19DF), (0x1A20, 0x1A5E), (0x1A60, 0x1A7C), (0x1AA0, 0x1AAD), (0xA9E0, 0xA9EF),
  (0xA9FA, 0xA9FE), (0xAA60, 0xAAC2), (0xAADB, 0xAADF), (0x11700, 0x1171A), (0x1171D, 0x1172B),
  (0x1173A, 0x1173B), (0x1173F, 0x11746)]

/-- Characters that are not alphabetic and count as letters of words. -/
def moreLetterSpans : List (Nat × Nat) := [
  (0xB8, 0xB8), (0x2C2, 0x2C5), (0x2D2, 0x2D7), (0x2DE, 0x2DF), (0x2E5, 0x2EB), (0x2ED, 0x2ED),
  (0x2EF, 0x2FF), (0x55A, 0x55C), (0x55E, 0x55E), (0x58A, 0x58A), (0x5F3, 0x5F3), (0x70F, 0x70F),
  (0xA708, 0xA716), (0xA720, 0xA721), (0xA789, 0xA78A), (0xAB5B, 0xAB5B)]

def katakanaSet : CharSet :=
  .ofSpans Script.katakana.spans ∪ .ofSpans [
    (0x3031, 0x3035), (0x309B, 0x309C), (0x30A0, 0x30A0), (0x30FC, 0x30FC), (0xFF70, 0xFF70)]

def hebrewSet : CharSet :=
  .ofSpans Script.hebrew.spans ∩ Category.otherLetter.set

def extendSet : CharSet :=
  (breakExtend ∪ Property.emojiModifier.set) \ .range 0x200D 0x200D

def letterSet : CharSet :=
  (alphabetic \ .unions [
      .ofSpans ideographicSpans, katakanaSet, .ofSpans unspacedSpans, .ofSpans Script.hiragana.spans,
      extendSet, hebrewSet]) ∪
    .ofSpans moreLetterSpans

def set : WordBreak → CharSet
  | .letter => letterSet
  | .cr => .range 0xD 0xD
  | .doubleQuote => .single '"'
  | .joinWords => Category.connector.set ∪ .range 0x202F 0x202F
  | .extend => extendSet
  | .format =>
    Category.format.set \ (extendSet ∪ .range 0x200B 0x200D ∪ .ofSpans prependedMarkSpans)
  | .hebrew => hebrewSet
  | .katakana => katakanaSet
  | .lf => .range 0xA 0xA
  | .midLetter => .ofSpans [
    (0x3A, 0x3A), (0xB7, 0xB7), (0x387, 0x387), (0x55F, 0x55F), (0x5F4, 0x5F4), (0x2027, 0x2027),
    (0xFE13, 0xFE13), (0xFE55, 0xFE55), (0xFF1A, 0xFF1A)]
  | .midNumber => .ofSpans [
    (0x2C, 0x2C), (0x3B, 0x3B), (0x37E, 0x37E), (0x589, 0x589), (0x60C, 0x60D), (0x66C, 0x66C),
    (0x7F8, 0x7F8), (0x2044, 0x2044), (0xFE50, 0xFE50), (0xFE54, 0xFE54), (0xFF0C, 0xFF0C),
    (0xFF1B, 0xFF1B)]
  | .midBoth => .ofSpans [
    (0x2E, 0x2E), (0x2018, 0x2019), (0x2024, 0x2024), (0xFE52, 0xFE52), (0xFF07, 0xFF07),
    (0xFF0E, 0xFF0E)]
  | .newline => .ofSpans [(0xB, 0xC), (0x85, 0x85), (0x2028, 0x2029)]
  | .numeric =>
    Category.decimal.set ∪ numberMarks ∪ .ofSpans [(0x66B, 0x66B), (0x19DA, 0x19DA)]
  | .regional => Property.regionalIndicator.set
  | .singleQuote => .range 0x27 0x27
  | .space =>
    Category.space.set \ .ofSpans [(0xA0, 0xA0), (0x2007, 0x2007), (0x202F, 0x202F)]
  | .zwj => .range 0x200D 0x200D

end WordBreak

inductive SentenceBreak where
  | ambiguous | closing | cr | extend | format | letter | lf | lower | numeric | continues
  | separator | space | terminal | upper

namespace SentenceBreak

def all : List SentenceBreak := [
  .ambiguous, .closing, .cr, .extend, .format, .letter, .lf, .lower, .numeric, .continues,
  .separator, .space, .terminal, .upper]

def names : SentenceBreak → List String
  | .ambiguous => ["AT", "ATerm"]
  | .closing => ["CL", "Close"]
  | .cr => ["CR"]
  | .extend => ["EX", "Extend"]
  | .format => ["FO", "Format"]
  | .letter => ["LE", "OLetter"]
  | .lf => ["LF"]
  | .lower => ["LO", "Lower"]
  | .numeric => ["NU", "Numeric"]
  | .continues => ["SC", "SContinue"]
  | .separator => ["SE", "Sep"]
  | .space => ["SP", "Sp"]
  | .terminal => ["ST", "STerm"]
  | .upper => ["UP", "Upper"]

def ambiguousSet : CharSet :=
  .ofSpans [(0x2E, 0x2E), (0x2024, 0x2024), (0xFE52, 0xFE52), (0xFF0E, 0xFF0E)]

def extendSet : CharSet :=
  breakExtend ∪ .range 0x200D 0x200D

def lowerSet : CharSet :=
  lowercase \ (graphemeExtend ∪ .ofSpans [(0x10D0, 0x10FA), (0x10FD, 0x10FF)])

def upperSet : CharSet :=
  (Category.title.set ∪ uppercase) \ .ofSpans [(0x1C90, 0x1CBA), (0x1CBD, 0x1CBF)]

def set : SentenceBreak → CharSet
  | .ambiguous => ambiguousSet
  | .closing =>
    inCategories [.opening, .closing, .initial, .final] ∪ .ofSpans [
      (0x22, 0x22), (0x27, 0x27), (0x275B, 0x2760), (0x2E00, 0x2E01), (0x2E06, 0x2E08),
      (0x2E0B, 0x2E0B), (0x1F676, 0x1F678)]
  | .cr => .range 0xD 0xD
  | .extend => extendSet
  | .format =>
    Category.format.set \ (extendSet ∪ .range 0x200C 0x200D ∪ numberMarks)
  | .letter => (alphabetic ∪ .range 0x5F3 0x5F3) \ (lowerSet ∪ upperSet ∪ extendSet)
  | .lf => .range 0xA 0xA
  | .lower => lowerSet
  | .numeric =>
    Category.decimal.set ∪ numberMarks ∪ .ofSpans [(0x66B, 0x66C), (0x19DA, 0x19DA)]
  | .continues => .ofSpans [
    (0x2C, 0x2D), (0x3A, 0x3B), (0x37E, 0x37E), (0x55D, 0x55D), (0x60C, 0x60D), (0x7F8, 0x7F8),
    (0x1802, 0x1802), (0x1808, 0x1808), (0x2013, 0x2014), (0x3001, 0x3001), (0xFE10, 0xFE11),
    (0xFE13, 0xFE14), (0xFE31, 0xFE32), (0xFE50, 0xFE51), (0xFE54, 0xFE55), (0xFE58, 0xFE58),
    (0xFE63, 0xFE63), (0xFF0C, 0xFF0D), (0xFF1A, 0xFF1B), (0xFF64, 0xFF64)]
  | .separator => .ofSpans [(0x85, 0x85), (0x2028, 0x2029)]
  | .space => whiteSpace \ .ofSpans [(0xA, 0xA), (0xD, 0xD), (0x85, 0x85), (0x2028, 0x2029)]
  | .terminal => .ofSpans sentenceTerminalSpans \ ambiguousSet
  | .upper => upperSet

end SentenceBreak

end FlowGraph.Text
