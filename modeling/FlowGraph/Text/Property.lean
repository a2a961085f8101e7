import FlowGraph.CharSet.Case
import FlowGraph.Text.Category
import FlowGraph.Text.Property.Emoji
import FlowGraph.Text.Property.Ideograph
import FlowGraph.Text.Property.Letter
import FlowGraph.Text.Property.Symbol

/-!
Properties that a character has or has not. Some are lists; the others follow
from lists and from general categories by the rules of the character set.
-/

namespace FlowGraph.Text

/-! ### Letters and their case -/

def alphabetic : CharSet :=
  inCategories (.letterNumber :: Category.letters) ∪ .ofSpans otherAlphabeticSpans

def lowercase : CharSet :=
  Category.lower.set ∪ .ofSpans otherLowercaseSpans

def uppercase : CharSet :=
  Category.upper.set ∪ .ofSpans otherUppercaseSpans

def caseIgnorable : CharSet :=
  inCategories [.nonspacing, .enclosing, .format, .modifierLetter, .modifierSymbol] ∪ .ofSpans [
    (0x27, 0x27), (0x2E, 0x2E), (0x3A, 0x3A), (0xB7, 0xB7), (0x387, 0x387), (0x55F, 0x55F),
    (0x5F4, 0x5F4), (0x2018, 0x2019), (0x2024, 0x2024), (0x2027, 0x2027), (0xFE13, 0xFE13),
    (0xFE52, 0xFE52), (0xFE55, 0xFE55), (0xFF07, 0xFF07), (0xFF0E, 0xFF0E), (0xFF1A, 0xFF1A)]

def casemapped : CharSet :=
  .ofSpans casemappedSpans

def changesWhenLowercased : CharSet :=
  casemapped ∩ (uppercase ∪ Category.title.set)

def changesWhenUppercased : CharSet :=
  casemapped \ uppercase

/-- As upper case, but digraphs in upper case have a form in title case, and
Georgian letters have none. -/
def changesWhenTitlecased : CharSet :=
  (changesWhenUppercased \ (Category.title.set ∪ .ofSpans [(0x10D0, 0x10FA), (0x10FD, 0x10FF)])) ∪
    .ofSpans [(0x1C4, 0x1C4), (0x1C7, 0x1C7), (0x1CA, 0x1CA), (0x1F1, 0x1F1)]

/-- Characters that fold to one other character, unless that is their canonical
form, and those that fold to several. -/
def changesWhenCasefolded : CharSet :=
  (.unions (foldRuns.map CharSet.ofRun) \
    .ofSpans [(0x1FBE, 0x1FBE), (0x1FD3, 0x1FD3), (0x1FE3, 0x1FE3)]) ∪ .ofSpans [
    (0xDF, 0xDF), (0x130, 0x130), (0x149, 0x149), (0x587, 0x587), (0x1E9A, 0x1E9A),
    (0x1F80, 0x1F87), (0x1F90, 0x1F97), (0x1FA0, 0x1FA7), (0x1FB2, 0x1FB4), (0x1FB7, 0x1FB7),
    (0x1FC2, 0x1FC4), (0x1FC7, 0x1FC7), (0x1FF2, 0x1FF4), (0x1FF7, 0x1FF7), (0xFB00, 0xFB04),
    (0xFB06, 0xFB06), (0xFB13, 0xFB17)]

/-! ### Blanks and characters without a picture -/

def whiteSpace : CharSet := .ofSpans [
  (0x9, 0xD), (0x20, 0x20), (0x85, 0x85), (0xA0, 0xA0), (0x1680, 0x1680), (0x2000, 0x200A),
  (0x2028, 0x2029), (0x202F, 0x202F), (0x205F, 0x205F), (0x3000, 0x3000)]

def patternWhiteSpace : CharSet :=
  .ofSpans [(0x9, 0xD), (0x20, 0x20), (0x85, 0x85), (0x200E, 0x200F), (0x2028, 0x2029)]

def joinControl : CharSet :=
  .range 0x200C 0x200D

def variationSelector : CharSet :=
  .ofSpans [(0x180B, 0x180D), (0x180F, 0x180F), (0xFE00, 0xFE0F), (0xE0100, 0xE01EF)]

def otherDefaultIgnorable : CharSet := .ofSpans [
  (0x34F, 0x34F), (0x115F, 0x1160), (0x17B4, 0x17B5), (0x2065, 0x2065), (0x3164, 0x3164),
  (0xFFA0, 0xFFA0), (0xFFF0, 0xFFF8), (0xE0000, 0xE0000), (0xE0002, 0xE001F), (0xE0080, 0xE00FF),
  (0xE01F0, 0xE0FFF)]

/-- Format characters count, apart from annotations, the controls of hieroglyphs
and marks that stand before what they change. -/
def defaultIgnorable : CharSet :=
  (otherDefaultIgnorable ∪ Category.format.set ∪ variationSelector) \
    (whiteSpace ∪ .ofSpans [(0xFFF9, 0xFFFB), (0x13430, 0x13440)] ∪ .ofSpans prependedMarkSpans)

/-- The last two code points of each plane, and a run of thirty-two. -/
def noncharacter : CharSet :=
  .ofSpans ((0xFDD0, 0xFDEF) ::
    (List.range 17).map fun plane => (0x10000 * plane + 0xFFFE, 0x10000 * plane + 0xFFFF))

def deprecated : CharSet := .ofSpans [
  (0x149, 0x149), (0x673, 0x673), (0xF77, 0xF77), (0xF79, 0xF79), (0x17A3, 0x17A4),
  (0x206A, 0x206F), (0x2329, 0x232A), (0xE0001, 0xE0001)]

/-! ### Graphemes -/

def graphemeExtend : CharSet :=
  inCategories [.enclosing, .nonspacing] ∪ .ofSpans otherGraphemeExtendSpans

def graphemeBase : CharSet :=
  (inCategories [.control, .format, .privateUse, .unassigned, .line, .paragraph] ∪
    Category.surrogates ∪ graphemeExtend).compl

/-! ### Identifiers -/

def otherIdStart : CharSet :=
  .ofSpans [(0x1885, 0x1886), (0x2118, 0x2118), (0x212E, 0x212E), (0x309B, 0x309C)]

def otherIdContinue : CharSet := .ofSpans [
  (0xB7, 0xB7), (0x387, 0x387), (0x1369, 0x1371), (0x19DA, 0x19DA), (0x200C, 0x200D),
  (0x30FB, 0x30FB), (0xFF65, 0xFF65)]

def patternChars : CharSet :=
  .ofSpans patternSyntaxSpans ∪ patternWhiteSpace

def idStart : CharSet :=
  (inCategories (.letterNumber :: Category.letters) ∪ otherIdStart) \ patternChars

def idContinue : CharSet :=
  (idStart ∪ inCategories [.nonspacing, .spacing, .decimal, .connector] ∪ otherIdContinue) \
    patternChars

/-- Characters whose compatible form begins with what continues no identifier. -/
def unstableContinue : CharSet := .ofSpans [
  (0x37A, 0x37A), (0x309B, 0x309C), (0xFC5E, 0xFC63), (0xFDFA, 0xFDFB), (0xFE70, 0xFE70),
  (0xFE72, 0xFE72), (0xFE74, 0xFE74), (0xFE76, 0xFE76), (0xFE78, 0xFE78), (0xFE7A, 0xFE7A),
  (0xFE7C, 0xFE7C), (0xFE7E, 0xFE7E)]

/-- Characters whose compatible form begins with what starts no identifier. -/
def unstableStart : CharSet :=
  unstableContinue ∪ .ofSpans [(0xE33, 0xE33), (0xEB3, 0xEB3), (0xFF9E, 0xFF9F)]

/-! ### Words -/

/-- Characters of words: alphabetic characters, marks, decimal digits, connecting
punctuation and the joiners. -/
def wordChars : CharSet :=
  alphabetic ∪ inCategories (.decimal :: .connector :: Category.marks) ∪ joinControl

/-! ### Properties by name -/

inductive Property where
  | alphabetic | asciiHexDigit | bidiControl | caseIgnorable | cased | changesWhenCasefolded
  | changesWhenCasemapped | changesWhenLowercased | changesWhenTitlecased | changesWhenUppercased
  | dash | defaultIgnorable | deprecated | diacritic | emoji | emojiComponent | emojiModifier
  | emojiModifierBase | emojiPresentation | extendedPictographic | extender | graphemeBase
  | graphemeExtend | graphemeLink | hexDigit | hyphen | idsBinaryOperator | idsTrinaryOperator
  | idsUnaryOperator | idCompatMathContinue | idCompatMathStart | idContinue | idStart
  | ideographic | joinControl | logicalOrderException | lowercase | math | modifierCombiningMark
  | noncharacter | otherAlphabetic | otherDefaultIgnorable | otherGraphemeExtend | otherIdContinue
  | otherIdStart | otherLowercase | otherMath | otherUppercase | patternSyntax | patternWhiteSpace
  | prependedConcatenationMark | quotationMark | radical | regionalIndicator | sentenceTerminal
  | softDotted | terminalPunctuation | unifiedIdeograph | uppercase | variationSelector
  | whiteSpace | xidContinue | xidStart

namespace Property

def all : List Property := [
  .alphabetic, .asciiHexDigit, .bidiControl, .caseIgnorable, .cased, .changesWhenCasefolded,
  .changesWhenCasemapped, .changesWhenLowercased, .changesWhenTitlecased, .changesWhenUppercased,
  .dash, .defaultIgnorable, .deprecated, .diacritic, .emoji, .emojiComponent, .emojiModifier,
  .emojiModifierBase, .emojiPresentation, .extendedPictographic, .extender, .graphemeBase,
  .graphemeExtend, .graphemeLink, .hexDigit, .hyphen, .idsBinaryOperator, .idsTrinaryOperator,
  .idsUnaryOperator, .idCompatMathContinue, .idCompatMathStart, .idContinue, .idStart,
  .ideographic, .joinControl, .logicalOrderException, .lowercase, .math, .modifierCombiningMark,
  .noncharacter, .otherAlphabetic, .otherDefaultIgnorable, .otherGraphemeExtend, .otherIdContinue,
  .otherIdStart, .otherLowercase, .otherMath, .otherUppercase, .patternSyntax, .patternWhiteSpace,
  .prependedConcatenationMark, .quotationMark, .radical, .regionalIndicator, .sentenceTerminal,
  .softDotted, .terminalPunctuation, .unifiedIdeograph, .uppercase, .variationSelector,
  .whiteSpace, .xidContinue, .xidStart]

def names : Property → List String
  | .alphabetic => ["Alpha", "Alphabetic"]
  | .asciiHexDigit => ["AHex", "ASCII_Hex_Digit"]
  | .bidiControl => ["Bidi_C", "Bidi_Control"]
  | .caseIgnorable => ["CI", "Case_Ignorable"]
  | .cased => ["Cased"]
  | .changesWhenCasefolded => ["CWCF", "Changes_When_Casefolded"]
  | .changesWhenCasemapped => ["CWCM", "Changes_When_Casemapped"]
  | .changesWhenLowercased => ["CWL", "Changes_When_Lowercased"]
  | .changesWhenTitlecased => ["CWT", "Changes_When_Titlecased"]
  | .changesWhenUppercased => ["CWU", "Changes_When_Uppercased"]
  | .dash => ["Dash"]
  | .defaultIgnorable => ["DI", "Default_Ignorable_Code_Point"]
  | .deprecated => ["Dep", "Deprecated"]
  | .diacritic => ["Dia", "Diacritic"]
  | .emoji => ["Emoji"]
  | .emojiComponent => ["EComp", "Emoji_Component"]
  | .emojiModifier => ["EMod", "Emoji_Modifier"]
  | .emojiModifierBase => ["EBase", "Emoji_Modifier_Base"]
  | .emojiPresentation => ["EPres", "Emoji_Presentation"]
  | .extendedPictographic => ["ExtPict", "Extended_Pictographic"]
  | .extender => ["Ext", "Extender"]
  | .graphemeBase => ["Gr_Base", "Grapheme_Base"]
  | .graphemeExtend => ["Gr_Ext", "Grapheme_Extend"]
  | .graphemeLink => ["Gr_Link", "Grapheme_Link"]
  | .hexDigit => ["Hex", "Hex_Digit"]
  | .hyphen => ["Hyphen"]
  | .idsBinaryOperator => ["IDSB", "IDS_Binary_Operator"]
  | .idsTrinaryOperator => ["IDST", "IDS_Trinary_Operator"]
  | .idsUnaryOperator => ["IDSU", "IDS_Unary_Operator"]
  | .idCompatMathContinue => ["ID_Compat_Math_Continue"]
  | .idCompatMathStart => ["ID_Compat_Math_Start"]
  | .idContinue => ["IDC", "ID_Continue"]
  | .idStart => ["IDS", "ID_Start"]
  | .ideographic => ["Ideo", "Ideographic"]
  | .joinControl => ["Join_C", "Join_Control"]
  | .logicalOrderException => ["LOE", "Logical_Order_Exception"]
  | .lowercase => ["Lower", "Lowercase"]
  | .math => ["Math"]
  | .modifierCombiningMark => ["MCM", "Modifier_Combining_Mark"]
  | .noncharacter => ["NChar", "Noncharacter_Code_Point"]
  | .otherAlphabetic => ["OAlpha", "Other_Alphabetic"]
  | .otherDefaultIgnorable => ["ODI", "Other_Default_Ignorable_Code_Point"]
  | .otherGraphemeExtend => ["OGr_Ext", "Other_Grapheme_Extend"]
  | .otherIdContinue => ["OIDC", "Other_ID_Continue"]
  | .otherIdStart => ["OIDS", "Other_ID_Start"]
  | .otherLowercase => ["OLower", "Other_Lowercase"]
  | .otherMath => ["OMath", "Other_Math"]
  | .otherUppercase => ["OUpper", "Other_Uppercase"]
  | .patternSyntax => ["Pat_Syn", "Pattern_Syntax"]
  | .patternWhiteSpace => ["Pat_WS", "Pattern_White_Space"]
  | .prependedConcatenationMark => ["PCM", "Prepended_Concatenation_Mark"]
  | .quotationMark => ["QMark", "Quotation_Mark"]
  | .radical => ["Radical"]
  | .regionalIndicator => ["RI", "Regional_Indicator"]
  | .sentenceTerminal => ["STerm", "Sentence_Terminal"]
  | .softDotted => ["SD", "Soft_Dotted"]
  | .terminalPunctuation => ["Term", "Terminal_Punctuation"]
  | .unifiedIdeograph => ["UIdeo", "Unified_Ideograph"]
  | .uppercase => ["Upper", "Uppercase"]
  | .variationSelector => ["VS", "Variation_Selector"]
  | .whiteSpace => ["WSpace", "White_Space", "space"]
  | .xidContinue => ["XIDC", "XID_Continue"]
  | .xidStart => ["XIDS", "XID_Start"]

def set : Property → CharSet
  | .alphabetic => Text.alphabetic
  | .asciiHexDigit => .ofSpans [(0x30, 0x39), (0x41, 0x46), (0x61, 0x66)]
  | .bidiControl => .ofSpans [(0x61C, 0x61C), (0x200E, 0x200F), (0x202A, 0x202E), (0x2066, 0x2069)]
  | .caseIgnorable => Text.caseIgnorable
  | .cased => Text.uppercase ∪ Text.lowercase ∪ Category.title.set
  | .changesWhenCasefolded => Text.changesWhenCasefolded
  | .changesWhenCasemapped => casemapped
  | .changesWhenLowercased => Text.changesWhenLowercased
  | .changesWhenTitlecased => Text.changesWhenTitlecased
  | .changesWhenUppercased => Text.changesWhenUppercased
  | .dash => .ofSpans dashLikeSpans
  | .defaultIgnorable => Text.defaultIgnorable
  | .deprecated => Text.deprecated
  | .diacritic => .ofSpans diacriticSpans
  | .emoji => .ofSpans emojiSpans
  | .emojiComponent => .ofSpans emojiComponentSpans
  | .emojiModifier => .range 0x1F3FB 0x1F3FF
  | .emojiModifierBase => .ofSpans emojiModifierBaseSpans
  | .emojiPresentation => .ofSpans emojiPresentationSpans
  | .extendedPictographic => .ofSpans pictographicSpans
  | .extender => .ofSpans extenderSpans
  | .graphemeBase => Text.graphemeBase
  | .graphemeExtend => Text.graphemeExtend
  | .graphemeLink => .ofSpans graphemeLinkSpans
  | .hexDigit => .ofSpans [
    (0x30, 0x39), (0x41, 0x46), (0x61, 0x66), (0xFF10, 0xFF19), (0xFF21, 0xFF26), (0xFF41, 0xFF46)]
  | .hyphen => .ofSpans hyphenSpans
  | .idsBinaryOperator => .ofSpans [(0x2FF0, 0x2FF1), (0x2FF4, 0x2FFD), (0x31EF, 0x31EF)]
  | .idsTrinaryOperator => .range 0x2FF2 0x2FF3
  | .idsUnaryOperator => .range 0x2FFE 0x2FFF
  | .idCompatMathContinue => .ofSpans mathContinueSpans
  | .idCompatMathStart => .ofSpans mathStartSpans
  | .idContinue => Text.idContinue
  | .idStart => Text.idStart
  | .ideographic => .ofSpans ideographicSpans
  | .joinControl => Text.joinControl
  | .logicalOrderException => .ofSpans logicalOrderExceptionSpans
  | .lowercase => Text.lowercase
  | .math => Category.math.set ∪ .ofSpans otherMathSpans
  | .modifierCombiningMark => .ofSpans modifierCombiningMarkSpans
  | .noncharacter => Text.noncharacter
  | .otherAlphabetic => .ofSpans otherAlphabeticSpans
  | .otherDefaultIgnorable => Text.otherDefaultIgnorable
  | .otherGraphemeExtend => .ofSpans otherGraphemeExtendSpans
  | .otherIdContinue => Text.otherIdContinue
  | .otherIdStart => Text.otherIdStart
  | .otherLowercase => .ofSpans otherLowercaseSpans
  | .otherMath => .ofSpans otherMathSpans
  | .otherUppercase => .ofSpans otherUppercaseSpans
  | .patternSyntax => .ofSpans patternSyntaxSpans
  | .patternWhiteSpace => Text.patternWhiteSpace
  | .prependedConcatenationMark => .ofSpans prependedMarkSpans
  | .quotationMark => .ofSpans quotationMarkSpans
  | .radical => .ofSpans radicalSpans
  | .regionalIndicator => .range 0x1F1E6 0x1F1FF
  | .sentenceTerminal => .ofSpans sentenceTerminalSpans
  | .softDotted => .ofSpans softDottedSpans
  | .terminalPunctuation => .ofSpans terminalSpans
  | .unifiedIdeograph => .ofSpans unifiedIdeographSpans
  | .uppercase => Text.uppercase
  | .variationSelector => Text.variationSelector
  | .whiteSpace => Text.whiteSpace
  | .xidContinue => Text.idContinue \ unstableContinue
  | .xidStart => Text.idStart \ unstableStart

end Property

end FlowGraph.Text
