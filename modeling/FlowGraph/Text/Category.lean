import FlowGraph.CharSet
import FlowGraph.Text.Category.Control
import FlowGraph.Text.Category.Letter
import FlowGraph.Text.Category.Mark
import FlowGraph.Text.Category.Number
import FlowGraph.Text.Category.Punctuation
import FlowGraph.Text.Category.Symbol
import FlowGraph.Text.Digit

/-!
General categories. Each character has exactly one of them; groups join those
with the same first letter, and the cased letters.
-/

namespace FlowGraph.Text

inductive Category where
  | upper | lower | title | modifierLetter | otherLetter
  | nonspacing | spacing | enclosing
  | decimal | letterNumber | otherNumber
  | connector | dash | opening | closing | initial | final | otherPunctuation
  | math | currency | modifierSymbol | otherSymbol
  | space | line | paragraph
  | control | format | privateUse | unassigned
deriving DecidableEq

namespace Category

/-- All categories that are given by lists, which are all but the last. -/
def listed : List Category := [
  .upper, .lower, .title, .modifierLetter, .otherLetter, .nonspacing, .spacing, .enclosing,
  .decimal, .letterNumber, .otherNumber, .connector, .dash, .opening, .closing, .initial, .final,
  .otherPunctuation, .math, .currency, .modifierSymbol, .otherSymbol, .space, .line, .paragraph,
  .control, .format, .privateUse]

/-- The listed characters of a category. -/
def listedSet : Category → CharSet
  | .upper => .ofSpans upperSpans ∪ .everyOther upperTurns
  | .lower => .ofSpans lowerSpans ∪ .everyOther lowerTurns
  | .title => .ofSpans titleSpans
  | .modifierLetter => .ofSpans modifierLetterSpans
  | .otherLetter => .ofSpans otherLetterSpans
  | .nonspacing => .ofSpans nonspacingSpans
  | .spacing => .ofSpans spacingSpans
  | .enclosing => .ofSpans enclosingSpans
  | .decimal => .ofSpans digitRanges
  | .letterNumber => .ofSpans letterNumberSpans
  | .otherNumber => .ofSpans otherNumberSpans
  | .connector => .ofSpans connectorSpans
  | .dash => .ofSpans dashSpans
  | .opening => .ofSpans openSpans
  | .closing => .ofSpans closeSpans
  | .initial => .ofSpans initialSpans
  | .final => .ofSpans finalSpans
  | .otherPunctuation => .ofSpans otherPunctuationSpans
  | .math => .ofSpans mathSymbolSpans
  | .currency => .ofSpans currencySpans
  | .modifierSymbol => .ofSpans modifierSymbolSpans
  | .otherSymbol => .ofSpans otherSymbolSpans
  | .space => .ofSpans spaceSeparatorSpans
  | .line => .ofSpans lineSeparatorSpans
  | .paragraph => .ofSpans paragraphSeparatorSpans
  | .control => .ofSpans controlSpans
  | .format => .ofSpans formatSpans
  | .privateUse => .ofSpans privateUseSpans
  | .unassigned => .empty

/-- Code points that are no characters but halves of their encoding. -/
def surrogates : CharSet :=
  .range 0xD800 0xDFFF

/-- The characters of a category: the listed ones, or those that no list has. -/
def set : Category → CharSet
  | .unassigned => (CharSet.unions (surrogates :: listed.map listedSet)).compl
  | c => c.listedSet

end Category

/-- The characters of several categories. -/
def inCategories (cs : List Category) : CharSet :=
  .unions (cs.map Category.set)

namespace Category

def casedLetters : List Category := [.upper, .lower, .title]

def letters : List Category := casedLetters ++ [.modifierLetter, .otherLetter]

def marks : List Category := [.nonspacing, .spacing, .enclosing]

def numbers : List Category := [.decimal, .letterNumber, .otherNumber]

def punctuation : List Category :=
  [.connector, .dash, .opening, .closing, .initial, .final, .otherPunctuation]

def symbols : List Category := [.math, .currency, .modifierSymbol, .otherSymbol]

def separators : List Category := [.space, .line, .paragraph]

def others : List Category := [.control, .format, .unassigned, .privateUse]

/-- The names of categories and of groups of them. -/
def named : List (List String × List Category) := [
  (["C", "Other"], others),
  (["Cc", "Control", "cntrl"], [.control]),
  (["Cf", "Format"], [.format]),
  (["Cn", "Unassigned"], [.unassigned]),
  (["Co", "Private_Use"], [.privateUse]),
  (["L", "Letter"], letters),
  (["LC", "Cased_Letter"], casedLetters),
  (["Ll", "Lowercase_Letter"], [.lower]),
  (["Lm", "Modifier_Letter"], [.modifierLetter]),
  (["Lo", "Other_Letter"], [.otherLetter]),
  (["Lt", "Titlecase_Letter"], [.title]),
  (["Lu", "Uppercase_Letter"], [.upper]),
  (["M", "Mark", "Combining_Mark"], marks),
  (["Mc", "Spacing_Mark"], [.spacing]),
  (["Me", "Enclosing_Mark"], [.enclosing]),
  (["Mn", "Nonspacing_Mark"], [.nonspacing]),
  (["N", "Number"], numbers),
  (["Nd", "Decimal_Number", "digit"], [.decimal]),
  (["Nl", "Letter_Number"], [.letterNumber]),
  (["No", "Other_Number"], [.otherNumber]),
  (["P", "Punctuation", "punct"], punctuation),
  (["Pc", "Connector_Punctuation"], [.connector]),
  (["Pd", "Dash_Punctuation"], [.dash]),
  (["Pe", "Close_Punctuation"], [.closing]),
  (["Pf", "Final_Punctuation"], [.final]),
  (["Pi", "Initial_Punctuation"], [.initial]),
  (["Po", "Other_Punctuation"], [.otherPunctuation]),
  (["Ps", "Open_Punctuation"], [.opening]),
  (["S", "Symbol"], symbols),
  (["Sc", "Currency_Symbol"], [.currency]),
  (["Sk", "Modifier_Symbol"], [.modifierSymbol]),
  (["Sm", "Math_Symbol"], [.math]),
  (["So", "Other_Symbol"], [.otherSymbol]),
  (["Z", "Separator"], separators),
  (["Zl", "Line_Separator"], [.line]),
  (["Zp", "Paragraph_Separator"], [.paragraph]),
  (["Zs", "Space_Separator"], [.space])]

end Category

end FlowGraph.Text
