import Highlighting.CharSet.Basic
import Highlighting.Unicode.Category

/-!
General categories and their groups, with the names they go by.
-/
namespace Highlighting.CharSet

/-- A set with the names it goes by, the shortest first. -/
abbrev Named := List String × CharSet

def uppercaseLetter : CharSet := .table Unicode.uppercaseLetterRanges

def lowercaseLetter : CharSet := .table Unicode.lowercaseLetterRanges

def titlecaseLetter : CharSet := .table Unicode.titlecaseLetterRanges

def modifierLetter : CharSet := .table Unicode.modifierLetterRanges

def otherLetter : CharSet := .table Unicode.otherLetterRanges

def nonspacingMark : CharSet := .table Unicode.nonspacingMarkRanges

def spacingMark : CharSet := .table Unicode.spacingMarkRanges

def enclosingMark : CharSet := .table Unicode.enclosingMarkRanges

def decimalNumber : CharSet := .digit

def letterNumber : CharSet := .table Unicode.letterNumberRanges

def otherNumber : CharSet := .table Unicode.otherNumberRanges

def connectorPunctuation : CharSet := .table Unicode.connectorPunctuationRanges

def dashPunctuation : CharSet := .table Unicode.dashPunctuationRanges

def openPunctuation : CharSet := .table Unicode.openPunctuationRanges

def closePunctuation : CharSet := .table Unicode.closePunctuationRanges

def initialPunctuation : CharSet := .table Unicode.initialPunctuationRanges

def finalPunctuation : CharSet := .table Unicode.finalPunctuationRanges

def otherPunctuation : CharSet := .table Unicode.otherPunctuationRanges

def mathSymbol : CharSet := .table Unicode.mathSymbolRanges

def currencySymbol : CharSet := .table Unicode.currencySymbolRanges

def modifierSymbol : CharSet := .table Unicode.modifierSymbolRanges

def otherSymbol : CharSet := .table Unicode.otherSymbolRanges

def spaceSeparator : CharSet := .table Unicode.spaceSeparatorRanges

def lineSeparator : CharSet := .table Unicode.lineSeparatorRanges

def paragraphSeparator : CharSet := .table Unicode.paragraphSeparatorRanges

def control : CharSet := .table Unicode.controlRanges

def format : CharSet := .table Unicode.formatRanges

def privateUse : CharSet := .table Unicode.privateUseRanges

def casedLetter : CharSet :=
  unionAll [uppercaseLetter, lowercaseLetter, titlecaseLetter]

def letter : CharSet :=
  unionAll [casedLetter, modifierLetter, otherLetter]

def mark : CharSet :=
  unionAll [nonspacingMark, spacingMark, enclosingMark]

def number : CharSet :=
  unionAll [decimalNumber, letterNumber, otherNumber]

def punctuation : CharSet :=
  unionAll [connectorPunctuation, dashPunctuation, openPunctuation, closePunctuation,
    initialPunctuation, finalPunctuation, otherPunctuation]

def symbol : CharSet :=
  unionAll [mathSymbol, currencySymbol, modifierSymbol, otherSymbol]

def separator : CharSet :=
  unionAll [spaceSeparator, lineSeparator, paragraphSeparator]

def other : CharSet :=
  compl (unionAll [letter, mark, number, punctuation, symbol, separator])

def unassigned : CharSet := diff other (unionAll [control, format, privateUse])

def categories : List Named := [
  (["Lu", "Uppercase_Letter"], uppercaseLetter),
  (["Ll", "Lowercase_Letter"], lowercaseLetter),
  (["Lt", "Titlecase_Letter"], titlecaseLetter),
  (["Lm", "Modifier_Letter"], modifierLetter),
  (["Lo", "Other_Letter"], otherLetter),
  (["Mn", "Nonspacing_Mark"], nonspacingMark),
  (["Mc", "Spacing_Mark"], spacingMark),
  (["Me", "Enclosing_Mark"], enclosingMark),
  (["Nd", "Decimal_Number", "digit"], decimalNumber),
  (["Nl", "Letter_Number"], letterNumber),
  (["No", "Other_Number"], otherNumber),
  (["Pc", "Connector_Punctuation"], connectorPunctuation),
  (["Pd", "Dash_Punctuation"], dashPunctuation),
  (["Ps", "Open_Punctuation"], openPunctuation),
  (["Pe", "Close_Punctuation"], closePunctuation),
  (["Pi", "Initial_Punctuation"], initialPunctuation),
  (["Pf", "Final_Punctuation"], finalPunctuation),
  (["Po", "Other_Punctuation"], otherPunctuation),
  (["Sm", "Math_Symbol"], mathSymbol),
  (["Sc", "Currency_Symbol"], currencySymbol),
  (["Sk", "Modifier_Symbol"], modifierSymbol),
  (["So", "Other_Symbol"], otherSymbol),
  (["Zs", "Space_Separator"], spaceSeparator),
  (["Zl", "Line_Separator"], lineSeparator),
  (["Zp", "Paragraph_Separator"], paragraphSeparator),
  (["Cc", "Control", "cntrl"], control),
  (["Cf", "Format"], format),
  (["Co", "Private_Use"], privateUse),
  (["LC", "Cased_Letter"], casedLetter),
  (["L", "Letter"], letter),
  (["M", "Mark", "Combining_Mark"], mark),
  (["N", "Number"], number),
  (["P", "Punctuation", "punct"], punctuation),
  (["S", "Symbol"], symbol),
  (["Z", "Separator"], separator),
  (["C", "Other"], other),
  (["Cn", "Unassigned"], unassigned),
  (["Any"], any),
  (["Assigned"], compl unassigned),
  (["ASCII"], ascii)]

end Highlighting.CharSet
