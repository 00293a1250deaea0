import Highlighting.CharSet.Category
import Highlighting.CharSet.Intervals
import Highlighting.Unicode.Property

/-!
Properties that characters have or have not, with the names they go by.
-/
namespace Highlighting.CharSet

def lowercase : CharSet := union lowercaseLetter (.table Unicode.otherLowercaseRanges)

def uppercase : CharSet := union uppercaseLetter (.table Unicode.otherUppercaseRanges)

def cased : CharSet := unionAll [lowercase, uppercase, titlecaseLetter]

def alphabetic : CharSet :=
  unionAll [letter, letterNumber, .table Unicode.otherAlphabeticRanges]

def math : CharSet := union mathSymbol (.table Unicode.otherMathRanges)

def graphemeExtend : CharSet :=
  unionAll [nonspacingMark, enclosingMark, .table Unicode.otherGraphemeExtendRanges]

def graphemeBase : CharSet :=
  compl (unionAll [other, lineSeparator, paragraphSeparator, graphemeExtend])

def caseIgnorable : CharSet :=
  unionAll [nonspacingMark, enclosingMark, format, modifierLetter, modifierSymbol,
    ofList ['\'', '.', ':', '\u00b7', '\u0387', '\u055f', '\u05f4', '\u2018', '\u2019', '\u2024',
      '\u2027', '\ufe13', '\ufe52', '\ufe55', '\uff07', '\uff0e', '\uff1a']]

def idStart : CharSet :=
  diff (unionAll [letter, letterNumber, .table Unicode.otherIdStartRanges])
    (.table Unicode.patternSyntaxRanges)

def idContinue : CharSet :=
  unionAll [idStart, nonspacingMark, spacingMark, decimalNumber, connectorPunctuation,
    .table Unicode.otherIdContinueRanges]

/-- Identifiers stay identifiers when they are put into a compatible normal form. -/
def xidContinue : CharSet :=
  diff idContinue (.table #[(0x37A, 0x37A), (0x309B, 0x309C), (0xFC5E, 0xFC63), (0xFDFA, 0xFDFB),
    (0xFE70, 0xFE70), (0xFE72, 0xFE72), (0xFE74, 0xFE74), (0xFE76, 0xFE76), (0xFE78, 0xFE78),
    (0xFE7A, 0xFE7A), (0xFE7C, 0xFE7C), (0xFE7E, 0xFE7E)])

def xidStart : CharSet :=
  diff (inter idStart xidContinue) (.table #[(0xE33, 0xE33), (0xEB3, 0xEB3), (0xFF9E, 0xFF9F)])

def foldable : CharSet :=
  .table (Intervals.normalize (Unicode.foldRuns.flatMap fun run =>
    Intervals.moved run.first run.step run.first run.first run.last)).toArray

def caseMate : CharSet :=
  union foldable (.table (Intervals.normalize (Unicode.foldRuns.flatMap fun run =>
    Intervals.moved run.first run.step run.target run.first run.last)).toArray)

/-- Folding leads to lower case, but not for Cherokee and for small letters that fold to others. -/
def changesWhenLowercased : CharSet :=
  union
    (diff foldable (.table #[(0xB5, 0xB5), (0x17F, 0x17F), (0x345, 0x345), (0x3C2, 0x3C2),
      (0x3D0, 0x3D1), (0x3D5, 0x3D6), (0x3F0, 0x3F1), (0x3F5, 0x3F5), (0x13F8, 0x13FD),
      (0x1C80, 0x1C88), (0x1E9B, 0x1E9B), (0x1FBE, 0x1FBE), (0x1FD3, 0x1FD3), (0x1FE3, 0x1FE3),
      (0xAB70, 0xABBF), (0xFB05, 0xFB05)]))
    (.table #[(0x130, 0x130), (0x13A0, 0x13F5)])

/-- Ligatures and letters with marks may fold to several characters. -/
def changesWhenCasefolded : CharSet :=
  union
    (diff foldable (.table #[(0x1FBE, 0x1FBE), (0x1FD3, 0x1FD3), (0x1FE3, 0x1FE3)]))
    (.table #[(0xDF, 0xDF), (0x130, 0x130), (0x149, 0x149), (0x587, 0x587), (0x1E9A, 0x1E9A),
      (0x1F80, 0x1F87), (0x1F90, 0x1F97), (0x1FA0, 0x1FA7), (0x1FB2, 0x1FB4), (0x1FB7, 0x1FB7),
      (0x1FC2, 0x1FC4), (0x1FC7, 0x1FC7), (0x1FF2, 0x1FF4), (0x1FF7, 0x1FF7), (0xFB00, 0xFB04),
      (0xFB06, 0xFB06), (0xFB13, 0xFB17)])

def changesWhenUppercased : CharSet :=
  union (diff caseMate changesWhenLowercased)
    (.table #[(0x131, 0x131), (0x149, 0x149), (0x1C5, 0x1C5), (0x1C8, 0x1C8), (0x1CB, 0x1CB),
      (0x1F0, 0x1F0), (0x1F2, 0x1F2), (0x587, 0x587), (0x1E96, 0x1E9A), (0x1F50, 0x1F50),
      (0x1F52, 0x1F52), (0x1F54, 0x1F54), (0x1F56, 0x1F56), (0x1F88, 0x1F8F), (0x1F98, 0x1F9F),
      (0x1FA8, 0x1FAF), (0x1FB2, 0x1FB2), (0x1FB4, 0x1FB4), (0x1FB6, 0x1FB7), (0x1FBC, 0x1FBC),
      (0x1FC2, 0x1FC2), (0x1FC4, 0x1FC4), (0x1FC6, 0x1FC7), (0x1FCC, 0x1FCC), (0x1FD2, 0x1FD2),
      (0x1FD6, 0x1FD7), (0x1FE2, 0x1FE2), (0x1FE4, 0x1FE4), (0x1FE6, 0x1FE7), (0x1FF2, 0x1FF2),
      (0x1FF4, 0x1FF4), (0x1FF6, 0x1FF7), (0x1FFC, 0x1FFC), (0xFB00, 0xFB04), (0xFB13, 0xFB17)])

/-- Letters in title case stay as they are, and so do those of Georgian. -/
def changesWhenTitlecased : CharSet :=
  union
    (diff changesWhenUppercased (.table #[(0x1C5, 0x1C5), (0x1C8, 0x1C8), (0x1CB, 0x1CB),
      (0x1F2, 0x1F2), (0x10D0, 0x10FA), (0x10FD, 0x10FF), (0x1F88, 0x1F8F), (0x1F98, 0x1F9F),
      (0x1FA8, 0x1FAF), (0x1FBC, 0x1FBC), (0x1FCC, 0x1FCC), (0x1FFC, 0x1FFC)]))
    (.table #[(0x1C4, 0x1C4), (0x1C7, 0x1C7), (0x1CA, 0x1CA), (0x1F1, 0x1F1)])

def changesWhenCasemapped : CharSet :=
  unionAll [changesWhenLowercased, changesWhenUppercased, changesWhenTitlecased]

def properties : List Named := [
  (["Alpha", "Alphabetic"], alphabetic),
  (["AHex", "ASCII_Hex_Digit"], .table Unicode.asciiHexDigitRanges),
  (["Bidi_C", "Bidi_Control"], .table Unicode.bidiControlRanges),
  (["Bidi_M", "Bidi_Mirrored"], .table Unicode.bidiMirroredRanges),
  (["CI", "Case_Ignorable"], caseIgnorable),
  (["Cased"], cased),
  (["CWCF", "Changes_When_Casefolded"], changesWhenCasefolded),
  (["CWCM", "Changes_When_Casemapped"], changesWhenCasemapped),
  (["CWL", "Changes_When_Lowercased"], changesWhenLowercased),
  (["CWT", "Changes_When_Titlecased"], changesWhenTitlecased),
  (["CWU", "Changes_When_Uppercased"], changesWhenUppercased),
  (["Dash"], .table Unicode.dashRanges),
  (["DI", "Default_Ignorable_Code_Point"], .table Unicode.defaultIgnorableCodePointRanges),
  (["Dep", "Deprecated"], .table Unicode.deprecatedRanges),
  (["Dia", "Diacritic"], .table Unicode.diacriticRanges),
  (["Emoji"], .table Unicode.emojiRanges),
  (["EComp", "Emoji_Component"], .table Unicode.emojiComponentRanges),
  (["EMod", "Emoji_Modifier"], .table Unicode.emojiModifierRanges),
  (["EBase", "Emoji_Modifier_Base"], .table Unicode.emojiModifierBaseRanges),
  (["EPres", "Emoji_Presentation"], .table Unicode.emojiPresentationRanges),
  (["ExtPict", "Extended_Pictographic"], .table Unicode.extendedPictographicRanges),
  (["Ext", "Extender"], .table Unicode.extenderRanges),
  (["Gr_Base", "Grapheme_Base"], graphemeBase),
  (["Gr_Ext", "Grapheme_Extend"], graphemeExtend),
  (["Gr_Link", "Grapheme_Link"], .table Unicode.graphemeLinkRanges),
  (["Hex", "Hex_Digit"], .table Unicode.hexDigitRanges),
  (["Hyphen"], .table Unicode.hyphenRanges),
  (["ID_Compat_Math_Continue"], .table Unicode.idCompatMathContinueRanges),
  (["ID_Compat_Math_Start"], .table Unicode.idCompatMathStartRanges),
  (["IDC", "ID_Continue"], idContinue),
  (["IDS", "ID_Start"], idStart),
  (["Ideo", "Ideographic"], .table Unicode.ideographicRanges),
  (["IDSB", "IDS_Binary_Operator"], .table Unicode.idsBinaryOperatorRanges),
  (["IDST", "IDS_Trinary_Operator"], .table Unicode.idsTrinaryOperatorRanges),
  (["IDSU", "IDS_Unary_Operator"], .table Unicode.idsUnaryOperatorRanges),
  (["Join_C", "Join_Control"], .table Unicode.joinControlRanges),
  (["LOE", "Logical_Order_Exception"], .table Unicode.logicalOrderExceptionRanges),
  (["Lower", "Lowercase"], lowercase),
  (["Math"], math),
  (["MCM", "Modifier_Combining_Mark"], .table Unicode.modifierCombiningMarkRanges),
  (["NChar", "Noncharacter_Code_Point"], .table Unicode.noncharacterCodePointRanges),
  (["OAlpha", "Other_Alphabetic"], .table Unicode.otherAlphabeticRanges),
  (["ODI", "Other_Default_Ignorable_Code_Point"],
    .table Unicode.otherDefaultIgnorableCodePointRanges),
  (["OGr_Ext", "Other_Grapheme_Extend"], .table Unicode.otherGraphemeExtendRanges),
  (["OIDC", "Other_ID_Continue"], .table Unicode.otherIdContinueRanges),
  (["OIDS", "Other_ID_Start"], .table Unicode.otherIdStartRanges),
  (["OLower", "Other_Lowercase"], .table Unicode.otherLowercaseRanges),
  (["OMath", "Other_Math"], .table Unicode.otherMathRanges),
  (["OUpper", "Other_Uppercase"], .table Unicode.otherUppercaseRanges),
  (["Pat_Syn", "Pattern_Syntax"], .table Unicode.patternSyntaxRanges),
  (["Pat_WS", "Pattern_White_Space"], .table Unicode.patternWhiteSpaceRanges),
  (["PCM", "Prepended_Concatenation_Mark"], .table Unicode.prependedConcatenationMarkRanges),
  (["QMark", "Quotation_Mark"], .table Unicode.quotationMarkRanges),
  (["Radical"], .table Unicode.radicalRanges),
  (["RI", "Regional_Indicator"], .table Unicode.regionalIndicatorRanges),
  (["STerm", "Sentence_Terminal"], .table Unicode.sentenceTerminalRanges),
  (["SD", "Soft_Dotted"], .table Unicode.softDottedRanges),
  (["Term", "Terminal_Punctuation"], .table Unicode.terminalPunctuationRanges),
  (["UIdeo", "Unified_Ideograph"], .table Unicode.unifiedIdeographRanges),
  (["Upper", "Uppercase"], uppercase),
  (["VS", "Variation_Selector"], .table Unicode.variationSelectorRanges),
  (["WSpace", "White_Space", "space"], .blank),
  (["XIDC", "XID_Continue"], xidContinue),
  (["XIDS", "XID_Start"], xidStart)]

end Highlighting.CharSet
