import Highlighting.CharSet.Property
import Highlighting.CharSet.Script

/-!
The part that a character plays in the division of a text into user-perceived characters, words and
sentences, with the names of these parts. Characters that play no part have no name here.
-/
namespace Highlighting.CharSet

def prependedMark : CharSet := .table Unicode.prependedConcatenationMarkRanges

def abbreviationMark : CharSet := single '\u070f'

def numberSign : CharSet := diff prependedMark abbreviationMark

def zeroWidthJoiner : CharSet := single '\u200d'

def regionalIndicator : CharSet := .table Unicode.regionalIndicatorRanges

def emojiModifier : CharSet := .table Unicode.emojiModifierRanges

/-- Syllables of Hangul without a final consonant; each is followed by those with one. -/
def openSyllable : CharSet :=
  .table ((List.range 399).map fun i => (0xAC00 + 28 * i, 0xAC00 + 28 * i)).toArray

def graphemeBreaks : List Named := [
  (["CN", "Control"],
    diff
      (unionAll [control, format, lineSeparator, paragraphSeparator,
        inter unassigned (.table Unicode.defaultIgnorableCodePointRanges)])
      (unionAll [single '\n', single '\r', zeroWidthJoiner, graphemeExtend, prependedMark])),
  (["CR"], single '\r'),
  (["LF"], single '\n'),
  (["EX", "Extend"], union graphemeExtend emojiModifier),
  (["L"], .table #[(0x1100, 0x115F), (0xA960, 0xA97C)]),
  (["V"], .table #[(0x1160, 0x11A7), (0xD7B0, 0xD7C6), (0x16D63, 0x16D63), (0x16D67, 0x16D6A)]),
  (["T"], .table #[(0x11A8, 0x11FF), (0xD7CB, 0xD7FB)]),
  (["LV"], openSyllable),
  (["LVT"], diff (.table #[(0xAC00, 0xD7A3)]) openSyllable),
  (["PP", "Prepend"],
    union prependedMark
      (.table #[(0xD4E, 0xD4E), (0x111C2, 0x111C3), (0x113D1, 0x113D1), (0x1193F, 0x1193F),
        (0x11941, 0x11941), (0x11A3A, 0x11A3A), (0x11A84, 0x11A89), (0x11D46, 0x11D46),
        (0x11F02, 0x11F02)])),
  (["RI", "Regional_Indicator"], regionalIndicator),
  (["SM", "SpacingMark"],
    union
      (diff spacingMark
        (union graphemeExtend
          (.table #[(0x102B, 0x102C), (0x1038, 0x1038), (0x1062, 0x1064), (0x1067, 0x106D),
            (0x1083, 0x1083), (0x1087, 0x108C), (0x108F, 0x108F), (0x109A, 0x109C),
            (0x1A61, 0x1A61), (0x1A63, 0x1A64), (0xAA7B, 0xAA7B), (0xAA7D, 0xAA7D),
            (0x11720, 0x11721)])))
      (ofList ['\u0e33', '\u0eb3'])),
  (["ZWJ"], zeroWidthJoiner)]

/-- Letters of the scripts that put no spaces between words, and those that have a part of their own. -/
def letterElsewhere : CharSet :=
  unionAll [.table Unicode.ideographicRanges, script "Hira", script "Kana", script "Hebr",
    script "Thai", script "Laoo", script "Khmr", script "Mymr", script "Tale", script "Talu",
    script "Lana", script "Tavt", script "Ahom"]

def wordBreaks : List Named := [
  (["CR"], single '\r'),
  (["LF"], single '\n'),
  (["NL", "Newline"], ofList ['\x0b', '\x0c', '\u0085', '\u2028', '\u2029']),
  (["DQ", "Double_Quote"], single '"'),
  (["SQ", "Single_Quote"], single '\''),
  (["EX", "ExtendNumLet"], union connectorPunctuation (single '\u202f')),
  (["Extend"], unionAll [graphemeExtend, spacingMark, emojiModifier]),
  (["FO", "Format"],
    diff format
      (unionAll [single '\u200b', zeroWidthJoiner, graphemeExtend, prependedMark])),
  (["HL", "Hebrew_Letter"], inter otherLetter (script "Hebr")),
  (["KA", "Katakana"],
    union (script "Kana")
      (.table #[(0x3031, 0x3035), (0x309B, 0x309C), (0x30A0, 0x30A0), (0x30FC, 0x30FC),
        (0xFF70, 0xFF70)])),
  (["LE", "ALetter"],
    union
      (diff alphabetic
        (unionAll [letterElsewhere, graphemeExtend, spacingMark,
          .table #[(0x3031, 0x3035), (0x30FC, 0x30FC), (0xFF70, 0xFF70)]]))
      (union abbreviationMark
        (.table #[(0xB8, 0xB8), (0x2C2, 0x2C5), (0x2D2, 0x2D7), (0x2DE, 0x2DF), (0x2E5, 0x2EB),
          (0x2ED, 0x2ED), (0x2EF, 0x2FF), (0x55A, 0x55C), (0x55E, 0x55E), (0x58A, 0x58A),
          (0x5F3, 0x5F3), (0xA708, 0xA716), (0xA720, 0xA721), (0xA789, 0xA78A),
          (0xAB5B, 0xAB5B)]))),
  (["MB", "MidNumLet"],
    ofList ['.', '\u2018', '\u2019', '\u2024', '\ufe52', '\uff07', '\uff0e']),
  (["ML", "MidLetter"],
    ofList [':', '\u00b7', '\u0387', '\u055f', '\u05f4', '\u2027', '\ufe13', '\ufe55', '\uff1a']),
  (["MN", "MidNum"],
    ofList [',', ';', '\u037e', '\u0589', '\u060c', '\u060d', '\u066c', '\u07f8', '\u2044',
      '\ufe50', '\ufe54', '\uff0c', '\uff1b']),
  (["NU", "Numeric"], unionAll [decimalNumber, numberSign, ofList ['\u066b', '\u19da']]),
  (["RI", "Regional_Indicator"], regionalIndicator),
  (["WSegSpace"], diff spaceSeparator (ofList ['\u00a0', '\u2007', '\u202f'])),
  (["ZWJ"], zeroWidthJoiner)]

/-- Letters of Georgian, of which the two cases play the part of letters without case. -/
def georgianLetter : CharSet :=
  .table #[(0x10D0, 0x10FA), (0x10FD, 0x10FF), (0x1C90, 0x1CBA), (0x1CBD, 0x1CBF)]

def fullStop : CharSet := ofList ['.', '\u2024', '\ufe52', '\uff0e']

def sentenceBreaks : List Named := [
  (["CR"], single '\r'),
  (["LF"], single '\n'),
  (["SE", "Sep"], ofList ['\u0085', '\u2028', '\u2029']),
  (["EX", "Extend"], unionAll [graphemeExtend, spacingMark, zeroWidthJoiner]),
  (["FO", "Format"],
    diff format (unionAll [zeroWidthJoiner, graphemeExtend, numberSign])),
  (["SP", "Sp"], diff blank (ofList ['\n', '\r', '\u0085', '\u2028', '\u2029'])),
  (["LO", "Lower"], diff lowercase (union graphemeExtend georgianLetter)),
  (["UP", "Upper"], diff (union uppercase titlecaseLetter) georgianLetter),
  (["LE", "OLetter"],
    unionAll [
      diff alphabetic
        (unionAll [lowercase, uppercase, titlecaseLetter, graphemeExtend, spacingMark]),
      georgianLetter,
      single '\u05f3']),
  (["NU", "Numeric"],
    unionAll [decimalNumber, numberSign, ofList ['\u066b', '\u066c', '\u19da']]),
  (["AT", "ATerm"], fullStop),
  (["ST", "STerm"], diff (.table Unicode.sentenceTerminalRanges) fullStop),
  (["SC", "SContinue"],
    .table #[(0x2C, 0x2D), (0x3A, 0x3B), (0x37E, 0x37E), (0x55D, 0x55D), (0x60C, 0x60D),
      (0x7F8, 0x7F8), (0x1802, 0x1802), (0x1808, 0x1808), (0x2013, 0x2014), (0x3001, 0x3001),
      (0xFE10, 0xFE11), (0xFE13, 0xFE14), (0xFE31, 0xFE32), (0xFE50, 0xFE51), (0xFE54, 0xFE55),
      (0xFE58, 0xFE58), (0xFE63, 0xFE63), (0xFF0C, 0xFF0D), (0xFF1A, 0xFF1B), (0xFF64, 0xFF64)]),
  (["CL", "Close"],
    union
      (unionAll [openPunctuation, closePunctuation, initialPunctuation, finalPunctuation])
      (.table #[(0x22, 0x22), (0x27, 0x27), (0x275B, 0x2760), (0x2E00, 0x2E01), (0x2E06, 0x2E08),
        (0x2E0B, 0x2E0B), (0x1F676, 0x1F678)]))]

end Highlighting.CharSet
