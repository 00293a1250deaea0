import Highlighting.Text.Bytes
import Highlighting.Unicode.Width

/-!
Columns that a text takes on a terminal. The text is read from its end to its beginning, because
the width of a character depends on what it is joined with behind it: letters that form a ligature
share a column, pictures tied together by joiners are shown as one, and a variation selector
decides whether a character is shown as a picture.
-/
namespace Highlighting.Text

/-- What stands between a place and a joiner with a picture behind it. -/
inductive Bridge where
  | direct
  | keycap
  | flagLetter
  | flag
  | oddFlagLetters
  | tagEnd
  /-- Letters of a region, the last ones of a tag. -/
  | tagLetters (count : Nat)
  | tagDigits (count : Nat)
  deriving DecidableEq, Repr

/-- A letter, or the rest of a ligature, that the letters before it may join. Marks and joiners may
stand between; some ligatures need a joiner. -/
inductive Partner where
  | alef
  | lamed (joined : Bool)
  | ya (joined : Bool)
  | vowelAndYa
  | consonant (joined : Bool)
  | joinerAndConsonant
  | toneLetter
  | orkhonI (joined : Bool)
  | coengLetter
  deriving DecidableEq, Repr

/-- What the text behind a place begins with, as far as it changes widths before it. -/
inductive Beginning where
  | plain
  | lineFeed
  | modifier
  | flagLetter
  | flagLetters
  | picture
  | joined (bridge : Bridge)
  | vowelE
  | vowelAi
  | letter (partner : Partner)
  deriving DecidableEq, Repr

/-- The text behind a place, with the variation selectors that wait for their character. -/
structure Behind where
  beginning : Beginning
  asPicture : Bool := false
  asText : Bool := false
  deriving DecidableEq, Repr

namespace Behind

def plain : Behind := { beginning := .plain }

def selectPicture (b : Behind) : Behind :=
  match b.beginning, b.asPicture with
  | .letter _, _ => { b with asPicture := true }
  | .joined .direct, false => { b with asPicture := true }
  | .joined .keycap, false => { b with asPicture := true }
  | _, _ => { beginning := .plain, asPicture := true }

def selectText (b : Behind) : Behind :=
  match b.beginning with
  | .letter _ => { b with asText := true }
  | _ => { beginning := .plain, asText := true }

def dropPicture (b : Behind) : Behind :=
  match b.beginning with
  | .letter _ => { b with asPicture := false }
  | _ => plain

def dropText (b : Behind) : Behind := { b with asText := false }

def isBridge (b : Behind) : Bool :=
  match b.beginning with
  | .joined _ => true
  | _ => false

end Behind

/-- Consonants of Khmer that have a form below the line. -/
def isCoengLetter (c : Char) : Bool :=
  let n := c.toNat
  0x1780 ≤ n && n ≤ 0x17AF && !(n ∈ [0x1783, 0x1788, 0x178D, 0x1794, 0x1799, 0x179A, 0x179E, 0x179F,
    0x17A1, 0x17A3, 0x17A4, 0x17A5, 0x17A6, 0x17A8, 0x17A9, 0x17AA, 0x17AD, 0x17AE])

def isTifinaghConsonant (c : Char) : Bool :=
  ('\u2d31' ≤ c && c ≤ '\u2d65') || c = '\u2d6f'

def isArabicLam (c : Char) : Bool :=
  c = '\u0644' || ('\u06b5' ≤ c && c ≤ '\u06b8') || c = '\u076a' || c = '\u08a6' || c = '\u08c7'

def isArabicAlef (c : Char) : Bool :=
  c ∈ ['\u0622', '\u0623', '\u0625', '\u0627', '\u0671', '\u0672', '\u0673', '\u0675', '\u0773',
    '\u0774'] || ('\u0870' ≤ c && c ≤ '\u0882')

/-- Marks that are ignored where they cannot be shown. Ligatures form across them. -/
def isIgnoredMark (c : Char) : Bool :=
  c = '\u034f' || c = '\u17b4' || c = '\u17b5' || ('\u180b' ≤ c && c ≤ '\u180d') || c = '\u180f' ||
    ('\ufe00' ≤ c && c ≤ '\ufe0f') || (0xE0100 ≤ c.toNat && c.toNat ≤ 0xE01EF)

def isTagLetter (c : Char) : Bool := 0xE0061 ≤ c.toNat && c.toNat ≤ 0xE007A

def isTagDigit (c : Char) : Bool := 0xE0030 ≤ c.toNat && c.toNat ≤ 0xE0039

def partner? (c : Char) : Option Partner :=
  if isArabicAlef c then some .alef
  else if c = '\u05dc' then some (.lamed false)
  else if c = '\u1a10' then some (.ya false)
  else if isTifinaghConsonant c then some (.consonant false)
  else if c = '\ua4fc' || c = '\ua4fd' then some .toneLetter
  else if c.toNat = 0x10C03 then some (.orkhonI false)
  else if isCoengLetter c then some .coengLetter
  else none

def beginningOf (c : Char) : Beginning :=
  if Unicode.isPicture c then .picture
  else if Unicode.isModifier c then .modifier
  else if Unicode.isFlagLetter c then .flagLetter
  else if c.toNat = 0x16D67 then .vowelE
  else if c.toNat = 0x16D68 then .vowelAi
  else match partner? c with
    | some partner => .letter partner
    | none => .plain

def behind (c : Char) : Behind :=
  if c = '\ufe0f' then { beginning := .plain, asPicture := true }
  else if c = '\ufe0e' then { beginning := .plain, asText := true }
  else { beginning := beginningOf c }

def Partner.join : Partner → Partner
  | lamed _ => lamed true
  | ya _ => ya true
  | consonant _ => consonant true
  | orkhonI _ => orkhonI true
  | p => p

def joinPartner? (c : Char) (p : Partner) : Option (Int × Beginning) :=
  match p with
  | .alef =>
    if isArabicLam c then some (0, .plain)
    else if Unicode.joinsThrough c then some (0, .letter .alef)
    else none
  | p =>
    if c = '\u200d' then some (0, .letter p.join)
    else if isIgnoredMark c then some (0, .letter p)
    else match p with
      | .lamed true => if c = '\u05d0' then some (0, .plain) else none
      | .ya true => if c = '\u1a17' then some (0, .letter .vowelAndYa) else none
      | .vowelAndYa => if c = '\u1a15' then some (0, .plain) else none
      | .consonant joined =>
        if c = '\u2d7f' then some (1, .letter .joinerAndConsonant)
        else if joined && isTifinaghConsonant c then some (0, .plain)
        else none
      | .joinerAndConsonant => if isTifinaghConsonant c then some (-1, .plain) else none
      | .toneLetter => if '\ua4f8' ≤ c && c ≤ '\ua4fb' then some (0, .plain) else none
      | .orkhonI true => if c.toNat = 0x10C32 then some (0, .plain) else none
      | .coengLetter => if c = '\u17d2' then some (-1, .plain) else none
      | _ => none

def joinBridge? (c : Char) (b : Bridge) : Option (Int × Beginning) :=
  match b with
  | .direct =>
    if c = '\u20e3' then some (0, .joined .keycap)
    else if Unicode.isFlagLetter c then some (1, .joined .flagLetter)
    else if Unicode.isModifier c then some (0, .modifier)
    else if c.toNat = 0xE007F then some (0, .joined .tagEnd)
    else if Unicode.isPicture c then some (0, .picture)
    else none
  | .keycap => none
  | .flagLetter | .oddFlagLetters =>
    if Unicode.isFlagLetter c then some (-1, .joined .flag) else none
  | .flag => if Unicode.isFlagLetter c then some (3, .joined .oddFlagLetters) else none
  | .tagEnd =>
    if isTagLetter c then some (0, .joined (.tagLetters 1))
    else if isTagDigit c then some (0, .joined (.tagDigits 1))
    else none
  | .tagLetters count =>
    if isTagLetter c && count < 6 then some (0, .joined (.tagLetters (count + 1)))
    else if isTagDigit c && count < 5 then some (0, .joined (.tagDigits 1))
    else if c.toNat = 0x1F3F4 && 3 ≤ count then some (0, .picture)
    else none
  | .tagDigits count =>
    if isTagDigit c && count < 3 then some (0, .joined (.tagDigits (count + 1)))
    else if c.toNat = 0x1F3F4 && count = 3 then some (0, .picture)
    else none

def join? (c : Char) (b : Beginning) : Option (Int × Beginning) :=
  match b with
  | .letter p => joinPartner? c p
  | .joined .flag | .joined .oddFlagLetters =>
    if c = '\u200d' then some (0, .joined .direct)
    else match b with
      | .joined bridge => joinBridge? c bridge
      | _ => none
  | .joined bridge => joinBridge? c bridge
  | .vowelE =>
    match c.toNat with
    | 0x16D63 => some (0, .plain)
    | 0x16D67 => some (0, .vowelAi)
    | 0x16D68 => some (1, .vowelE)
    | 0x16D69 => some (0, .plain)
    | _ => none
  | .vowelAi => if c.toNat = 0x16D63 then some (0, .plain) else none
  | .modifier =>
    if Unicode.isModifierBase c then some (0, .picture)
    else if c = '\u200d' then some (0, .joined .direct)
    else none
  | .flagLetter => if Unicode.isFlagLetter c then some (1, .flagLetters) else none
  | .flagLetters =>
    if Unicode.isFlagLetter c then some (1, .flagLetters)
    else if c = '\u200d' then some (0, .joined .direct)
    else none
  | .picture => if c = '\u200d' then some (0, .joined .direct) else none
  | .plain => none
  | .lineFeed => none

def wideStep (c : Char) (b : Behind) : Int × Behind :=
  if b = .plain then (Unicode.columns c, behind c)
  else if c = '\ufe0f' then (0, b.selectPicture)
  else if c = '\ufe0e' then (0, b.selectText)
  else if b.asText && Unicode.isTextBase c then (1, .plain)
  else match join? c b.dropText.beginning with
    | some (added, beginning) => (added, { beginning := beginning })
    | none => (Unicode.columns c, behind c)

/-- Up to the no-break space every character takes a column, but a line break takes none, neither
as a line feed nor with a carriage return before it. -/
def narrowStep (c : Char) (b : Behind) : Int × Behind :=
  if c = '\n' then (0, { beginning := .lineFeed })
  else if c = '\r' && b = { beginning := .lineFeed } then (0, .plain)
  else (1, .plain)

def columnStep (c : Char) (b : Behind) : Int × Behind :=
  if b.asPicture && Unicode.isPictureBase c then
    (if b.isBridge then 0 else 2, { beginning := .picture })
  else
    let b := if b.asPicture then b.dropPicture else b
    if c ≤ '\u00a0' then narrowStep c b else wideStep c b

def measure : Text → Int × Behind
  | [] => (0, .plain)
  | c :: rest =>
    let (columns, b) := measure rest
    let (added, b) := columnStep c b
    (columns + added, b)

def columns (text : Text) : Nat := (measure text).1.toNat

end Highlighting.Text
