import Highlighting.Proofs.LongestReading
import Highlighting.Proofs.WholeWords

/-! Numbers. The rule for them finds at each place the longest number that stands there as a word of its own, and
every word that consists of digits is part of one. -/

namespace Highlighting

namespace Text

def Digits (own : Text) : Prop := own ≠ [] ∧ ∀ c ∈ own, Unicode.isDigit c = true

def Sign (own : Text) : Prop := own = [] ∨ own = ['-'] ∨ own = ['+']

def Fraction (own : Text) : Prop := own = [] ∨ ∃ digits, own = '.' :: digits ∧ Digits digits

def Exponent (own : Text) : Prop :=
  own = [] ∨ ∃ e sign digits, own = e :: (sign ++ digits) ∧ (e = 'e' ∨ e = 'E') ∧ Sign sign ∧ Digits digits

/-- A number with no word character before its first digit or behind its last one. -/
def IsNumber (before own behind : Text) : Prop :=
  ∃ sign whole fraction exponent, own = sign ++ (whole ++ (fraction ++ exponent)) ∧
    Sign sign ∧ Digits whole ∧ Fraction fraction ∧ Exponent exponent ∧
    (before ++ sign).getLast?.any Unicode.isWord = false ∧ behind.head?.any Unicode.isWord = false

section

variable {before own behind sign whole fraction exponent : Text}

lemma Digits.isWord (h : Digits own) : ∀ c ∈ own, Unicode.isWord c = true :=
  fun c hc => Unicode.isWord_of_isDigit (h.2 c hc)

lemma exists_last_digit (hwhole : Digits whole) (hfraction : Fraction fraction) (hexponent : Exponent exponent) :
    ∃ front digits, whole ++ (fraction ++ exponent) = front ++ digits ∧ Digits digits := by
  rcases hexponent with rfl | ⟨e, sign, digits, rfl, -, -, hdigits⟩
  · rcases hfraction with rfl | ⟨digits, rfl, hdigits⟩
    · exact ⟨[], whole, by simp, hwhole⟩
    · exact ⟨whole ++ ['.'], digits, by simp, hdigits⟩
  · exact ⟨whole ++ (fraction ++ e :: sign), digits, by simp, hdigits⟩

lemma IsNumber.exists_last_digit (h : IsNumber before own behind) :
    ∃ front digits, own = front ++ digits ∧ Digits digits := by
  obtain ⟨sign, whole, fraction, exponent, rfl, -, hwhole, hfraction, hexponent, -, -⟩ := h
  obtain ⟨front, digits, hlast, hdigits⟩ := Text.exists_last_digit hwhole hfraction hexponent
  exact ⟨sign ++ front, digits, by rw [hlast, List.append_assoc], hdigits⟩

end

end Text

namespace Lexeme

open Pattern Cursor Readings Text

def numberReadings : Readings :=
  after Sign (located .wordBoundary (after Digits (after Fraction (after Exponent
    (located .wordBoundary nothing)))))

lemma sign_eq {chars : List Char} (h : ∀ x, x ∈ chars ↔ x = '-' ∨ x = '+') :
    Sign = fun own => own = [] ∨ OneOf (.ofList chars) own := by
  funext own
  simp [Sign, OneOf, contains_ofList, h, and_or_left, exists_or]

lemma fraction_eq : Fraction = fun own => own = [] ∨ Both (OneOf (.single '.')) Digits own := by
  funext own
  simp [Fraction, Both, OneOf, contains_single]

lemma exponent_eq : Exponent = fun own => own = [] ∨ Both (OneOf (.ofList ['e', 'E'])) (Both Sign Digits) own := by
  funext own
  refine propext (or_congr_right ⟨?_, ?_⟩)
  · rintro ⟨e, sign, digits, rfl, he, hsign, hdigits⟩
    exact ⟨[e], sign ++ digits, rfl, ⟨e, rfl, contains_ofList.mpr (by simpa using he)⟩,
      sign, digits, rfl, hsign, hdigits⟩
  · rintro ⟨_, _, rfl, ⟨e, rfl, he⟩, sign, digits, rfl, hsign, hdigits⟩
    exact ⟨e, sign, digits, rfl, by simpa using contains_ofList.mp he, hsign, hdigits⟩

section

variable {f : Follow} {P : Readings} {q : Char → Prop}

lemma digit_ne_sign {x : Char} (hx : CharSet.digit.contains x = true) : ¬ (x = '-' ∨ x = '+') := by
  rintro (rfl | rfl) <;> revert hx <;> decide

lemma findsLongest_digits (h : FindsLongest f P) (hP : Avoid P (CharSet.digit.contains · = true)) :
    FindsLongest (digits.run f) (after Digits P) := h.loop hP

lemma findsLongest_sign (chars : List Char) (h : FindsLongest f P)
    (hchars : ∀ x, x ∈ chars ↔ x = '-' ∨ x = '+') (hP : Avoid P fun x => x = '-' ∨ x = '+') :
    FindsLongest ((optional (oneOfChars chars) true).run f) (after Sign P) := by
  rw [sign_eq hchars]
  refine (h.set (.ofList chars)).optional h (begin_oneOf _) fun before x own behind hp hx => ?_
  exact hP before x own behind hp ((hchars x).mp (contains_ofList.mp hx))

lemma avoid_digits : Avoid (after Digits P) fun x => x = '-' ∨ x = '+' :=
  avoid_after (begin_runOf .digit) fun _ => digit_ne_sign

lemma avoid_fraction (h : Avoid P q) (hq : ¬ q '.') : Avoid (after Fraction P) q := by
  rw [fraction_eq]
  refine h.after (begin_oneOf _).both fun x hx => ?_
  rwa [contains_single.mp hx]

lemma avoid_exponent (h : Avoid P q) (hq : ¬ q 'e' ∧ ¬ q 'E') : Avoid (after Exponent P) q := by
  rw [exponent_eq]
  refine h.after (begin_oneOf _).both fun x hx => ?_
  have hchar : x = 'e' ∨ x = 'E' := by simpa using contains_ofList.mp hx
  rcases hchar with rfl | rfl
  · exact hq.1
  · exact hq.2

lemma findsLongest_fraction (h : FindsLongest f P) (hdigit : Avoid P (CharSet.digit.contains · = true))
    (hpoint : Avoid P (· = '.')) :
    FindsLongest ((optional (seq (char '.') digits) true).run f) (after Fraction P) := by
  have hread : FindsLongest ((seq (char '.') digits).run f) (after (Both (OneOf (.single '.')) Digits) P) := by
    rw [after_both]
    exact (findsLongest_digits h hdigit).set (.single '.')
  rw [fraction_eq]
  refine hread.optional h (begin_oneOf _).both fun before x own behind hp hx => ?_
  exact hpoint before x own behind hp (contains_single.mp hx)

lemma findsLongest_exponent (h : FindsLongest f P) (hdigit : Avoid P (CharSet.digit.contains · = true))
    (he : Avoid P fun x => x = 'e' ∨ x = 'E') :
    FindsLongest ((optional (inOrder [oneOfChars ['e', 'E'], optional (oneOfChars ['+', '-']) true, digits])
      true).run f) (after Exponent P) := by
  have hread : FindsLongest
      ((inOrder [oneOfChars ['e', 'E'], optional (oneOfChars ['+', '-']) true, digits]).run f)
      (after (Both (OneOf (.ofList ['e', 'E'])) (Both Sign Digits)) P) := by
    rw [after_both, after_both]
    have hdigits := findsLongest_digits h hdigit
    have hsign := findsLongest_sign ['+', '-'] hdigits (by simp [or_comm]) avoid_digits
    exact hsign.set (.ofList ['e', 'E'])
  rw [exponent_eq]
  refine hread.optional h (begin_oneOf _).both fun before x own behind hp hx => ?_
  exact he before x own behind hp (by simpa using contains_ofList.mp hx)

lemma findsLongest_number : FindsLongest (number.run done) numberReadings := by
  have hend : FindsLongest ((look .wordBoundary).run done) (located .wordBoundary nothing) :=
    findsLongest_done.look .wordBoundary
  have havoid (q : Char → Prop) : Avoid (located .wordBoundary nothing) q := (avoid_nothing q).located .wordBoundary
  have hexponent := findsLongest_exponent hend (havoid _) (havoid _)
  have hfraction := findsLongest_fraction hexponent (avoid_exponent (havoid _) (by decide))
    (avoid_exponent (havoid _) (by decide))
  have hwhole := findsLongest_digits hfraction
    (avoid_fraction (avoid_exponent (havoid _) (by decide)) (by decide))
  exact findsLongest_sign ['-', '+'] (hwhole.look .wordBoundary) (by simp) (avoid_digits.located _)

/-- The first boundary looks at the character before the whole part, the second at the one behind the number,
since what they look at otherwise are digits. -/
lemma numberReadings_iff {before own behind : Text} :
    numberReadings before own behind ↔ IsNumber before own behind := by
  have hfirst {sign whole rest : Text} (hwhole : Digits whole) :
      Look.wordBoundary.holds (before ++ sign).getLast? (whole ++ rest ++ behind).head? = true ↔
        (before ++ sign).getLast?.any Unicode.isWord = false := by
    rw [List.append_assoc, holds_wordBoundary, any_head? hwhole.1 _ hwhole.isWord, Ne, Bool.not_eq_true]
  have hlast {sign whole fraction exponent : Text} (hwhole : Digits whole) (hfraction : Fraction fraction)
      (hexponent : Exponent exponent) : Look.wordBoundary.holds
        (before ++ sign ++ whole ++ fraction ++ exponent).getLast? ([] ++ behind).head? = true ↔
          behind.head?.any Unicode.isWord = false := by
    obtain ⟨front, digits, htail, hdigits⟩ := Text.exists_last_digit hwhole hfraction hexponent
    have hread : before ++ sign ++ whole ++ fraction ++ exponent = before ++ sign ++ front ++ digits := by
      rw [List.append_assoc, List.append_assoc, htail, ← List.append_assoc]
    rw [hread, holds_wordBoundary, any_getLast? hdigits.1 _ hdigits.isWord, List.nil_append, ne_comm, Ne,
      Bool.not_eq_true]
  constructor
  · rintro ⟨sign, _, rfl, hsign, hstart, whole, _, rfl, hwhole, fraction, _, rfl, hfraction, exponent, _, rfl,
      hexponent, hstop, rfl⟩
    rw [List.append_nil] at hstart ⊢
    exact ⟨sign, whole, fraction, exponent, rfl, hsign, hwhole, hfraction, hexponent, (hfirst hwhole).mp hstart,
      (hlast hwhole hfraction hexponent).mp hstop⟩
  · rintro ⟨sign, whole, fraction, exponent, rfl, hsign, hwhole, hfraction, hexponent, hstart, hstop⟩
    exact ⟨sign, _, rfl, hsign, (hfirst hwhole).mpr hstart, whole, _, rfl, hwhole, fraction, exponent, rfl, hfraction,
      exponent, [], by simp, hexponent, (hlast hwhole hfraction hexponent).mpr hstop, rfl⟩

lemma findsLongest_isNumber : FindsLongest (number.run done) IsNumber :=
  findsLongest_number.congr fun _ _ _ => numberReadings_iff

end

section

variable {text before own behind : Text} {m : Match} {r : Range} {c : Char}

lemma exists_number (hm : m ∈ number.findAll text) : ∃ before own behind, text = before ++ (own ++ behind) ∧
    Text.byteLength before = m.start ∧ Text.byteLength (before ++ own) = m.ending.stop ∧ IsNumber before own behind ∧
    ∀ own' behind', own ++ behind = own' ++ behind' → IsNumber before own' behind' →
      Text.byteLength own' ≤ Text.byteLength own :=
  findsLongest_isNumber.of_isMatch (isMatch_of_mem_findAll hm)

lemma ne_nil_of_isNumber (h : IsNumber before own behind) : own ≠ [] := by
  obtain ⟨front, digits, rfl, hdigits⟩ := h.exists_last_digit
  exact List.append_ne_nil_of_right_ne_nil front hdigits.1

lemma last_ne_sign (h : IsNumber before own behind) (hc : c ∈ own.getLast?) : ¬ (c = '-' ∨ c = '+') := by
  obtain ⟨front, digits, rfl, hdigits⟩ := h.exists_last_digit
  rw [List.getLast?_append_of_ne_nil front hdigits.1] at hc
  exact digit_ne_sign (hdigits.2 c (List.mem_of_getLast? hc))

lemma isNumber_signed (h : IsNumber (before ++ [c]) own behind) (hsign : c = '-' ∨ c = '+')
    (hfirst : own.head?.any Unicode.isDigit = true) : IsNumber before (c :: own) behind := by
  obtain ⟨sign, whole, fraction, exponent, rfl, hown, hwhole, hfraction, hexponent, hbefore, hbehind⟩ := h
  rcases hown with rfl | rfl | rfl
  · refine ⟨[c], whole, fraction, exponent, rfl, Or.inr ?_, hwhole, hfraction, hexponent, ?_, hbehind⟩
    · simpa using hsign
    · rwa [List.append_nil] at hbefore
  · cases hfirst
  · cases hfirst

lemma exists_found (h : IsNumber before own behind) : ∃ n ∈ number.findAll (before ++ (own ++ behind)),
    n.start ≤ Text.byteLength before ∧ Text.byteLength before < n.ending.stop := by
  obtain ⟨m, hm, hstart, hlt⟩ := findsLongest_isNumber.exists_isMatch h (ne_nil_of_isNumber h)
  rw [← hstart]
  exact exists_mem_findAll hm hlt

/-- A sign before a number that is found belongs to it: otherwise the number found before would end with this
sign. -/
lemma sign_before (hm : m ∈ number.findAll (before ++ (own ++ behind))) (hstart : Text.byteLength before = m.start)
    (hstop : Text.byteLength (before ++ own) = m.ending.stop) (h : IsNumber before own behind)
    (hfirst : own.head?.any Unicode.isDigit = true) : ∀ c ∈ before.getLast?, c ≠ '-' ∧ c ≠ '+' := by
  intro c hc
  rw [← not_or]
  intro hsign
  obtain ⟨front, rfl⟩ := List.getLast?_eq_some_iff.mp hc
  obtain ⟨n, hn, hle, hlt⟩ := exists_found (isNumber_signed h hsign hfirst)
  have htext : front ++ (c :: own ++ behind) = front ++ [c] ++ (own ++ behind) := by simp
  rw [htext] at hn
  have hsize : c.utf8Size = 1 := by rcases hsign with rfl | rfl <;> rfl
  have hfront : Text.byteLength (front ++ [c]) = Text.byteLength front + 1 := by simp [hsize]
  have hpos := Text.byteLength_pos (ne_nil_of_isNumber h)
  rw [Text.byteLength_append] at hstop
  have hend := stop_le_of_start_lt hn hm (by omega) (by omega)
  obtain ⟨b, o, rest, hcut, -, hstop', hnumber, -⟩ := exists_number hn
  rw [← List.append_assoc b] at hcut
  obtain ⟨hread, -⟩ := cut_unique hcut (by omega)
  have hlast : c ∈ o.getLast? := by
    rw [← List.getLast?_append_of_ne_nil b (ne_nil_of_isNumber hnumber), ← hread, List.getLast?_concat]
    rfl
  exact last_ne_sign hnumber hlast hsign

lemma covers_run {run : Text} (hrun : text.WordRun run r) (hdigits : ∀ c ∈ run, Unicode.isDigit c = true) :
    ∃ n ∈ number.findAll text, n.start ≤ r.start ∧ r.stop ≤ n.ending.stop := by
  obtain ⟨before, behind, rfl, hstart, hstop, hne, hword, hbefore, hbehind⟩ := hrun
  have hnumber : IsNumber before run behind :=
    ⟨[], run, [], [], by simp, Or.inl rfl, ⟨hne, hdigits⟩, Or.inl rfl, Or.inl rfl, by rwa [List.append_nil], hbehind⟩
  obtain ⟨n, hn, hle, hlt⟩ := exists_found hnumber
  refine ⟨n, hn, hstart ▸ hle, ?_⟩
  obtain ⟨b, o, h, htext, -, hend, ⟨-, -, -, -, -, -, -, -, -, -, hbound⟩, -⟩ := exists_number hn
  -- a number that ended within the run would have a word character behind it
  by_contra hgt
  rw [← List.append_assoc b] at htext
  obtain ⟨left, hleft, hrun⟩ := exists_between htext (by omega)
  rw [← hend, hleft, Text.byteLength_append] at hgt
  obtain ⟨right, rfl, rfl⟩ := exists_between hrun.symm (by omega)
  have hright : right ≠ [] := by
    rintro rfl
    rw [List.append_nil] at hstop
    omega
  rw [any_head? hright behind fun c hc => hword c (List.mem_append_right left hc)] at hbound
  cases hbound

end

end Lexeme

namespace Rule

open Pattern Text

/-- Numbers are found, each with its sign and as long as it can be, and all words of digits are within them. -/
structure FindsNumbers (text : Text) (found : List Range) : Prop where
  longest : ∀ r ∈ found, ∃ before own behind, text = before ++ (own ++ behind) ∧ byteLength before = r.start ∧
    byteLength (before ++ own) = r.stop ∧ IsNumber before own behind ∧
    (own.head?.any Unicode.isDigit = true → ∀ c ∈ before.getLast?, c ≠ '-' ∧ c ≠ '+') ∧
    ∀ own' behind', own ++ behind = own' ++ behind' → IsNumber before own' behind' → byteLength own' ≤ byteLength own
  ordered : found.Pairwise fun a b => a.stop ≤ b.start
  runs : ∀ run r, text.WordRun run r → (∀ c ∈ run, Unicode.isDigit c = true) →
    ∃! s, s ∈ found ∧ s.start ≤ r.start ∧ r.stop ≤ s.stop

lemma findsNumbers {rule : Rule} (hp : rule.pattern = Lexeme.number) (hrule : rule.group = none) (text : Text) :
    FindsNumbers text (rule.ranges text) := by
  refine ⟨fun r hr => ?_, ranges_ordered rule text, fun run r hrun hdigits => ?_⟩
  · obtain ⟨⟨m, hm, rfl⟩, -⟩ := (mem_ranges hrule).mp hr
    rw [hp] at hm
    obtain ⟨before, own, behind, rfl, hstart, hstop, hnumber, hmax⟩ := Lexeme.exists_number hm
    exact ⟨before, own, behind, rfl, hstart, hstop, hnumber, Lexeme.sign_before hm hstart hstop hnumber, hmax⟩
  · have hlt : r.start < r.stop := by
      obtain ⟨before, behind, -, -, hstop, hne, -⟩ := hrun
      have hpos := byteLength_pos hne
      omega
    obtain ⟨n, hn, hstart, hstop⟩ := Lexeme.covers_run hrun hdigits
    rw [← hp] at hn
    refine ⟨n.range, ⟨(mem_ranges hrule).mpr ⟨⟨n, hn, rfl⟩, ?_⟩, hstart, hstop⟩, ?_⟩
    · exact Nat.lt_of_le_of_lt hstart (Nat.lt_of_lt_of_le hlt hstop)
    · rintro s ⟨hs, hstart', hstop'⟩
      obtain ⟨⟨m, hm, rfl⟩, -⟩ := (mem_ranges hrule).mp hs
      rw [eq_of_mem_findAll hm hn ⟨hstart', Nat.lt_of_lt_of_le hlt hstop'⟩ ⟨hstart, Nat.lt_of_lt_of_le hlt hstop⟩]

example : ranges ⟨"number", Lexeme.number, .number, none⟩ "1.5e -2e+5x 1.23.45".toList =
    [⟨0, 1⟩, ⟨12, 16⟩, ⟨17, 19⟩] := by decide +kernel

end Rule

namespace Language

/-- The rules of every language begin with the one for numbers. -/
theorem grammar_finds_numbers (language : Language) : ∃ number others,
    language.grammar.rules = number :: others ∧ number.name = "number" ∧
      ∀ text, Rule.FindsNumbers text (number.ranges text) :=
  ⟨_, _, rfl, rfl, fun text => Rule.findsNumbers rfl rfl text⟩

end Language

end Highlighting
