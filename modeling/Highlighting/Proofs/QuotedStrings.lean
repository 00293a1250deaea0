import Highlighting.Proofs.SearchSteps
import Highlighting.Proofs.WholeWords

/-! Quoted strings. The rule for them finds what a reader from left to right finds who takes a backslash
together with the character behind it: each string ends at the first quote that is not escaped. -/

namespace Highlighting

namespace Text

/-- Whether what comes behind a text is escaped: the text ends with a backslash that is not escaped itself. Its
first character is escaped if `escaped` holds. -/
def escapes (escaped : Bool) (own : Text) : Bool := own.foldl (fun escaped c => c = '\\' && !escaped) escaped

/-- What may stand between two quotes: other quotes only where they are escaped, line feeds only where they are
not. -/
def Inside (quote : Char) (escaped : Bool) (own : Text) : Prop :=
  escapes escaped own = false ∧ ∀ a x b, own = a ++ x :: b →
    (x = quote → escapes escaped a = true) ∧ (x = '\n' → escapes escaped a = false)

def Closes (quote : Char) (text own behind : Text) : Prop :=
  text = own ++ quote :: behind ∧ Inside quote false own

/-- Cuts a text at the first quote that is not escaped. There is none where the text ends before, or a
backslash is followed by nothing or by a line feed. -/
def upToQuote? (quote : Char) : Text → Option (Text × Text)
  | [] => none
  | ['\\'] => none
  | '\\' :: c :: rest =>
    if c = '\n' then none
    else (upToQuote? quote rest).map fun (own, behind) => ('\\' :: c :: own, behind)
  | c :: rest =>
    if c = quote then some ([], rest)
    else (upToQuote? quote rest).map fun (own, behind) => (c :: own, behind)

section

variable {quote c : Char} {text own behind : Text} {escaped : Bool}

lemma inside_nil : Inside quote escaped [] ↔ escaped = false := by
  simp [Inside, escapes]

lemma inside_cons : Inside quote escaped (c :: own) ↔
    ((c = quote → escaped = true) ∧ (c = '\n' → escaped = false)) ∧ Inside quote (c = '\\' && !escaped) own := by
  constructor
  · rintro ⟨hend, hcut⟩
    refine ⟨hcut [] c own rfl, hend, fun a x b h => hcut (c :: a) x b ?_⟩
    rw [h, List.cons_append]
  · rintro ⟨hc, hend, hcut⟩
    refine ⟨hend, fun a x b h => ?_⟩
    cases a with
    | nil =>
      obtain ⟨rfl, -⟩ := List.cons.inj h
      exact hc
    | cons d a =>
      obtain ⟨rfl, htail⟩ := List.cons.inj h
      exact hcut a x b htail

lemma not_closes_nil : ¬ Closes quote [] own behind := by
  simp [Closes]

lemma closes_quote : Closes quote (quote :: text) own behind ↔ own = [] ∧ behind = text := by
  constructor
  · rintro ⟨h, hinside⟩
    cases own with
    | nil => exact ⟨rfl, (List.cons.inj h).2.symm⟩
    | cons x own =>
      obtain ⟨rfl, -⟩ := List.cons.inj h
      simp [inside_cons] at hinside
  · rintro ⟨rfl, rfl⟩
    exact ⟨rfl, inside_nil.mpr rfl⟩

lemma closes_plain (hquote : c ≠ quote) (hc : c ≠ '\\') :
    Closes quote (c :: text) own behind ↔ ∃ rest, own = c :: rest ∧ Closes quote text rest behind := by
  constructor
  · rintro ⟨h, hinside⟩
    cases own with
    | nil => exact (hquote (List.cons.inj h).1).elim
    | cons x own =>
      obtain ⟨rfl, htail⟩ := List.cons.inj h
      exact ⟨own, rfl, htail, by simpa [inside_cons, hquote, hc] using hinside⟩
  · rintro ⟨rest, rfl, rfl, hinside⟩
    exact ⟨rfl, by simpa [inside_cons, hquote, hc] using hinside⟩

lemma closes_escape (hq : quote ≠ '\\') : Closes quote ('\\' :: text) own behind ↔
    ∃ c rest inside, text = c :: rest ∧ own = '\\' :: c :: inside ∧ c ≠ '\n' ∧ Closes quote rest inside behind := by
  constructor
  · rintro ⟨h, hinside⟩
    match own with
    | [] => exact (hq (List.cons.inj h).1.symm).elim
    | [x] =>
      obtain ⟨rfl, -⟩ := List.cons.inj h
      simp [inside_cons, inside_nil] at hinside
    | x :: c :: own =>
      obtain ⟨rfl, rfl⟩ := List.cons.inj h
      have hparts : c ≠ '\n' ∧ Inside quote false own := by simpa [inside_cons, hq.symm] using hinside
      exact ⟨c, own ++ quote :: behind, own, rfl, rfl, hparts.1, rfl, hparts.2⟩
  · rintro ⟨c, rest, inside, rfl, rfl, hc, rfl, hinside⟩
    exact ⟨rfl, by simpa [inside_cons, hq.symm] using ⟨hc, hinside⟩⟩

lemma ne_backslash (hlast : c = '\\' → text = [] → False)
    (hescape : ∀ d rest, c = '\\' → text = d :: rest → False) : c ≠ '\\' := by
  rintro rfl
  cases text with
  | nil => exact hlast rfl rfl
  | cons d rest => exact hescape d rest rfl rfl

lemma upToQuote?_eq_some (hq : quote ≠ '\\') :
    upToQuote? quote text = some (own, behind) ↔ Closes quote text own behind := by
  fun_induction upToQuote? quote text generalizing own behind with
  | case1 => simp [not_closes_nil]
  | case2 => simp [closes_escape hq]
  | case3 rest => simp [closes_escape hq]
  | case4 c rest hc ih =>
    simp only [Option.map_eq_some_iff, Prod.exists, Prod.mk.injEq, ih, closes_escape hq]
    constructor
    · rintro ⟨inside, behind, hcloses, rfl, rfl⟩
      exact ⟨c, rest, inside, rfl, rfl, hc, hcloses⟩
    · rintro ⟨d, rest, inside, heq, rfl, -, hcloses⟩
      obtain ⟨rfl, rfl⟩ := List.cons.inj heq
      exact ⟨inside, behind, hcloses, rfl, rfl⟩
  | case5 rest => simp [closes_quote, eq_comm]
  | case6 c rest hlast hescape hc ih =>
    have hplain := ne_backslash hlast hescape
    simp only [Option.map_eq_some_iff, Prod.exists, Prod.mk.injEq, ih, closes_plain hc hplain]
    constructor
    · rintro ⟨inside, behind, hcloses, rfl, rfl⟩
      exact ⟨inside, rfl, hcloses⟩
    · rintro ⟨inside, rfl, hcloses⟩
      exact ⟨inside, behind, hcloses, rfl, rfl⟩

lemma length_lt_of_upToQuote? (h : upToQuote? quote text = some (own, behind)) :
    behind.length < text.length := by
  fun_induction upToQuote? quote text generalizing own behind with
  | case1 => cases h
  | case2 => cases h
  | case3 rest => cases h
  | case4 c rest hc ih =>
    obtain ⟨⟨inside, ahead⟩, hrest, hcut⟩ := Option.map_eq_some_iff.mp h
    obtain ⟨-, rfl⟩ := Prod.mk.inj hcut
    have hlt := ih hrest
    simp only [List.length_cons]
    omega
  | case5 rest =>
    obtain ⟨-, rfl⟩ := Prod.mk.inj (Option.some.inj h)
    exact Nat.lt_succ_self _
  | case6 c rest hlast hescape hc ih =>
    obtain ⟨⟨inside, ahead⟩, hrest, hcut⟩ := Option.map_eq_some_iff.mp h
    obtain ⟨-, rfl⟩ := Prod.mk.inj hcut
    exact Nat.lt_succ_of_lt (ih hrest)

end

/-- The ranges of the strings of a text that begins at an offset. A quote that opens no string is skipped. -/
def stringsFrom (quote : Char) (offset : Nat) : Text → List Range
  | [] => []
  | c :: rest =>
    if c = quote then
      match _h : upToQuote? quote rest with
      | some (own, behind) =>
        ⟨offset, offset + byteLength (quote :: (own ++ [quote]))⟩ ::
          stringsFrom quote (offset + byteLength (quote :: (own ++ [quote]))) behind
      | none => stringsFrom quote (offset + c.utf8Size) rest
    else stringsFrom quote (offset + c.utf8Size) rest
termination_by text => text.length
decreasing_by
  · exact Nat.lt_succ_of_lt (length_lt_of_upToQuote? _h)
  · exact Nat.lt_succ_self _
  · exact Nat.lt_succ_self _

section

variable {quote : Char} {text before own behind : Text} {offset : Nat} {r : Range}

lemma stringsFrom_skip (h : quote ∉ before) :
    stringsFrom quote offset (before ++ text) = stringsFrom quote (offset + byteLength before) text := by
  induction before generalizing offset with
  | nil => rfl
  | cons c before ih =>
    rw [List.mem_cons, not_or] at h
    rw [List.cons_append, stringsFrom, if_neg (Ne.symm h.1), ih h.2, byteLength_cons, Nat.add_assoc]

lemma stringsFrom_closed (h : upToQuote? quote text = some (own, behind)) :
    stringsFrom quote offset (quote :: text) = ⟨offset, offset + byteLength (quote :: (own ++ [quote]))⟩ ::
      stringsFrom quote (offset + byteLength (quote :: (own ++ [quote]))) behind := by
  rw [stringsFrom, if_pos rfl]
  split
  · next own' behind' h' =>
    obtain ⟨rfl, rfl⟩ := Prod.mk.inj (Option.some.inj (h'.symm.trans h))
    rfl
  · next h' => cases h'.symm.trans h

lemma exists_of_mem_stringsFrom (hq : quote ≠ '\\') (hr : r ∈ stringsFrom quote offset text) :
    ∃ before own behind, text = before ++ quote :: (own ++ quote :: behind) ∧
      offset + byteLength before = r.start ∧ r.start + byteLength (quote :: (own ++ [quote])) = r.stop ∧
      Inside quote false own := by
  fun_induction stringsFrom quote offset text with
  | case1 offset => cases hr
  | case2 offset rest own behind hcut ih =>
    obtain ⟨rfl, hinside⟩ := (upToQuote?_eq_some hq).mp hcut
    rcases List.mem_cons.mp hr with rfl | hr
    · exact ⟨[], own, behind, rfl, rfl, rfl, hinside⟩
    · obtain ⟨before, own', behind', rfl, hstart, hstop, hinside'⟩ := ih hr
      refine ⟨quote :: (own ++ quote :: before), own', behind', by simp, ?_, hstop, hinside'⟩
      rw [← hstart]
      simp [Nat.add_assoc]
  | case3 offset rest hcut ih =>
    obtain ⟨before, own, behind, rfl, hstart, hstop, hinside⟩ := ih hr
    exact ⟨quote :: before, own, behind, rfl, by rw [← hstart, byteLength_cons, Nat.add_assoc], hstop, hinside⟩
  | case4 offset c rest hc ih =>
    obtain ⟨before, own, behind, rfl, hstart, hstop, hinside⟩ := ih hr
    exact ⟨c :: before, own, behind, rfl, by rw [← hstart, byteLength_cons, Nat.add_assoc], hstop, hinside⟩

end

end Text

namespace Lexeme

open Pattern Cursor Text

section

variable {quote c : Char} {before own behind text : Text} {f : Follow}

def stringUnit (quote : Char) : Pattern := alt escape (set (.compl (.ofList [quote, '\\'])))

lemma advances_stringUnit (quote : Char) : (stringUnit quote).Advances :=
  ((advances_set _).seq _).alt (advances_set _)

lemma run_stringUnit (f : Follow) (c : Cursor) : (stringUnit quote).run f c =
    ((set (.single '\\')).run ((set .inLine).run f) c <|> (set (.compl (.ofList [quote, '\\']))).run f c) := rfl

lemma contains_plain : (CharSet.compl (.ofList [quote, '\\'])).contains c = true ↔ c ≠ quote ∧ c ≠ '\\' := by
  rw [CharSet.contains, Bool.not_eq_true', Bool.eq_false_iff, Ne, contains_ofList]
  simp

lemma run_stringUnit_quote (hq : quote ≠ '\\') :
    (stringUnit quote).run f (between before (quote :: text)) = none := by
  simp [run_stringUnit, run_set_cons, contains_single, contains_plain, hq]

lemma run_stringUnit_plain (hquote : c ≠ quote) (hc : c ≠ '\\') :
    (stringUnit quote).run f (between before (c :: text)) = f (between (before ++ [c]) text) := by
  simp [run_stringUnit, run_set_cons, contains_single, contains_plain, hquote, hc]

lemma run_stringUnit_escape : (stringUnit quote).run f (between before ('\\' :: text)) =
    (set .inLine).run f (between (before ++ ['\\']) text) := by
  simp [run_stringUnit, run_set_cons, contains_single, contains_plain]

lemma run_char_cons (quote : Char) (f : Follow) (before : Text) (c : Char) (text : Text) :
    (char quote).run f (between before (c :: text)) =
      if c = quote then f (between (before ++ [c]) text) else none := by
  simp only [char, run_set_cons, contains_single]

lemma run_stringBody (hq : quote ≠ '\\') (f : Follow) (before text : Text) :
    (stringBody quote).run ((char quote).run f) (between before text) =
      (upToQuote? quote text).bind fun (own, behind) => f (between (before ++ (own ++ [quote])) behind) := by
  have hround := (advances_stringUnit quote).rounds_eq ((char quote).run f)
  rw [stringBody, ← stringUnit, (advances_stringUnit quote).run_star]
  -- one round of the loop for each step of the reader, which leaves no other way to read on
  fun_induction upToQuote? quote text generalizing before with
  | case1 => rfl
  | case2 =>
    rw [hround, run_stringUnit_escape, run_char_cons, if_neg hq.symm]
    rfl
  | case3 rest =>
    rw [hround, run_stringUnit_escape, run_char_cons, if_neg hq.symm, run_set_cons, if_neg (by decide)]
    rfl
  | case4 c rest hc ih =>
    rw [hround, run_stringUnit_escape, run_char_cons, if_neg hq.symm, run_set_cons,
      if_pos (contains_inLine.mpr hc), ih]
    cases upToQuote? quote rest <;> simp
  | case5 rest =>
    rw [hround, run_stringUnit_quote hq, run_char_cons, if_pos rfl]
    simp
  | case6 c rest hlast hescape hc ih =>
    have hplain := ne_backslash hlast hescape
    rw [hround, run_stringUnit_plain hc hplain, run_char_cons, if_neg hc, ih]
    cases upToQuote? quote rest <;> simp

lemma run_quotedString (f : Follow) (c : Cursor) : (quotedString quote).run f c =
    (char quote).run ((stringBody quote).run ((char quote).run f)) c := rfl

lemma run_quotedString_cons (hq : quote ≠ '\\') : (quotedString quote).run done (between before (c :: text)) =
    if c = quote then (upToQuote? quote text).map fun (own, _) =>
      ⟨Text.byteLength (before ++ quote :: (own ++ [quote])), []⟩
    else none := by
  rw [run_quotedString, run_char_cons, run_stringBody hq]
  by_cases hc : c = quote
  · rw [if_pos hc, if_pos hc, hc]
    cases upToQuote? quote text <;> simp [done, between]
  · rw [if_neg hc, if_neg hc]

lemma neverEmpty_quotedString (hq : quote ≠ '\\') : (quotedString quote).NeverEmpty := by
  intro text m hm
  obtain ⟨before, behind, -, hstart, hrun⟩ := isMatch_iff.mp hm
  cases behind with
  | nil => cases hrun
  | cons c behind =>
    rw [run_quotedString_cons hq, Option.ite_none_right_eq_some, Option.map_eq_some_iff] at hrun
    obtain ⟨-, ⟨own, behind⟩, -, hending⟩ := hrun
    have hpos := quote.utf8Size_pos
    rw [← hstart, ← hending]
    simp only [Text.byteLength_append, Text.byteLength_cons]
    omega

lemma matchesFrom_quotedString (hq : quote ≠ '\\') (before text : Text) :
    ((quotedString quote).matchesFrom (between before text)).map (·.range) =
      stringsFrom quote (Text.byteLength before) text := by
  generalize hoffset : Text.byteLength before = offset
  fun_induction stringsFrom quote offset text generalizing before with
  | case1 offset => rw [matchesFrom_nil rfl, List.map_nil]
  | case2 offset rest own behind hcut ih =>
    obtain ⟨rfl, -⟩ := (upToQuote?_eq_some hq).mp hcut
    have hread : quote :: (own ++ quote :: behind) = quote :: (own ++ [quote]) ++ behind := by simp
    have hrun : (quotedString quote).run done (between before (quote :: (own ++ [quote]) ++ behind)) =
        some ⟨Text.byteLength (before ++ quote :: (own ++ [quote])), []⟩ := by
      rw [← hread, run_quotedString_cons hq, if_pos rfl, hcut, Option.map_some]
    have hstop : Text.byteLength (before ++ quote :: (own ++ [quote])) =
        offset + Text.byteLength (quote :: (own ++ [quote])) := by rw [Text.byteLength_append, hoffset]
    rw [hread, matchesFrom_match (neverEmpty_quotedString hq) hrun rfl, List.map_cons, ih _ hstop]
    simp only [Match.range, hoffset, hstop]
  | case3 offset rest hcut ih =>
    have hrun : (quotedString quote).run done (between before (quote :: rest)) = none := by
      rw [run_quotedString_cons hq, if_pos rfl, hcut, Option.map_none]
    rw [matchesFrom_skip hrun, ih]
    simp [hoffset]
  | case4 offset c rest hc ih =>
    have hrun : (quotedString quote).run done (between before (c :: rest)) = none := by
      rw [run_quotedString_cons hq, if_neg hc]
    rw [matchesFrom_skip hrun, ih]
    simp [hoffset]

end

end Lexeme

namespace Rule

open Pattern Text

/-- The strings of a text are found: those of a reader from left to right. Each ends at its first quote that is
not escaped, and the first quote of the text opens one whatever else stands before such a quote, line feeds that
are not escaped among it. -/
structure FindsStrings (quote : Char) (text : Text) (found : List Range) : Prop where
  scanned : found = text.stringsFrom quote 0
  closed : ∀ r ∈ found, ∃ before own behind, text = before ++ quote :: (own ++ quote :: behind) ∧
    byteLength before = r.start ∧ r.start + byteLength (quote :: (own ++ [quote])) = r.stop ∧
    Inside quote false own
  opened : ∀ before own behind, text = before ++ quote :: (own ++ quote :: behind) → quote ∉ before →
    Inside quote false own →
    ⟨byteLength before, byteLength before + byteLength (quote :: (own ++ [quote]))⟩ ∈ found

lemma ranges_quotedString {rule : Rule} {quote : Char} (hq : quote ≠ '\\')
    (hp : rule.pattern = Lexeme.quotedString quote) (hrule : rule.group = none) (text : Text) :
    rule.ranges text = text.stringsFrom quote 0 := by
  rw [ranges_eq hrule, hp, findAll_eq, Lexeme.matchesFrom_quotedString hq, byteLength_nil,
    List.filter_eq_self]
  intro r hr
  obtain ⟨before, own, behind, -, -, hstop, -⟩ := exists_of_mem_stringsFrom hq hr
  have hpos := quote.utf8Size_pos
  rw [byteLength_cons] at hstop
  rw [Bool.not_eq_true', Range.isEmpty, decide_eq_false_iff_not]
  omega

lemma findsStrings {rule : Rule} {quote : Char} (hq : quote ≠ '\\')
    (hp : rule.pattern = Lexeme.quotedString quote) (hrule : rule.group = none) (text : Text) :
    FindsStrings quote text (rule.ranges text) := by
  rw [ranges_quotedString hq hp hrule]
  refine ⟨rfl, fun r hr => ?_, fun before own behind htext hbefore hinside => ?_⟩
  · obtain ⟨before, own, behind, htext, hstart, hstop, hinside⟩ := exists_of_mem_stringsFrom hq hr
    exact ⟨before, own, behind, htext, by rw [← hstart, Nat.zero_add], hstop, hinside⟩
  · have hcut : upToQuote? quote (own ++ quote :: behind) = some (own, behind) :=
      (upToQuote?_eq_some hq).mpr ⟨rfl, hinside⟩
    rw [htext, stringsFrom_skip hbefore, stringsFrom_closed hcut, Nat.zero_add]
    exact List.mem_cons_self

-- the second string is given up at its escaped line feed, so the quote behind that opens the next one
example : ranges ⟨"double_string", Lexeme.quotedString '"', .string, none⟩
    "\"a\\\"b\" \"c\\\n\"d\"".toList = [⟨0, 6⟩, ⟨11, 14⟩] := by decide +kernel

end Rule

namespace Language

/-- Behind the rule for numbers, the rules of every language begin with those for strings. -/
theorem grammar_finds_strings (language : Language) : ∃ numbers double single,
    language.grammar.rules = numbers :: double :: single :: Grammar.ownRules language ∧
      double.name = "double_string" ∧ single.name = "single_string" ∧
      ∀ text, Rule.FindsStrings '"' text (double.ranges text) ∧
        Rule.FindsStrings '\'' text (single.ranges text) := by
  refine ⟨_, _, _, rfl, rfl, rfl, fun text => ⟨?_, ?_⟩⟩
  · exact Rule.findsStrings (by decide) rfl rfl text
  · exact Rule.findsStrings (by decide) rfl rfl text

end Language

end Highlighting
