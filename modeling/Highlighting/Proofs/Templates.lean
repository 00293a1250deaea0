import Highlighting.Proofs.QuotedStrings

/-! Template literals. Their pattern lets a backslash stand alone as well as escape the character behind it, so
that a literal without a backquote that closes it is closed by an escaped one, the last of the text. -/

namespace Highlighting

namespace Text

/-- The text goes on to a quote that closes a template: the first one that is not escaped or, where all of them
are escaped, the last one. -/
def ClosesTemplate (quote : Char) (text own behind : Text) : Prop :=
  text = own ++ quote :: behind ∧ (∀ a b, own = a ++ quote :: b → escapes false a = true) ∧
    (escapes false own = true → quote ∉ behind)

/-- Cuts a text at the quote that closes a template. A backslash is taken together with the character behind it
unless the text has no quote behind these. -/
def upToTemplateEnd? (quote : Char) : Text → Option (Text × Text)
  | [] => none
  | ['\\'] => none
  | '\\' :: c :: rest =>
    match upToTemplateEnd? quote rest with
    | some (own, behind) => some ('\\' :: c :: own, behind)
    | none => if c = quote then some (['\\'], rest) else none
  | c :: rest =>
    if c = quote then some ([], rest)
    else (upToTemplateEnd? quote rest).map fun (own, behind) => (c :: own, behind)

/-- The ranges of the templates of a text that begins at an offset, from left to right. The first quote opens
one, unless it is the only quote. -/
inductive Templates (quote : Char) : (offset : Nat) → Text → List Range → Prop
  | none {offset : Nat} {text : Text} (h : quote ∉ text) : Templates quote offset text []
  | unclosed {offset : Nat} {before behind : Text} (hbefore : quote ∉ before) (hbehind : quote ∉ behind) :
      Templates quote offset (before ++ quote :: behind) []
  | closed {offset : Nat} {before text own behind : Text} {found : List Range} (hbefore : quote ∉ before)
      (h : ClosesTemplate quote text own behind)
      (hrest : Templates quote (offset + byteLength (before ++ quote :: (own ++ [quote]))) behind found) :
      Templates quote offset (before ++ quote :: text)
        (⟨offset + byteLength before, offset + byteLength (before ++ quote :: (own ++ [quote]))⟩ :: found)

section

variable {quote c : Char} {text own behind rest : Text} {offset : Nat} {found : List Range} {r : Range}

lemma escapes_escape (c : Char) (own : Text) : escapes false ('\\' :: c :: own) = escapes false own := by
  simp [escapes]

lemma escapes_plain (hc : c ≠ '\\') (own : Text) : escapes false (c :: own) = escapes false own := by
  simp [escapes, hc]

lemma ClosesTemplate.mem (h : ClosesTemplate quote text own behind) : quote ∈ text := by
  rw [h.1]
  exact List.mem_append_right own List.mem_cons_self

lemma closesTemplate_quote : ClosesTemplate quote (quote :: text) own behind ↔ own = [] ∧ behind = text := by
  constructor
  · rintro ⟨h, hescaped, -⟩
    cases own with
    | nil => exact ⟨rfl, (List.cons.inj h).2.symm⟩
    | cons x own =>
      obtain ⟨rfl, -⟩ := List.cons.inj h
      cases hescaped [] own rfl
  · rintro ⟨rfl, rfl⟩
    exact ⟨rfl, by simp, fun h => by cases h⟩

lemma closesTemplate_plain (hquote : c ≠ quote) (hc : c ≠ '\\') : ClosesTemplate quote (c :: text) own behind ↔
    ∃ inside, own = c :: inside ∧ ClosesTemplate quote text inside behind := by
  constructor
  · rintro ⟨h, hescaped, hlast⟩
    cases own with
    | nil => exact (hquote (List.cons.inj h).1).elim
    | cons x own =>
      obtain ⟨rfl, htail⟩ := List.cons.inj h
      refine ⟨own, rfl, htail, fun a b hown => ?_, fun hown => hlast ((escapes_plain hc own).trans hown)⟩
      rw [← escapes_plain hc a]
      exact hescaped (c :: a) b (by rw [hown, List.cons_append])
  · rintro ⟨inside, rfl, rfl, hescaped, hlast⟩
    refine ⟨rfl, fun a b hown => ?_, fun hown => hlast ((escapes_plain hc inside).symm.trans hown)⟩
    cases a with
    | nil => exact (hquote (List.cons.inj hown).1).elim
    | cons x a =>
      obtain ⟨rfl, htail⟩ := List.cons.inj hown
      rw [escapes_plain hc]
      exact hescaped a b htail

lemma closesTemplate_escape (hq : quote ≠ '\\') : ClosesTemplate quote ('\\' :: c :: rest) own behind ↔
    (∃ inside, own = '\\' :: c :: inside ∧ ClosesTemplate quote rest inside behind) ∨
      (own = ['\\'] ∧ c = quote ∧ behind = rest ∧ quote ∉ rest) := by
  constructor
  · rintro ⟨h, hescaped, hlast⟩
    match own with
    | [] => exact (hq (List.cons.inj h).1.symm).elim
    | [x] =>
      obtain ⟨rfl, htail⟩ := List.cons.inj h
      obtain ⟨rfl, rfl⟩ := List.cons.inj htail
      exact Or.inr ⟨rfl, rfl, rfl, hlast rfl⟩
    | x :: d :: inside =>
      obtain ⟨rfl, htail⟩ := List.cons.inj h
      obtain ⟨rfl, hrest⟩ := List.cons.inj htail
      refine Or.inl ⟨inside, rfl, hrest, fun a b hown => ?_, fun hown => hlast ((escapes_escape c inside).trans hown)⟩
      rw [← escapes_escape c a]
      exact hescaped ('\\' :: c :: a) b (by rw [hown, List.cons_append, List.cons_append])
  · rintro (⟨inside, rfl, rfl, hescaped, hlast⟩ | ⟨rfl, rfl, rfl, hlast⟩)
    · refine ⟨rfl, fun a b hown => ?_, fun hown => hlast ((escapes_escape c inside).symm.trans hown)⟩
      match a with
      | [] => exact (hq (List.cons.inj hown).1.symm).elim
      | [x] =>
        obtain ⟨rfl, -⟩ := List.cons.inj hown
        rfl
      | x :: d :: a =>
        obtain ⟨rfl, htail⟩ := List.cons.inj hown
        obtain ⟨rfl, hinside⟩ := List.cons.inj htail
        rw [escapes_escape]
        exact hescaped a b hinside
    · refine ⟨rfl, fun a b hown => ?_, fun _ => hlast⟩
      cases a with
      | nil => exact (hq (List.cons.inj hown).1.symm).elim
      | cons x a => simp at hown

lemma ClosesTemplate.unescaped_iff (h : ClosesTemplate quote text own behind) :
    escapes false own = false ↔ ∃ a b, text = a ++ quote :: b ∧ escapes false a = false := by
  obtain ⟨rfl, hescaped, hlast⟩ := h
  constructor
  · exact fun hown => ⟨own, behind, rfl, hown⟩
  · rintro ⟨a, b, htext, ha⟩
    by_contra hown
    rw [Bool.not_eq_false] at hown
    rcases List.append_eq_append_iff.mp htext with ⟨gap, rfl, hgap⟩ | ⟨gap, rfl, hgap⟩
    · cases gap with
      | nil => simp_all
      | cons x gap =>
        obtain ⟨rfl, rfl⟩ := List.cons.inj hgap
        exact hlast hown (List.mem_append_right gap List.mem_cons_self)
    · cases gap with
      | nil => simp_all
      | cons x gap =>
        obtain ⟨rfl, -⟩ := List.cons.inj hgap
        rw [hescaped a gap rfl] at ha
        cases ha

lemma Templates.exists_of_mem (h : Templates quote offset text found) (hr : r ∈ found) :
    ∃ before own behind, text = before ++ quote :: (own ++ quote :: behind) ∧
      offset + byteLength before = r.start ∧ r.start + byteLength (quote :: (own ++ [quote])) = r.stop ∧
      ClosesTemplate quote (own ++ quote :: behind) own behind := by
  induction h with
  | none => cases hr
  | unclosed => cases hr
  | @closed offset before text own behind found _ hcloses _ ih =>
    obtain rfl := hcloses.1
    rcases List.mem_cons.mp hr with rfl | hr
    · exact ⟨before, own, behind, rfl, rfl, by rw [byteLength_append, ← Nat.add_assoc], hcloses⟩
    · obtain ⟨gap, own', behind', rfl, hstart, hstop, hcloses'⟩ := ih hr
      refine ⟨before ++ quote :: (own ++ quote :: gap), own', behind', by simp, ?_, hstop, hcloses'⟩
      rw [← hstart]
      simp [Nat.add_assoc]

lemma upToTemplateEnd?_eq_none (hq : quote ≠ '\\') : upToTemplateEnd? quote text = none ↔ quote ∉ text := by
  fun_induction upToTemplateEnd? quote text with
  | case1 => simp
  | case2 => simp [hq]
  | case3 c rest own behind hrest ih =>
    have hmem : quote ∈ rest := by
      by_contra h
      rw [ih.mpr h] at hrest
      cases hrest
    simp [hmem]
  | case4 rest hrest ih => simp
  | case5 c rest hrest hc ih => simp [hq, Ne.symm hc, ih.mp hrest]
  | case6 rest => simp
  | case7 c rest hlast hescape hc ih => simp [ih, Ne.symm hc]

lemma upToTemplateEnd?_eq_some (hq : quote ≠ '\\') :
    upToTemplateEnd? quote text = some (own, behind) ↔ ClosesTemplate quote text own behind := by
  fun_induction upToTemplateEnd? quote text generalizing own behind with
  | case1 => simp [ClosesTemplate]
  | case2 => simp [ClosesTemplate, List.cons_eq_append_iff, hq]
  | case3 c rest inside ahead hrest ih =>
    have hmem : quote ∈ rest := (ih.mp hrest).mem
    simp only [closesTemplate_escape hq, ← ih, hrest, Option.some.injEq, Prod.mk.injEq, hmem, not_true, and_false,
      or_false]
    constructor
    · rintro ⟨rfl, rfl⟩
      exact ⟨inside, rfl, rfl, rfl⟩
    · rintro ⟨_, rfl, rfl, rfl⟩
      exact ⟨rfl, rfl⟩
  | case4 rest hrest ih =>
    have hmem : quote ∉ rest := (upToTemplateEnd?_eq_none hq).mp hrest
    simp [closesTemplate_escape hq, ← ih, hrest, hmem, eq_comm]
  | case5 c rest hrest hc ih => simp [closesTemplate_escape hq, ← ih, hrest, hc]
  | case6 rest => simp [closesTemplate_quote, eq_comm]
  | case7 c rest hlast hescape hc ih =>
    simp only [Option.map_eq_some_iff, Prod.exists, Prod.mk.injEq, ih,
      closesTemplate_plain hc (ne_backslash hlast hescape)]
    constructor
    · rintro ⟨inside, behind, hcloses, rfl, rfl⟩
      exact ⟨inside, rfl, hcloses⟩
    · rintro ⟨inside, rfl, hcloses⟩
      exact ⟨inside, behind, hcloses, rfl, rfl⟩

end

end Text

namespace Lexeme

open Pattern Cursor Text

section

variable {quote c : Char} {before text : Text} {f : Follow}

def templateUnit (quote : Char) : Pattern := alt escape (set (.compl (.single quote)))

def templateOf (quote : Char) : Pattern :=
  inOrder [char quote, star (templateUnit quote) true, char quote]

lemma advances_templateUnit (quote : Char) : (templateUnit quote).Advances :=
  ((advances_set _).seq _).alt (advances_set _)

lemma run_templateUnit (f : Follow) (c : Cursor) : (templateUnit quote).run f c =
    ((set (.single '\\')).run ((set .inLine).run f) c <|> (set (.compl (.single quote))).run f c) := rfl

lemma contains_other : (CharSet.compl (.single quote)).contains c = true ↔ c ≠ quote := by
  rw [CharSet.contains, Bool.not_eq_true', Bool.eq_false_iff, Ne, contains_single]

lemma run_templateUnit_quote (hq : quote ≠ '\\') :
    (templateUnit quote).run f (between before (quote :: text)) = none := by
  simp [run_templateUnit, run_set_cons, contains_single, contains_other, hq]

lemma run_templateUnit_plain (hquote : c ≠ quote) (hc : c ≠ '\\') :
    (templateUnit quote).run f (between before (c :: text)) = f (between (before ++ [c]) text) := by
  simp [run_templateUnit, run_set_cons, contains_single, contains_other, hquote, hc]

lemma run_templateUnit_backslash (hq : quote ≠ '\\') :
    (templateUnit quote).run f (between before ('\\' :: text)) =
      ((set .inLine).run f (between (before ++ ['\\']) text) <|> f (between (before ++ ['\\']) text)) := by
  simp [run_templateUnit, run_set_cons, contains_single, contains_other, Ne.symm hq]

def closing (quote : Char) : Follow := (star (templateUnit quote) true).run ((char quote).run done)

lemma closing_eq_none (h : quote ∉ text) : closing quote (between before text) = none := by
  rw [Option.eq_none_iff_forall_ne_some]
  intro e hrun
  obtain ⟨own, rest, e', rfl, hclose⟩ := exists_follow_of_run hrun
  obtain ⟨x, rest, rfl, hx, -⟩ := run_set_eq_some.mp hclose
  obtain rfl := contains_single.mp hx
  exact h (List.mem_append_right own List.mem_cons_self)

lemma closing_round (quote : Char) (c : Cursor) :
    closing quote c = ((templateUnit quote).run (closing quote) c <|> (char quote).run done c) := by
  have hstar : closing quote = (templateUnit quote).rounds true ((char quote).run done) :=
    funext fun d => (advances_templateUnit quote).run_star _ d
  rw [hstar]
  exact (advances_templateUnit quote).rounds_eq _ c

lemma closing_quote (hq : quote ≠ '\\') (before text : Text) :
    closing quote (between before (quote :: text)) = some ⟨Text.byteLength (before ++ [quote]), []⟩ := by
  rw [closing_round, run_templateUnit_quote hq, run_char_cons, if_pos rfl]
  rfl

lemma closing_plain (hquote : c ≠ quote) (hc : c ≠ '\\') (before text : Text) :
    closing quote (between before (c :: text)) = closing quote (between (before ++ [c]) text) := by
  rw [closing_round, run_templateUnit_plain hquote hc, run_char_cons, if_neg hquote]
  simp

lemma closing_escape (hq : quote ≠ '\\') (hc : c ≠ '\n') (before text : Text) :
    closing quote (between before ('\\' :: c :: text)) =
      (closing quote (between (before ++ ['\\', c]) text) <|>
        closing quote (between (before ++ ['\\']) (c :: text))) := by
  rw [closing_round, run_templateUnit_backslash hq, run_char_cons, if_neg hq.symm, run_set_cons,
    if_pos (contains_inLine.mpr hc), List.append_assoc, List.singleton_append]
  simp

lemma closing_lineFeed (hq : quote ≠ '\\') (hn : quote ≠ '\n') (before text : Text) :
    closing quote (between before ('\\' :: '\n' :: text)) =
      closing quote (between (before ++ ['\\', '\n']) text) := by
  rw [closing_round, run_templateUnit_backslash hq, run_char_cons, if_neg hq.symm, run_set_cons,
    if_neg (by decide), closing_plain hn.symm (by decide), List.append_assoc, List.singleton_append]
  simp

lemma closing_eq (hq : quote ≠ '\\') (hn : quote ≠ '\n') (before text : Text) :
    closing quote (between before text) =
      (upToTemplateEnd? quote text).map fun (own, _) => ⟨Text.byteLength (before ++ (own ++ [quote])), []⟩ := by
  fun_induction upToTemplateEnd? quote text generalizing before with
  | case1 => exact closing_eq_none (by simp)
  | case2 => exact closing_eq_none (by simp [hq])
  | case3 c rest own behind hrest ih =>
    have hread : closing quote (between (before ++ ['\\', c]) rest) = _ := ih _
    rw [hrest, Option.map_some] at hread
    by_cases hc : c = '\n'
    · rw [hc] at hread ⊢
      rw [closing_lineFeed hq hn, hread]
      simp [Nat.add_assoc]
    · rw [closing_escape hq hc, hread]
      simp [Nat.add_assoc]
  | case4 rest hrest ih =>
    -- the escape leads nowhere, so the backslash stands alone and the quote closes the template
    have hnone : closing quote (between (before ++ ['\\', quote]) rest) = none := by rw [ih, hrest, Option.map_none]
    rw [closing_escape hq hn, hnone, closing_quote hq]
    simp
  | case5 c rest hrest hc ih =>
    have hmem : quote ∉ rest := (upToTemplateEnd?_eq_none hq).mp hrest
    exact closing_eq_none (by simp [hq, Ne.symm hc, hmem])
  | case6 rest =>
    rw [closing_quote hq]
    rfl
  | case7 c rest hlast hescape hc ih =>
    rw [closing_plain hc (ne_backslash hlast hescape), ih]
    cases upToTemplateEnd? quote rest <;> simp [Nat.add_assoc]

lemma run_templateOf_cons (hq : quote ≠ '\\') (hn : quote ≠ '\n') (before : Text) (c : Char) (text : Text) :
    (templateOf quote).run done (between before (c :: text)) =
      if c = quote then (upToTemplateEnd? quote text).map fun (own, _) =>
        ⟨Text.byteLength (before ++ quote :: (own ++ [quote])), []⟩
      else none := by
  have hrun : (templateOf quote).run done (between before (c :: text)) =
      (char quote).run (closing quote) (between before (c :: text)) := rfl
  rw [hrun, run_char_cons, closing_eq hq hn]
  by_cases hc : c = quote
  · rw [if_pos hc, if_pos hc, hc]
    cases upToTemplateEnd? quote text <;> simp
  · rw [if_neg hc, if_neg hc]

lemma neverEmpty_templateOf (hq : quote ≠ '\\') (hn : quote ≠ '\n') : (templateOf quote).NeverEmpty := by
  intro text m hm
  obtain ⟨before, behind, -, hstart, hrun⟩ := isMatch_iff.mp hm
  cases behind with
  | nil => cases hrun
  | cons c behind =>
    rw [run_templateOf_cons hq hn, Option.ite_none_right_eq_some, Option.map_eq_some_iff] at hrun
    obtain ⟨-, ⟨own, behind⟩, -, hending⟩ := hrun
    have hpos := quote.utf8Size_pos
    rw [← hstart, ← hending]
    simp only [Text.byteLength_append, Text.byteLength_cons]
    omega

lemma matchesFrom_gap (hq : quote ≠ '\\') (hn : quote ≠ '\n') {gap : Text} (h : quote ∉ gap) (before text : Text) :
    (templateOf quote).matchesFrom (between before (gap ++ text)) =
      (templateOf quote).matchesFrom (between (before ++ gap) text) := by
  induction gap generalizing before with
  | nil => rw [List.nil_append, List.append_nil]
  | cons x gap ih =>
    rw [List.mem_cons, not_or] at h
    have hrun : (templateOf quote).run done (between before (x :: (gap ++ text))) = none := by
      rw [run_templateOf_cons hq hn, if_neg (Ne.symm h.1)]
    rw [List.cons_append, matchesFrom_skip hrun, ih h.2, List.append_assoc, List.singleton_append]

lemma matchesFrom_without (hq : quote ≠ '\\') (hn : quote ≠ '\n') (h : quote ∉ text) (before : Text) :
    (templateOf quote).matchesFrom (between before text) = [] := by
  have hgap := matchesFrom_gap hq hn h before []
  rw [List.append_nil] at hgap
  rw [hgap, matchesFrom_nil rfl]

lemma templates_matchesFrom (hq : quote ≠ '\\') (hn : quote ≠ '\n') (before text : Text) :
    Templates quote (Text.byteLength before) text
      (((templateOf quote).matchesFrom (between before text)).map (·.range)) := by
  -- over what is left, because a search goes on behind the template that it found
  induction hlength : text.length using Nat.strong_induction_on generalizing before text with
  | h n ih =>
    by_cases hmem : quote ∈ text
    · obtain ⟨gap, rest, rfl, hgap⟩ := List.eq_append_cons_of_mem hmem
      rw [matchesFrom_gap hq hn hgap]
      cases hrest : upToTemplateEnd? quote rest with
      | none =>
        have hrun : (templateOf quote).run done (between (before ++ gap) (quote :: rest)) = none := by
          rw [run_templateOf_cons hq hn, if_pos rfl, hrest, Option.map_none]
        have hwithout := (upToTemplateEnd?_eq_none hq).mp hrest
        rw [matchesFrom_skip hrun, matchesFrom_without hq hn hwithout]
        exact .unclosed hgap hwithout
      | some cut =>
        obtain ⟨own, behind⟩ := cut
        have hcloses := (upToTemplateEnd?_eq_some hq).mp hrest
        have hread : quote :: rest = quote :: (own ++ [quote]) ++ behind := by simp [hcloses.1]
        have hrun : (templateOf quote).run done (between (before ++ gap) (quote :: (own ++ [quote]) ++ behind)) =
            some ⟨Text.byteLength (before ++ gap ++ quote :: (own ++ [quote])), []⟩ := by
          rw [← hread, run_templateOf_cons hq hn, if_pos rfl, hrest, Option.map_some]
        have hlt : behind.length < n := by
          rw [← hlength, hcloses.1]
          simp only [List.length_append, List.length_cons]
          omega
        have hlater := ih _ hlt (before ++ gap ++ quote :: (own ++ [quote])) behind rfl
        rw [List.append_assoc before, Text.byteLength_append] at hlater
        have hfound := Templates.closed hgap hcloses hlater
        rw [hread] at hfound ⊢
        rw [matchesFrom_match (neverEmpty_templateOf hq hn) hrun rfl, List.map_cons]
        simpa [Match.range, Nat.add_assoc] using hfound
    · rw [matchesFrom_without hq hn hmem]
      exact .none hmem

end

end Lexeme

namespace Grammar

open Text

lemma templates_ranges {rule : Rule} (hp : rule.pattern = Lexeme.template) (hrule : rule.group = none) (text : Text) :
    Templates '\x60' 0 text (rule.ranges text) := by
  have hfound : Templates '\x60' 0 text ((Lexeme.template.findAll text).map (·.range)) := by
    rw [Pattern.findAll_eq]
    exact Lexeme.templates_matchesFrom (by decide) (by decide) [] text
  have hall : ((Lexeme.template.findAll text).map (·.range)).filter (!·.isEmpty) =
      (Lexeme.template.findAll text).map (·.range) := by
    rw [List.filter_eq_self]
    intro r hr
    obtain ⟨before, own, behind, -, -, hstop, -⟩ := hfound.exists_of_mem hr
    rw [byteLength_cons] at hstop
    have hpos := Char.utf8Size_pos '\x60'
    rw [Bool.not_eq_true', Range.isEmpty, decide_eq_false_iff_not]
    omega
  rw [Rule.ranges_eq hrule, hp, hall]
  exact hfound

lemma template_of_name {rule : Rule} (hrule : rule ∈ Language.javaScript.grammar.rules)
    (hname : rule.name = "template") : rule.pattern = Lexeme.template ∧ rule.group = none := by
  have hall : ∀ rule ∈ Language.javaScript.grammar.rules, rule.name = "template" →
      rule.pattern = Lexeme.template ∧ rule.group = none := by decide
  exact hall rule hrule hname

/-- A template goes from a backquote to the first one behind it that is not escaped. Where all backquotes behind
it are escaped it goes to the last one, and where there is none no template begins. -/
theorem template_ends_unescaped_iff {rule : Rule} (hrule : rule ∈ Language.javaScript.grammar.rules)
    (hname : rule.name = "template") (text : Text) : Templates '\x60' 0 text (rule.ranges text) ∧
      ∀ r ∈ rule.ranges text, ∃ before own behind, text = before ++ '\x60' :: (own ++ '\x60' :: behind) ∧
        byteLength before = r.start ∧ r.start + byteLength ('\x60' :: (own ++ ['\x60'])) = r.stop ∧
        ClosesTemplate '\x60' (own ++ '\x60' :: behind) own behind ∧
        (escapes false own = false ↔ ∃ a b, own ++ '\x60' :: behind = a ++ '\x60' :: b ∧ escapes false a = false) := by
  obtain ⟨hpattern, hgroup⟩ := template_of_name hrule hname
  have hfound := templates_ranges hpattern hgroup text
  refine ⟨hfound, fun r hr => ?_⟩
  obtain ⟨before, own, behind, htext, hstart, hstop, hcloses⟩ := hfound.exists_of_mem hr
  exact ⟨before, own, behind, htext, by rw [← hstart, Nat.zero_add], hstop, hcloses, hcloses.unescaped_iff⟩

/-- The first of the two backquotes behind the opening one is escaped, and does not close the template. -/
theorem template_goes_past_escaped_quote : ∃ rule ∈ Language.javaScript.grammar.rules, rule.name = "template" ∧
    rule.ranges "\x60a\\\x60b\x60".toList = [⟨0, 6⟩] ∧ Templates '\x60' 0 "\x60a\\\x60b\x60".toList [⟨0, 6⟩] := by
  have hrule : ⟨"template", Lexeme.template, .string, none⟩ ∈ Language.javaScript.grammar.rules := by decide
  have hranges : Rule.ranges ⟨"template", Lexeme.template, .string, none⟩ "\x60a\\\x60b\x60".toList = [⟨0, 6⟩] := by
    decide +kernel
  refine ⟨_, hrule, rfl, hranges, ?_⟩
  rw [← hranges]
  exact (template_ends_unescaped_iff hrule rfl _).1

/-- The only backquote behind the first one is escaped, and closes a template all the same. -/
theorem template_closed_by_escaped_quote : ∃ rule ∈ Language.javaScript.grammar.rules, rule.name = "template" ∧
    rule.ranges "\x60a\\\x60".toList = [⟨0, 4⟩] ∧
    ¬ ∃ a b, "a\\\x60".toList = a ++ '\x60' :: b ∧ escapes false a = false := by
  refine ⟨⟨"template", Lexeme.template, .string, none⟩, by decide, rfl, by decide +kernel, ?_⟩
  rintro ⟨a, b, htext, ha⟩
  match a with
  | [] => cases htext
  | [x] => cases htext
  | [x, y] =>
    cases htext
    cases ha
  | x :: y :: z :: a => simp at htext

end Grammar

end Highlighting
