import Highlighting.Grammar.OfLanguage
import Highlighting.Proofs.CommentScan

/-! Patterns that match some fixed words. The comment delimiters of every language are of this kind, and none
of their words goes on beyond a line. -/

namespace Highlighting

def Text.AtLineEnd (ahead : Text) : Prop := ahead = [] ∨ ∃ rest, ahead = '\n' :: rest

namespace Pattern

lemma run_inOrder_cons (a : Pattern) (as : List Pattern) (f : Follow) (c : Cursor) :
    (inOrder (a :: as)).run f c = a.run ((inOrder as).run f) c := by
  cases as with
  | nil => rfl
  | cons b as => rfl

lemma contains_single {x y : Char} : (CharSet.single x).contains y = true ↔ y = x := by
  simp only [CharSet.single, CharSet.contains, Bool.and_eq_true, decide_eq_true_eq]
  constructor
  · rintro ⟨hle, hge⟩
    exact Char.le_antisymm hge hle
  · rintro rfl
    exact ⟨Char.le_refl _, Char.le_refl _⟩

lemma run_char_of_eq {x : Char} {rest : Text} (f : Follow) {c : Cursor} (h : c.rest = x :: rest) :
    (char x).run f c = f ⟨some x, c.offset + x.utf8Size, rest⟩ := by
  obtain ⟨previous, offset, _⟩ := c
  obtain rfl := h
  simp only [char, run, contains_single, if_true]

lemma run_char_of_ne {x y : Char} {rest : Text} (f : Follow) {c : Cursor} (h : c.rest = y :: rest)
    (hne : y ≠ x) : (char x).run f c = none := by
  obtain ⟨previous, offset, _⟩ := c
  obtain rfl := h
  simp only [char, run, contains_single, hne, if_false]

lemma run_literal_of_append {s behind : Text} (f : Follow) {c : Cursor} (h : c.rest = s ++ behind) :
    ∃ d, d.offset = c.offset + Text.byteLength s ∧ d.rest = behind ∧ (literal s false).run f c = f d := by
  induction s generalizing c with
  | nil => exact ⟨c, rfl, h, rfl⟩
  | cons x s ih =>
    have hx : c.rest = x :: (s ++ behind) := h
    obtain ⟨d, hoffset, hrest, hrun⟩ := ih (c := ⟨some x, c.offset + x.utf8Size, s ++ behind⟩) rfl
    refine ⟨d, by rw [hoffset, Text.byteLength_cons, ← Nat.add_assoc], hrest, ?_⟩
    simp only [literal, List.map_cons, Bool.false_eq_true, if_false, run_inOrder_cons] at hrun ⊢
    rw [run_char_of_eq _ hx, hrun]

lemma run_literal_eq_none {s : Text} (f : Follow) {c : Cursor} (h : ¬ s <+: c.rest) :
    (literal s false).run f c = none := by
  induction s generalizing c with
  | nil => exact (h List.nil_prefix).elim
  | cons x s ih =>
    simp only [literal, List.map_cons, Bool.false_eq_true, if_false, run_inOrder_cons] at ih ⊢
    cases hrest : c.rest with
    | nil => simp only [char, run, hrest]
    | cons y rest =>
      by_cases hy : y = x
      · subst hy
        rw [run_char_of_eq _ hrest]
        refine ih fun hs => h ?_
        rw [hrest]
        exact (List.prefix_cons_inj y).mpr hs
      · exact run_char_of_ne _ hrest hy

def token? (tokens : List Text) (text : Text) : Option Text := tokens.find? (·.isPrefixOf text)

/-- Matches the first of some tokens that stands at the cursor, and nothing else. -/
def Spells (p : Pattern) (tokens : List Text) : Prop :=
  ∀ c : Cursor, p.run done c =
    (token? tokens c.rest).map fun token => ⟨c.offset + Text.byteLength token, []⟩

lemma token?_eq_some {tokens : List Text} {text token : Text} (h : token? tokens text = some token) :
    token ∈ tokens ∧ token <+: text := by
  rw [token?] at h
  have hstands := List.find?_some h
  exact ⟨List.mem_of_find?_eq_some h, List.isPrefixOf_iff_prefix.mp hstands⟩

lemma spells_literal (s : Text) : Spells (literal s false) [s] := by
  intro c
  by_cases h : s <+: c.rest
  · obtain ⟨behind, hrest⟩ := h
    obtain ⟨d, hoffset, -, hrun⟩ := run_literal_of_append done hrest.symm
    have htoken : s.isPrefixOf c.rest = true := List.isPrefixOf_iff_prefix.mpr ⟨behind, hrest⟩
    rw [hrun, done, hoffset]
    simp [token?, htoken]
  · have htoken : s.isPrefixOf c.rest = false := by
      rw [Bool.eq_false_iff]
      exact mt List.isPrefixOf_iff_prefix.mp h
    rw [run_literal_eq_none done h]
    simp [token?, htoken]

lemma Spells.alt {p q : Pattern} {ts us : List Text} (hp : p.Spells ts) (hq : q.Spells us) :
    (Pattern.alt p q).Spells (ts ++ us) := by
  intro c
  rw [run, hp c, hq c, token?, token?, token?, List.find?_append]
  cases ts.find? (·.isPrefixOf c.rest) with
  | none => rfl
  | some token => rfl

lemma Spells.isMatch_iff {p : Pattern} {tokens : List Text} (hp : p.Spells tokens) {text : Text}
    {m : Match} : p.IsMatch text m ↔ ∃ c token, (Cursor.start text).Reaches c ∧ c.offset = m.start ∧
      token? tokens c.rest = some token ∧ m.ending = ⟨c.offset + Text.byteLength token, []⟩ := by
  constructor
  · rintro ⟨c, hc, hstart, hrun⟩
    rw [hp c, Option.map_eq_some_iff] at hrun
    obtain ⟨token, htoken, hending⟩ := hrun
    exact ⟨c, token, hc, hstart, htoken, hending.symm⟩
  · rintro ⟨c, token, hc, hstart, htoken, hending⟩
    exact ⟨c, hc, hstart, by rw [hp c, htoken, hending, Option.map_some]⟩

lemma Spells.neverEmpty {p : Pattern} {tokens : List Text} (hp : p.Spells tokens)
    (hne : ∀ token ∈ tokens, token ≠ []) : p.NeverEmpty := by
  intro text m hm
  obtain ⟨c, token, -, hstart, htoken, hending⟩ := hp.isMatch_iff.mp hm
  have hpos := mt Text.byteLength_eq_zero.mp (hne token (token?_eq_some htoken).1)
  rw [← hstart, hending]
  simp only
  omega

/-- No token stands anywhere in a text, the end excepted, where more text is ahead. -/
def Quiet (tokens : List Text) (own ahead : Text) : Prop :=
  ∀ before behind, own = before ++ behind → behind ≠ [] → token? tokens (behind ++ ahead) = none

lemma Quiet.tail {tokens : List Text} {c : Char} {own ahead : Text} (h : Quiet tokens (c :: own) ahead) :
    Quiet tokens own ahead := by
  rintro before behind rfl hne
  exact h (c :: before) behind rfl hne

section

variable {tokens : List Text} {ahead : Text}

lemma prefix_append_iff {token text : Text} (hn : '\n' ∉ token) (ha : ahead.AtLineEnd) :
    token <+: text ++ ahead ↔ token <+: text := by
  induction text generalizing token with
  | nil =>
    rcases ha with rfl | ⟨rest, rfl⟩
    · rfl
    · cases token with
      | nil => simp
      | cons x token =>
        have hx : x ≠ '\n' := fun h => hn (h ▸ List.mem_cons_self)
        simp [hx]
  | cons y text ih =>
    cases token with
    | nil => simp
    | cons x token =>
      rw [List.cons_append, List.cons_prefix_cons, List.cons_prefix_cons,
        ih fun h => hn (List.mem_cons_of_mem x h)]

lemma token?_append (ht : ∀ token ∈ tokens, '\n' ∉ token) (ha : ahead.AtLineEnd) (text : Text) :
    token? tokens (text ++ ahead) = token? tokens text := by
  induction tokens with
  | nil => rfl
  | cons token tokens ih =>
    have hstands : token.isPrefixOf (text ++ ahead) = token.isPrefixOf text := by
      rw [Bool.eq_iff_iff, List.isPrefixOf_iff_prefix, List.isPrefixOf_iff_prefix]
      exact prefix_append_iff (ht token List.mem_cons_self) ha
    have hlater := ih fun other hmem => ht other (List.mem_cons_of_mem token hmem)
    simp only [token?, List.find?_cons, hstands] at hlater ⊢
    rw [hlater]

lemma quiet_append (ht : ∀ token ∈ tokens, '\n' ∉ token) (ha : ahead.AtLineEnd) {own behind : Text}
    (h : Quiet tokens own behind) : Quiet tokens own (behind ++ ahead) := by
  intro before rest hown hne
  rw [← List.append_assoc, token?_append ht ha]
  exact h before rest hown hne

lemma quiet_lineBreak (ht : ∀ token ∈ tokens, token ≠ [] ∧ '\n' ∉ token) (ahead : Text) :
    Quiet tokens ['\n'] ahead := by
  intro before rest hown hne
  obtain ⟨-, rfl⟩ : before = [] ∧ rest = ['\n'] := by
    cases before with
    | nil => exact ⟨rfl, hown.symm⟩
    | cons x before => simp_all
  have htail := token?_append (fun token hmem => (ht token hmem).2) (Or.inr ⟨ahead, rfl⟩) []
  rw [List.nil_append] at htail
  rw [List.singleton_append, htail, token?, List.find?_eq_none]
  intro token hmem
  simp [(ht token hmem).1]

end

section

variable {p : Pattern} {tokens : List Text} {text : Text} {c : Cursor}

lemma Spells.exists_isMatch (hp : p.Spells tokens) (hc : (Cursor.start text).Reaches c)
    {before behind token : Text} (h : c.rest = before ++ behind) (ht : token? tokens behind = some token) :
    ∃ m, p.IsMatch text m ∧ m.start = c.offset + Text.byteLength before := by
  obtain ⟨d, hd, hrest, hoffset⟩ := Cursor.exists_reaches c h
  rw [← hrest] at ht
  exact ⟨⟨d.offset, _⟩, hp.isMatch_iff.mpr ⟨d, token, hc.trans hd, rfl, ht, rfl⟩, hoffset⟩

lemma Spells.firstMatch (hp : p.Spells tokens) (hc : (Cursor.start text).Reaches c) {m : Match}
    (hm : p.FirstMatch text c.offset m) : ∃ gap token e d, (Cursor.start text).Reaches e ∧ e.Reaches d ∧
      c.Spans gap e ∧ e.Spans token d ∧ e.offset = m.start ∧ d.offset = m.ending.stop ∧
      token? tokens e.rest = some token ∧ Quiet tokens gap e.rest := by
  obtain ⟨e, token, he, hstart, htoken, hending⟩ := hp.isMatch_iff.mp hm.1
  have hle : c.offset ≤ e.offset := by
    rw [hstart]
    exact hm.2.1
  obtain ⟨gap, hgap⟩ := (hc.of_offset_le he hle).exists_text
  obtain ⟨behind, hbehind⟩ := (token?_eq_some htoken).2
  obtain ⟨d, hd, rfl, hoffset⟩ := Cursor.exists_reaches e hbehind.symm
  refine ⟨gap, token, e, d, he, hd, hgap, ⟨hbehind.symm, hoffset⟩, hstart, ?_, htoken, ?_⟩
  · rw [hoffset, hending]
  · intro before rest hown hne
    by_contra hsome
    obtain ⟨other, hother⟩ := Option.ne_none_iff_exists'.mp hsome
    have hrest : c.rest = before ++ (rest ++ e.rest) := by rw [hgap.1, hown, List.append_assoc]
    obtain ⟨n, hn, hnstart⟩ := hp.exists_isMatch hc hrest hother
    have hfirst := hm.2.2 n hn (by omega)
    have hpos := mt Text.byteLength_eq_zero.mp hne
    have hstart' := hgap.2
    rw [hown, Text.byteLength_append] at hstart'
    omega

lemma Spells.noMatchFrom (hp : p.Spells tokens) (hc : (Cursor.start text).Reaches c)
    (h : p.NoMatchFrom text c.offset) : Quiet tokens c.rest [] := by
  intro before rest hrest _
  rw [List.append_nil]
  by_contra hsome
  obtain ⟨token, htoken⟩ := Option.ne_none_iff_exists'.mp hsome
  obtain ⟨n, hn, hstart⟩ := hp.exists_isMatch hc hrest htoken
  have hlt := h n hn
  omega

end

end Pattern

structure CommentTokens where
  opening : List Text
  closing : List Text

namespace CommentTokens

def InLine (t : CommentTokens) : Prop :=
  ∀ token ∈ t.opening ++ t.closing, token ≠ [] ∧ '\n' ∉ token

end CommentTokens

def Language.commentTokens? : Language → Option CommentTokens
  | .python => some ⟨["\"\"\"".toList, "\x27\x27\x27".toList], ["\"\"\"".toList, "\x27\x27\x27".toList]⟩
  | .html => some ⟨["<!--".toList], ["-->".toList]⟩
  | .text => none
  | .javaScript | .css | .sql | .java | .cpp | .cSharp | .php | .ruby | .go =>
    some ⟨["/*".toList], ["*/".toList]⟩

namespace Delimiters

def Spell (d : Delimiters) (t : CommentTokens) : Prop :=
  d.opening.Spells t.opening ∧ d.closing.Spells t.closing

lemma Spell.neverEmpty {d : Delimiters} {t : CommentTokens} (h : d.Spell t) (ht : t.InLine) :
    d.NeverEmpty :=
  ⟨h.1.neverEmpty fun token hmem => (ht token (List.mem_append_left _ hmem)).1,
    h.2.neverEmpty fun token hmem => (ht token (List.mem_append_right _ hmem)).1⟩

lemma slashDelimiters_spell :
    Grammar.slashDelimiters.Spell ⟨["/*".toList], ["*/".toList]⟩ :=
  ⟨Pattern.spells_literal _, Pattern.spells_literal _⟩

lemma markupDelimiters_spell :
    Grammar.markupDelimiters.Spell ⟨["<!--".toList], ["-->".toList]⟩ :=
  ⟨Pattern.spells_literal _, Pattern.spells_literal _⟩

lemma tripleQuoteDelimiters_spell : Grammar.tripleQuoteDelimiters.Spell
    ⟨["\"\"\"".toList, "\x27\x27\x27".toList], ["\"\"\"".toList, "\x27\x27\x27".toList]⟩ := by
  have hquotes := (Pattern.spells_literal ['"', '"', '"']).alt (Pattern.spells_literal ['\'', '\'', '\''])
  exact ⟨hquotes, hquotes⟩

end Delimiters

namespace Language

lemma inLine_commentTokens {language : Language} {t : CommentTokens}
    (h : language.commentTokens? = some t) : t.InLine := by
  cases language <;> cases h <;> intro token hmem <;> revert token <;> decide

lemma spell_commentTokens {language : Language} {t : CommentTokens}
    (h : language.commentTokens? = some t) :
    ∃ d, language.grammar.blockComment = some d ∧ d.Spell t := by
  cases language <;> cases h
  case python => exact ⟨_, rfl, Delimiters.tripleQuoteDelimiters_spell⟩
  case html => exact ⟨_, rfl, Delimiters.markupDelimiters_spell⟩
  all_goals exact ⟨_, rfl, Delimiters.slashDelimiters_spell⟩

lemma exists_commentTokens {language : Language} (h : language.grammar.blockComment ≠ none) :
    ∃ t, language.commentTokens? = some t := by
  cases language
  case text => exact (h rfl).elim
  all_goals exact ⟨_, rfl⟩

lemma neverEmpty_blockComment {language : Language} {d : Delimiters}
    (h : language.grammar.blockComment = some d) : d.NeverEmpty := by
  obtain ⟨t, ht⟩ := exists_commentTokens (Option.ne_none_iff_exists'.mpr ⟨d, h⟩)
  obtain ⟨d', hd', hspell⟩ := spell_commentTokens ht
  obtain rfl := Option.some.inj (h.symm.trans hd')
  exact hspell.neverEmpty (inLine_commentTokens ht)

end Language

end Highlighting
