import Highlighting.Proofs.CommentOverlap
import Highlighting.Proofs.Lines
import Highlighting.Proofs.Reading
import Highlighting.Proofs.Succession

/-! Line comments. A search for them finds on each line the first opener and all behind it, wherever that
opener stands. So a line comment is missed exactly where the first opener of its line is inside a block
comment. -/

namespace Highlighting

namespace Lexeme

open Pattern Cursor

section

variable {opener : String} {text before own behind : Text} {m : Match}

lemma run_lineComment (hown : '\n' ∉ own) (hbehind : behind.AtLineEnd) :
    (lineComment opener).run done (between before (opener.toList ++ (own ++ behind))) =
      some ⟨Text.byteLength before + Text.byteLength opener.toList + Text.byteLength own, []⟩ := by
  have hline : ∀ x ∈ own, CharSet.inLine.contains x = true :=
    fun x hx => contains_inLine.mpr fun h => hown (h ▸ hx)
  have hend : ∀ x ∈ behind.head?, CharSet.inLine.contains x = false := by
    intro x hx
    rw [Bool.eq_false_iff, Ne, contains_inLine, not_not]
    rcases hbehind with rfl | ⟨rest, rfl⟩
    · cases hx
    · exact (Option.some.inj hx).symm
  have hlook : (Look.lineEnd false).holds (before ++ opener.toList ++ own).getLast? behind.head? = true := by
    rcases hbehind with rfl | ⟨rest, rfl⟩ <;> simp [Look.holds]
  rw [lineComment, run_inOrder_cons]
  refine run_literal_eq_some.mpr ⟨opener.toList, own ++ behind, rfl, rfl, ?_⟩
  rw [run_inOrder_cons]
  refine run_star_set hline hend (run_look_eq_some.mpr ⟨hlook, ?_⟩)
  simp [done, between, Nat.add_assoc]

lemma isMatch_lineComment (ho : '\n' ∉ opener.toList) : (lineComment opener).IsMatch text m ↔
    ∃ stop, text.StandsAt opener.toList m.start ∧ text.SameLine m.start stop ∧ text.EndsLine stop ∧
      m.ending = ⟨stop, []⟩ := by
  constructor
  · intro h
    obtain ⟨before, rest, rfl, hstart, hrun⟩ := isMatch_iff.mp h
    obtain ⟨_, rest, rfl, rfl, -⟩ := run_literal_eq_some.mp ((run_inOrder_cons _ _ _ _).symm.trans hrun)
    obtain ⟨own, behind, rfl, hown, hbehind⟩ := Text.exists_lineEnd rest
    rw [run_lineComment hown hbehind, Option.some.injEq] at hrun
    refine ⟨_, ⟨before, own ++ behind, rfl, hstart⟩, ?_, ?_, hrun.symm⟩
    · refine ⟨before, opener.toList ++ own, behind, by simp, hstart, by simp [← hstart, Nat.add_assoc], ?_⟩
      rw [List.mem_append, not_or]
      exact ⟨ho, hown⟩
    · exact ⟨before ++ (opener.toList ++ own), behind, by simp, by simp [Nat.add_assoc], hbehind⟩
  · rintro ⟨stop, hstands, hline, hend, hending⟩
    obtain ⟨before, own, behind, rfl, hstart, rfl, hown, hbehind⟩ := hstands.exists_rest ho hline hend
    refine isMatch_iff.mpr ⟨before, _, rfl, hstart, ?_⟩
    rw [run_lineComment hown hbehind, hending, hstart]

lemma mem_findAll_of_firstOnLine (ho : opener.toList ≠ [] ∧ '\n' ∉ opener.toList) {first stop : Nat}
    (hfirst : text.FirstOnLine opener.toList first) (hline : text.SameLine first stop)
    (hend : text.EndsLine stop) : ⟨first, ⟨stop, []⟩⟩ ∈ (lineComment opener).findAll text := by
  have hmatch : (lineComment opener).IsMatch text ⟨first, ⟨stop, []⟩⟩ :=
    (isMatch_lineComment ho.2).mpr ⟨stop, hfirst.1, hline, hend, rfl⟩
  -- a match that begins before and reaches over this place has its opener on the same line
  refine mem_findAll_of_clear hmatch (hfirst.1.lt_lineEnd ho.1 ho.2 hline hend) fun n hn hlt => ?_
  obtain ⟨stop', hstands, hline', -, hending⟩ := (isMatch_lineComment ho.2).mp hn
  by_contra hle
  rw [hending, Nat.not_le] at hle
  have hsame := (hline'.split hfirst.1.isBoundary (Nat.le_of_lt hlt) (Nat.le_of_lt hle)).1
  exact Nat.not_le.mpr hlt (hfirst.2 n.start hstands hsame)

lemma mem_findAll_lineComment (ho : opener.toList ≠ [] ∧ '\n' ∉ opener.toList) :
    m ∈ (lineComment opener).findAll text ↔ ∃ stop, text.FirstOnLine opener.toList m.start ∧
      text.SameLine m.start stop ∧ text.EndsLine stop ∧ m.ending = ⟨stop, []⟩ := by
  constructor
  · intro hm
    obtain ⟨stop, hstands, hline, hend, hending⟩ := (isMatch_lineComment ho.2).mp (isMatch_of_mem_findAll hm)
    obtain ⟨first, hfirst, hsame⟩ := Text.exists_firstOnLine hstands
    have hfound := mem_findAll_of_firstOnLine ho hfirst (hsame.trans hline) hend
    have hlt := hstands.lt_lineEnd ho.1 ho.2 hline hend
    have heq := eq_of_mem_findAll hfound hm ⟨hsame.le, hlt⟩ ⟨Nat.le_refl _, by rw [hending]; exact hlt⟩
    exact ⟨stop, by rw [← heq]; exact hfirst, hline, hend, hending⟩
  · rintro ⟨stop, hfirst, hline, hend, hending⟩
    have hfound := mem_findAll_of_firstOnLine ho hfirst hline hend
    rwa [← hending] at hfound

end

end Lexeme

namespace Grammar

open Highlighting.Span

section

variable {language : Language} {opener : String} {text : Text} {incoming : BlockState}
variable {comments : List BlockComment}

lemma opener_spelled (hl : lineCommentOpener? language = some opener) :
    opener.toList ≠ [] ∧ '\n' ∉ opener.toList := by
  cases language <;> cases hl <;> decide

lemma kind_ne_comment {rule : Rule} (hr : rule ∈ language.grammar.rules) :
    rule.kind ≠ .comment ∧ rule.kind ≠ .blockComment := by
  have hall : ∀ rule ∈ language.grammar.rules, rule.kind ≠ .comment ∧ rule.kind ≠ .blockComment := by
    cases language <;> decide
  exact hall rule hr

lemma inLineComment_iff (hl : lineCommentOpener? language = some opener) {i : Nat} :
    language.grammar.InLineComment text comments i ↔
      ∃ first stop, text.FirstOnLine opener.toList first ∧ text.SameLine first stop ∧ text.EndsLine stop ∧
        ¬ InBlockComment comments first ∧ first ≤ i ∧ i < stop := by
  have ho := opener_spelled hl
  have hline : language.grammar.lineComment = some (Lexeme.lineComment opener) := by
    rw [Language.grammar, hl, Option.map_some]
  constructor
  · rintro ⟨p, m, hp, hm, -, hout, hi⟩
    rw [hline, Option.some.injEq] at hp
    rw [← hp, Lexeme.mem_findAll_lineComment ho] at hm
    obtain ⟨stop, hfirst, hsame, hend, hending⟩ := hm
    rw [hending] at hi
    exact ⟨m.start, stop, hfirst, hsame, hend, hout, hi⟩
  · rintro ⟨first, stop, hfirst, hsame, hend, hout, hi⟩
    have hm := Lexeme.mem_findAll_of_firstOnLine ho hfirst hsame hend
    exact ⟨_, _, hline, hm, hfirst.1.lt_lineEnd ho.1 ho.2 hsame hend, hout, hi⟩

lemma inLineComment_behind_opener (hl : lineCommentOpener? language = some opener) {first stop i : Nat}
    (hfirst : text.FirstOnLine opener.toList first) (hsame : text.SameLine first stop)
    (hend : text.EndsLine stop) (hi : first ≤ i ∧ i < stop) :
    language.grammar.InLineComment text comments i ↔ ¬ InBlockComment comments first := by
  rw [inLineComment_iff hl]
  constructor
  · rintro ⟨other, stop', hother, hsame', hend', hout, hi'⟩
    have ho := opener_spelled hl
    have hm := Lexeme.mem_findAll_of_firstOnLine ho hfirst hsame hend
    have hn := Lexeme.mem_findAll_of_firstOnLine ho hother hsame' hend'
    obtain rfl : first = other := congrArg Match.start (Pattern.eq_of_mem_findAll hm hn hi hi')
    exact hout
  · exact fun hout => ⟨first, stop, hfirst, hsame, hend, hout, hi⟩

lemma hasClass_comment (hopen : ¬ LeftOpen comments) {i : Nat} :
    language.grammar.HasClass text comments i .comment ↔ language.grammar.InLineComment text comments i := by
  constructor
  · rintro (⟨-, hline⟩ | _ | ⟨-, -, _, rule, _, hrules, hkind, -⟩)
    · exact hline
    · exact ((kind_ne_comment (hrules ▸ List.mem_append_right _ List.mem_cons_self)).1 hkind).elim
  · exact .comment hopen

lemma hasClass_blockComment (hopen : ¬ LeftOpen comments) {i : Nat} :
    language.grammar.HasClass text comments i .blockComment ↔
      ¬ language.grammar.InLineComment text comments i ∧ InBlockComment comments i := by
  constructor
  · rintro (_ | ⟨hline, hin⟩ | ⟨-, -, _, rule, _, hrules, hkind, -⟩)
    · exact ⟨hline.resolve_left hopen, hin⟩
    · exact ((kind_ne_comment (hrules ▸ List.mem_append_right _ List.mem_cons_self)).2 hkind).elim
  · exact fun h => .blockComment (Or.inr h.1) h.2

end

/-- Behind an opener of a line comment, the bytes up to the end of the line are shown as a line comment if
and only if the first opener of the line is outside all block comments. Otherwise those inside a block
comment are shown as such, and the others as no comment at all. -/
theorem shows_behind_opener_iff {language : Language} {opener : String}
    (hl : lineCommentOpener? language = some opener) (text : Text) (incoming : BlockState)
    (hn : (language.grammar.highlight text incoming).state = .normal) :
    ∃ comments, language.grammar.BlockComments text incoming comments ∧
      ∀ offset stop, text.StandsAt opener.toList offset → text.SameLine offset stop → text.EndsLine stop →
        ∃ first, text.FirstOnLine opener.toList first ∧ text.SameLine first offset ∧
          ∀ i, offset ≤ i → i < stop →
            (Shows (language.grammar.highlight text incoming).spans i .comment ↔
              ¬ InBlockComment comments first) ∧
            (Shows (language.grammar.highlight text incoming).spans i .blockComment ↔
              InBlockComment comments first ∧ InBlockComment comments i) := by
  have hg (d : Delimiters) (h : language.grammar.blockComment = some d) : d.NeverEmpty :=
    Language.neverEmpty_blockComment h
  have hscan := blockComments_comments hg text incoming
  have hopen : ¬ LeftOpen (language.grammar.comments text incoming) := BlockState.after_eq_normal.mp hn
  refine ⟨_, hscan, fun offset stop hstands hline hend => ?_⟩
  obtain ⟨first, hfirst, hsame⟩ := Text.exists_firstOnLine hstands
  refine ⟨first, hfirst, hsame, fun i hle hlt => ?_⟩
  have hcovered : language.grammar.InLineComment text (language.grammar.comments text incoming) i ↔
      ¬ InBlockComment (language.grammar.comments text incoming) first :=
    inLineComment_behind_opener hl hfirst (hsame.trans hline) hend ⟨hsame.le.trans hle, hlt⟩
  rw [shows_iff_hasClass hscan hg, shows_iff_hasClass hscan hg, hasClass_comment hopen,
    hasClass_blockComment hopen, hcovered, not_not]
  exact ⟨Iff.rfl, Iff.rfl⟩

theorem shows_behind_second_slashes :
    (Language.javaScript.grammar.highlight "/* é */ // 2 // 3".toList .normal).state = .normal ∧
      ∃ comments first, Language.javaScript.grammar.BlockComments "/* é */ // 2 // 3".toList .normal comments ∧
        Text.FirstOnLine "/* é */ // 2 // 3".toList "//".toList first ∧ ¬ InBlockComment comments first ∧
        Shows (Language.javaScript.grammar.highlight "/* é */ // 2 // 3".toList .normal).spans 17 .comment := by
  have hn : (Language.javaScript.grammar.highlight "/* é */ // 2 // 3".toList .normal).state = .normal := by
    decide
  have hspans : (Language.javaScript.grammar.highlight "/* é */ // 2 // 3".toList .normal).spans =
      [⟨0, 8, .blockComment⟩, ⟨9, 9, .comment⟩] := by decide +kernel
  have hstands : Text.StandsAt "/* é */ // 2 // 3".toList "//".toList 14 :=
    ⟨"/* é */ // 2 ".toList, " 3".toList, by decide, by decide⟩
  have hline : Text.SameLine "/* é */ // 2 // 3".toList 14 18 :=
    ⟨"/* é */ // 2 ".toList, "// 3".toList, [], by decide, by decide, by decide, by decide⟩
  have hend : Text.EndsLine "/* é */ // 2 // 3".toList 18 :=
    ⟨"/* é */ // 2 // 3".toList, [], by decide, by decide, Or.inl rfl⟩
  obtain ⟨comments, hscan, hshows⟩ := shows_behind_opener_iff rfl _ _ hn
  obtain ⟨first, hfirst, -, hclass⟩ := hshows 14 18 hstands hline hend
  have hcomment : Shows (Language.javaScript.grammar.highlight "/* é */ // 2 // 3".toList .normal).spans
      17 .comment := by
    rw [hspans]
    exact ⟨⟨9, 9, .comment⟩, by decide, by decide, rfl⟩
  exact ⟨hn, comments, first, hscan, hfirst, (hclass 17 (by decide) (by decide)).1.mp hcomment, hcomment⟩

/-- The opener inside the block comment takes the rest of the line with it, so that the one behind the
block comment opens nothing. -/
theorem not_shows_comment_behind_block_comment :
    ∃ comments, Language.javaScript.grammar.BlockComments "/* // */ // 5".toList .normal comments ∧
      (Language.javaScript.grammar.highlight "/* // */ // 5".toList .normal).state = .normal ∧
      Text.StandsAt "/* // */ // 5".toList "//".toList 9 ∧ ¬ InBlockComment comments 9 ∧
      Text.SameLine "/* // */ // 5".toList 9 13 ∧ Text.EndsLine "/* // */ // 5".toList 13 ∧
      ¬ Shows (Language.javaScript.grammar.highlight "/* // */ // 5".toList .normal).spans 12 .comment ∧
      ¬ Shows (Language.javaScript.grammar.highlight "/* // */ // 5".toList .normal).spans 12 .blockComment := by
  have hg (d : Delimiters) (h : Language.javaScript.grammar.blockComment = some d) : d.NeverEmpty :=
    Language.neverEmpty_blockComment h
  have hscan := blockComments_comments hg "/* // */ // 5".toList .normal
  have hcomments : Language.javaScript.grammar.comments "/* // */ // 5".toList .normal = [⟨⟨0, 8⟩, true⟩] := by
    decide
  have hspans : (Language.javaScript.grammar.highlight "/* // */ // 5".toList .normal).spans =
      [⟨0, 8, .blockComment⟩, ⟨12, 1, .number⟩] := by decide
  rw [hcomments] at hscan
  rw [hspans]
  refine ⟨_, hscan, by decide, ⟨"/* // */ ".toList, " 5".toList, by decide, by decide⟩, ?_,
    ⟨"/* // */ ".toList, "// 5".toList, [], by decide, by decide, by decide, by decide⟩,
    ⟨"/* // */ // 5".toList, [], by decide, by decide, Or.inl rfl⟩, ?_, ?_⟩
  · simp [InBlockComment, Range.contains]
  · simp [Shows, Span.contains, Span.stop]
  · simp [Shows, Span.contains, Span.stop]

end Grammar

end Highlighting
