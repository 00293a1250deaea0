import Highlighting.Proofs.BlockMeaning

/-! Where a line comment that begins outside all block comments reaches into one, the bytes that they share
are shown as a line comment. All other bytes of block comments keep their class. -/

namespace Highlighting.Grammar

open Highlighting.Span

section

variable {g : Grammar} {text : Text} {comments : List BlockComment} {i : Nat}

lemma hasClass_blockComment_iff (hi : InBlockComment comments i) :
    g.HasClass text comments i .blockComment ↔ LeftOpen comments ∨ ¬ g.InLineComment text comments i := by
  constructor
  · rintro (_ | ⟨hline, -⟩ | ⟨-, hout, -⟩)
    · exact hline
    · exact (hout hi).elim
  · exact fun hline => .blockComment hline hi

lemma hasClass_comment_iff (hi : InBlockComment comments i) :
    g.HasClass text comments i .comment ↔ ¬ LeftOpen comments ∧ g.InLineComment text comments i := by
  constructor
  · rintro (⟨hopen, hline⟩ | _ | ⟨-, hout, -⟩)
    · exact ⟨hopen, hline⟩
    · exact (hout hi).elim
  · exact fun h => .comment h.1 h.2

end

/-- A byte of a block comment is shown as one exactly if the block ends inside a comment or no line comment
covers the byte that begins outside all block comments. Otherwise it is shown as a line comment. -/
theorem shows_blockComment_iff (g : Grammar) (hg : ∀ d, g.blockComment = some d → d.NeverEmpty) (text : Text)
    (incoming : BlockState) : ∃ comments, g.BlockComments text incoming comments ∧
      ∀ i, InBlockComment comments i →
        (Shows (g.highlight text incoming).spans i .blockComment ↔
          LeftOpen comments ∨ ¬ g.InLineComment text comments i) ∧
        (Shows (g.highlight text incoming).spans i .comment ↔
          ¬ LeftOpen comments ∧ g.InLineComment text comments i) := by
  have hscan := blockComments_comments hg text incoming
  refine ⟨g.comments text incoming, hscan, fun i hi => ⟨?_, ?_⟩⟩
  · rw [shows_iff_hasClass hscan hg, hasClass_blockComment_iff hi]
  · rw [shows_iff_hasClass hscan hg, hasClass_comment_iff hi]

/-- What begins inside a block comment is no line comment. -/
theorem shows_blockComment_around_slashes :
    (∀ d, Language.javaScript.grammar.blockComment = some d → d.NeverEmpty) ∧
      ∃ comments, Language.javaScript.grammar.BlockComments "/* // */".toList .normal comments ∧
        ∀ i, InBlockComment comments i →
          Shows (Language.javaScript.grammar.highlight "/* // */".toList .normal).spans i .blockComment := by
  have hg (d : Delimiters) (h : Language.javaScript.grammar.blockComment = some d) : d.NeverEmpty :=
    Language.neverEmpty_blockComment h
  obtain ⟨comments, hscan, hshows⟩ :=
    shows_blockComment_iff Language.javaScript.grammar hg "/* // */".toList .normal
  refine ⟨hg, comments, hscan, fun i hi => (hshows i hi).1.mpr (Or.inr ?_)⟩
  obtain rfl := hscan.unique (blockComments_comments hg _ _)
  have hnone : Language.javaScript.grammar.lineComments "/* // */".toList
      (Language.javaScript.grammar.comments "/* // */".toList .normal) = [] := by decide
  rw [← covered_lineComments, hnone]
  rintro ⟨r, hr, -⟩
  cases hr

/-- The line comment begins first and hides the whole block comment. -/
theorem not_shows_blockComment_in_line_comment :
    (∀ d, Language.javaScript.grammar.blockComment = some d → d.NeverEmpty) ∧
      ∃ comments, Language.javaScript.grammar.BlockComments "// a /* b */".toList .normal comments ∧
        InBlockComment comments 5 ∧
        ¬ Shows (Language.javaScript.grammar.highlight "// a /* b */".toList .normal).spans 5 .blockComment := by
  have hg (d : Delimiters) (h : Language.javaScript.grammar.blockComment = some d) : d.NeverEmpty :=
    Language.neverEmpty_blockComment h
  have hscan := blockComments_comments hg "// a /* b */".toList .normal
  have hcomments : Language.javaScript.grammar.comments "// a /* b */".toList .normal = [⟨⟨5, 12⟩, true⟩] := by
    decide
  rw [hcomments] at hscan
  have hin : InBlockComment [⟨⟨5, 12⟩, true⟩] 5 := ⟨_, List.mem_singleton_self _, rfl⟩
  have hline : Language.javaScript.grammar.InLineComment "// a /* b */".toList [⟨⟨5, 12⟩, true⟩] 5 := by
    rw [← covered_lineComments]
    exact ⟨⟨0, 12⟩, by decide, rfl⟩
  refine ⟨hg, _, hscan, hin, ?_⟩
  rw [shows_iff_hasClass hscan hg, hasClass_blockComment_iff hin]
  rintro (⟨c, hlast, hopen⟩ | hout)
  · obtain rfl := Option.some.inj hlast
    cases hopen
  · exact hout hline

end Highlighting.Grammar
