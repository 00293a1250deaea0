import Highlighting.Proofs.LineComments

/-! The spans of line comments. Each is one line comment as a whole, from the first opener of its line to the
end of the line. -/

namespace Highlighting.Grammar

open Highlighting.Span

section

variable {language : Language} {opener : String} {text : Text} {incoming : BlockState}
variable {comments : List BlockComment} {s : Span} {i : Nat}

lemma shows_comment_iff (hscan : language.grammar.BlockComments text incoming comments) :
    Shows (language.grammar.highlight text incoming).spans i .comment ↔
      ¬ LeftOpen comments ∧ language.grammar.InLineComment text comments i := by
  rw [shows_iff_hasClass hscan fun _ h => Language.neverEmpty_blockComment h]
  constructor
  · intro h
    have hopen : ¬ LeftOpen comments := by
      rcases h with ⟨hopen, -⟩ | _ | ⟨-, -, _, rule, _, hrules, hkind, -⟩
      · exact hopen
      · exact ((kind_ne_comment (hrules ▸ List.mem_append_right _ List.mem_cons_self)).1 hkind).elim
    exact ⟨hopen, (hasClass_comment hopen).mp h⟩
  · exact fun h => (hasClass_comment h.1).mpr h.2

lemma canonical_highlight (g : Grammar) (text : Text) (incoming : BlockState) :
    Canonical (g.highlight text incoming).spans := Coloring.canonical_spans _

lemma not_inLineComment_lineEnd (hl : lineCommentOpener? language = some opener) (hend : text.EndsLine i) :
    ¬ language.grammar.InLineComment text comments i := by
  rw [inLineComment_iff hl]
  rintro ⟨first, stop, -, hline, -, -, hle, hlt⟩
  have hrest := (hline.split hend.isBoundary hle (Nat.le_of_lt hlt)).2
  exact Nat.ne_of_lt hlt (hend.eq_of_sameLine hrest)

lemma comment_span_bounds (hscan : language.grammar.BlockComments text incoming comments)
    (hl : lineCommentOpener? language = some opener)
    (hs : s ∈ (language.grammar.highlight text incoming).spans) (hkind : s.kind = .comment) :
    text.FirstOnLine opener.toList s.start ∧ ¬ InBlockComment comments s.start ∧
      text.SameLine s.start s.stop ∧ text.EndsLine s.stop := by
  have hcanonical := canonical_highlight language.grammar text incoming
  have hpos := hcanonical.start_lt_stop hs
  have hshows (i : Nat) (hi : s.start ≤ i ∧ i < s.stop) :
      Shows (language.grammar.highlight text incoming).spans i .comment :=
    ⟨s, hs, contains_iff.mpr hi, hkind⟩
  obtain ⟨hopen, hcovers⟩ := (shows_comment_iff hscan).mp (hshows s.start ⟨Nat.le_refl _, hpos⟩)
  obtain ⟨first, stop, hfirst, hline, hend, hout, hle, hlt⟩ := (inLineComment_iff hl).mp hcovers
  have hwhole (i : Nat) (hi : first ≤ i ∧ i < stop) :
      Shows (language.grammar.highlight text incoming).spans i .comment :=
    (shows_comment_iff hscan).mpr
      ⟨hopen, (inLineComment_iff hl).mpr ⟨first, stop, hfirst, hline, hend, hout, hi⟩⟩
  -- the line comment does not begin before the span, or the span would begin earlier
  have hstart : first = s.start := by
    by_contra hne
    refine hcanonical.not_shows_before hs (i := s.start - 1) (by omega) ?_
    rw [hkind]
    exact hwhole _ (by omega)
  have hge : stop ≤ s.stop := by
    by_contra hlt'
    refine hcanonical.not_shows_behind hs ?_
    rw [hkind]
    exact hwhole _ (by omega)
  -- nor does it end before the span, because no line comment covers the end of a line
  have hstop : stop = s.stop := by
    by_contra hne
    have hinside := ((shows_comment_iff hscan).mp (hshows stop (by omega))).2
    exact not_inLineComment_lineEnd hl hend hinside
  subst hstart hstop
  exact ⟨hfirst, hout, hline, hend⟩

lemma comment_span_unique {t : Span} (hscan : language.grammar.BlockComments text incoming comments)
    (hl : lineCommentOpener? language = some opener)
    (hs : s ∈ (language.grammar.highlight text incoming).spans) (hskind : s.kind = .comment)
    (ht : t ∈ (language.grammar.highlight text incoming).spans) (htkind : t.kind = .comment)
    (hline : text.SameLine s.start t.start) : s = t := by
  have hcanonical := canonical_highlight language.grammar text incoming
  have hstart : s.start = t.start :=
    (comment_span_bounds hscan hl hs hskind).1.eq_of_sameLine (comment_span_bounds hscan hl ht htkind).1 hline
  have hspos := hcanonical.start_lt_stop hs
  have htpos := hcanonical.start_lt_stop ht
  rcases hcanonical.separated hs ht with heq | ⟨hle, -⟩ | ⟨hle, -⟩
  · exact heq
  · omega
  · omega

end

/-- Line comments never leak. There are none in a block that ends inside a block comment. Elsewhere each of
their spans goes from the first opener of its line, which is outside all block comments, to the end of the line,
so that no line break is in one and no line has two. -/
theorem comment_spans_fill_lines (language : Language) (text : Text) (incoming : BlockState) :
    ∃ comments, language.grammar.BlockComments text incoming comments ∧
      let highlighted := language.grammar.highlight text incoming
      ((highlighted.state = .inComment ∨ language.grammar.lineComment = none) →
          ∀ s ∈ highlighted.spans, s.kind ≠ .comment) ∧
        (∀ opener, lineCommentOpener? language = some opener → ∀ s ∈ highlighted.spans, s.kind = .comment →
          text.FirstOnLine opener.toList s.start ∧ ¬ InBlockComment comments s.start ∧
            text.SameLine s.start s.stop ∧ text.EndsLine s.stop) ∧
        (∀ i, text.StandsAt ['\n'] i → ¬ Shows highlighted.spans i .comment) ∧
        ∀ s ∈ highlighted.spans, ∀ t ∈ highlighted.spans, s.kind = .comment → t.kind = .comment →
          text.SameLine s.start t.start → s = t := by
  have hscan := blockComments_language language text incoming
  refine ⟨_, hscan, ?_⟩
  intro highlighted
  have hcovered (s : Span) (hs : s ∈ highlighted.spans) (hkind : s.kind = .comment) :
      Shows highlighted.spans s.start .comment :=
    hkind ▸ (canonical_highlight _ _ _).shows_start_of_mem hs
  have hopener (i : Nat) (hi : Shows highlighted.spans i .comment) :
      ∃ opener, lineCommentOpener? language = some opener := by
    obtain ⟨-, p, -, hp, -⟩ := (shows_comment_iff hscan).mp hi
    obtain ⟨opener, hl, -⟩ := Option.map_eq_some_iff.mp hp
    exact ⟨opener, hl⟩
  refine ⟨?_, fun opener hl s hs hkind => comment_span_bounds hscan hl hs hkind, ?_, ?_⟩
  · intro hnone s hs hkind
    obtain ⟨hopen, p, -, hp, -⟩ := (shows_comment_iff hscan).mp (hcovered s hs hkind)
    rcases hnone with hstate | hline
    · exact hopen (BlockState.after_eq_inComment.mp hstate)
    · cases hline.symm.trans hp
  · intro i hbreak hshows
    obtain ⟨opener, hl⟩ := hopener i hshows
    exact not_inLineComment_lineEnd hl hbreak.endsLine ((shows_comment_iff hscan).mp hshows).2
  · intro s hs t ht hskind htkind hline
    obtain ⟨opener, hl⟩ := hopener s.start (hcovered s hs hskind)
    exact comment_span_unique hscan hl hs hskind ht htkind hline

-- the line comment ends where its line does, and an opener inside a block comment opens none
example : (Language.java.grammar.highlight "1 // a // b\n\n/* // */ c".toList .normal).spans =
    [⟨0, 1, .number⟩, ⟨2, 9, .comment⟩, ⟨13, 8, .blockComment⟩] := by decide +kernel

end Highlighting.Grammar
