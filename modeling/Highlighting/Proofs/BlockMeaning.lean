import Highlighting.Proofs.Painting
import Highlighting.Proofs.SpanForm
import Highlighting.Proofs.Spelling

/-! What highlighting a block means for each of its bytes, whatever was painted over what: the comments of
the block are a scan of it, and each byte has one class or none. -/

namespace Highlighting.Grammar

open Coloring

def BlockComments (g : Grammar) (text : Text) (incoming : BlockState) (comments : List BlockComment) : Prop :=
  match g.blockComment with
  | none => comments = []
  | some d => d.BlockScan text incoming comments

def InBlockComment (comments : List BlockComment) (i : Nat) : Prop :=
  ∃ c ∈ comments, c.range.contains i = true

/-- A match of the line comment covers the byte and begins outside all block comments. -/
def InLineComment (g : Grammar) (text : Text) (comments : List BlockComment) (i : Nat) : Prop :=
  ∃ p m, g.lineComment = some p ∧ m ∈ p.findAll text ∧ m.start < m.ending.stop ∧
    ¬ InBlockComment comments m.start ∧ m.start ≤ i ∧ i < m.ending.stop

/-- Line comments count in blocks that do not end inside a block comment, and they come first, then
block comments, then rules. -/
inductive HasClass (g : Grammar) (text : Text) (comments : List BlockComment) (i : Nat) : StyleClass → Prop
  | comment : ¬ LeftOpen comments → g.InLineComment text comments i → HasClass g text comments i .comment
  | blockComment : LeftOpen comments ∨ ¬ g.InLineComment text comments i → InBlockComment comments i →
      HasClass g text comments i .blockComment
  | rule {kind : StyleClass} : LeftOpen comments ∨ ¬ g.InLineComment text comments i →
      ¬ InBlockComment comments i → LastRule g.rules text i kind → HasClass g text comments i kind

section

variable {g : Grammar} {text : Text} {incoming : BlockState} {comments : List BlockComment}

lemma BlockComments.unique {other : List BlockComment} (h : g.BlockComments text incoming comments)
    (h' : g.BlockComments text incoming other) : other = comments := by
  unfold BlockComments at h h'
  cases hb : g.blockComment with
  | none =>
    rw [hb] at h h'
    rw [h, h']
  | some d =>
    rw [hb] at h h'
    exact h'.unique h

lemma BlockComments.fits (h : g.BlockComments text incoming comments) :
    ∀ c ∈ comments, c.range.Fits text := by
  unfold BlockComments at h
  cases hb : g.blockComment with
  | none =>
    rw [hb] at h
    simp only at h
    simp [h]
  | some d =>
    rw [hb] at h
    exact h.fits

lemma blockComments_comments (hg : ∀ d, g.blockComment = some d → d.NeverEmpty) (text : Text)
    (incoming : BlockState) : g.BlockComments text incoming (g.comments text incoming) := by
  unfold BlockComments Grammar.comments
  cases hb : g.blockComment with
  | none => rfl
  | some d => exact d.blockScan_comments (hg d hb) text incoming

lemma blockComments_language (language : Language) (text : Text) (incoming : BlockState) :
    language.grammar.BlockComments text incoming (language.grammar.comments text incoming) :=
  blockComments_comments (fun _ h => Language.neverEmpty_blockComment h) text incoming

lemma ranges_fit (hc : ∀ c ∈ comments, c.range.Fits text) :
    ∀ r ∈ comments.map (·.range), r.Fits text := by
  intro r hr
  obtain ⟨c, hmem, rfl⟩ := List.mem_map.mp hr
  exact hc c hmem

lemma covered_map_range {i : Nat} : Covered (comments.map (·.range)) i ↔ InBlockComment comments i := by
  simp [Covered, InBlockComment]

lemma mem_lineComments {r : Range} : r ∈ g.lineComments text comments ↔
    ∃ p m, g.lineComment = some p ∧ m ∈ p.findAll text ∧ m.range = r ∧ m.start < m.ending.stop ∧
      ¬ InBlockComment comments m.start := by
  unfold lineComments
  cases g.lineComment with
  | none => simp
  | some p =>
    simp only [List.mem_filter, List.mem_map, Option.some.injEq, Bool.and_eq_true, Bool.not_eq_true',
      Range.isEmpty, decide_eq_false_iff_not, Nat.not_le, List.any_eq_false]
    constructor
    · rintro ⟨⟨m, hm, rfl⟩, hlt, hout⟩
      refine ⟨p, m, rfl, hm, rfl, hlt, ?_⟩
      rintro ⟨c, hc, hin⟩
      exact hout c hc hin
    · rintro ⟨_, m, rfl, hm, rfl, hlt, hout⟩
      exact ⟨⟨m, hm, rfl⟩, hlt, fun c hc hin => hout ⟨c, hc, hin⟩⟩

lemma lineComments_fit : ∀ r ∈ g.lineComments text comments, r.Fits text := by
  intro r hr
  obtain ⟨p, m, -, hm, rfl, -, -⟩ := mem_lineComments.mp hr
  exact (Pattern.isMatch_of_mem_findAll hm).fits

lemma covered_lineComments {i : Nat} :
    Covered (g.lineComments text comments) i ↔ g.InLineComment text comments i := by
  constructor
  · rintro ⟨r, hr, hc⟩
    obtain ⟨p, m, hp, hm, rfl, hlt, hout⟩ := mem_lineComments.mp hr
    exact ⟨p, m, hp, hm, hlt, hout, Range.contains_iff.mp hc⟩
  · rintro ⟨p, m, hp, hm, hlt, hout, hc⟩
    exact ⟨m.range, mem_lineComments.mpr ⟨p, m, hp, hm, rfl, hlt, hout⟩, Range.contains_iff.mpr hc⟩

def claimed (g : Grammar) (text : Text) (comments : List BlockComment) : Coloring :=
  (g.paintRules text).paint (comments.map (·.range)) .blockComment

@[simp] lemma length_claimed : (g.claimed text comments).length = Text.byteLength text := by
  rw [claimed, length_paint, paintRules_eq, length_paintAll]

lemma paint_of_leftOpen (h : LeftOpen comments) : g.paint text comments = g.claimed text comments := by
  simp only [Grammar.paint, BlockState.after_eq_inComment.mpr h, claimed]

lemma paint_of_not_leftOpen (h : ¬ LeftOpen comments) : g.paint text comments =
    (g.claimed text comments).paint (g.lineComments text comments) .comment := by
  simp only [Grammar.paint, BlockState.after_eq_normal.mpr h, claimed]

lemma getElem?_claimed (hc : ∀ c ∈ comments, c.range.Fits text) {i : Nat} {kind : StyleClass} :
    (g.claimed text comments)[i]? = some (some kind) ↔
      (InBlockComment comments i ∧ .blockComment = kind) ∨
        (¬ InBlockComment comments i ∧ LastRule g.rules text i kind) := by
  rw [claimed, paintRules_eq, getElem?_paint (ranges_fit hc) (length_paintAll g.rules text),
    covered_map_range, getElem?_paintAll]

lemma getElem?_paint_iff (hc : ∀ c ∈ comments, c.range.Fits text) {i : Nat} {kind : StyleClass} :
    (g.paint text comments)[i]? = some (some kind) ↔ g.HasClass text comments i kind := by
  by_cases hopen : LeftOpen comments
  · rw [paint_of_leftOpen hopen, getElem?_claimed hc]
    constructor
    · rintro (⟨hin, rfl⟩ | ⟨hout, hlast⟩)
      · exact .blockComment (Or.inl hopen) hin
      · exact .rule (Or.inl hopen) hout hlast
    · rintro (⟨hnot, -⟩ | ⟨-, hin⟩ | ⟨-, hout, hlast⟩)
      · exact (hnot hopen).elim
      · exact Or.inl ⟨hin, rfl⟩
      · exact Or.inr ⟨hout, hlast⟩
  · rw [paint_of_not_leftOpen hopen, getElem?_paint lineComments_fit length_claimed, covered_lineComments,
      getElem?_claimed hc]
    constructor
    · rintro (⟨hline, rfl⟩ | ⟨hline, ⟨hin, rfl⟩ | ⟨hout, hlast⟩⟩)
      · exact .comment hopen hline
      · exact .blockComment (Or.inr hline) hin
      · exact .rule (Or.inr hline) hout hlast
    · rintro (⟨-, hline⟩ | ⟨hline, hin⟩ | ⟨hline, hout, hlast⟩)
      · exact Or.inl ⟨hline, rfl⟩
      · exact Or.inr ⟨hline.resolve_left hopen, Or.inl ⟨hin, rfl⟩⟩
      · exact Or.inr ⟨hline.resolve_left hopen, Or.inr ⟨hout, hlast⟩⟩

lemma shows_iff_hasClass (h : g.BlockComments text incoming comments)
    (hg : ∀ d, g.blockComment = some d → d.NeverEmpty) {i : Nat} {kind : StyleClass} :
    Span.Shows (g.highlight text incoming).spans i kind ↔ g.HasClass text comments i kind := by
  obtain rfl := (blockComments_comments hg text incoming).unique h
  exact shows_spans.trans (getElem?_paint_iff h.fits)

end

/-- The scan of a block has one result. The block ends inside a comment exactly if that leaves one
open, and each byte has the class that comes first for it, or none. -/
theorem highlight_meaning (g : Grammar) (hg : ∀ d, g.blockComment = some d → d.NeverEmpty) (text : Text)
    (incoming : BlockState) : ∃ comments, g.BlockComments text incoming comments ∧
      (∀ other, g.BlockComments text incoming other → other = comments) ∧
      ((g.highlight text incoming).state = .inComment ↔ LeftOpen comments) ∧
      ∀ i kind, Span.Shows (g.highlight text incoming).spans i kind ↔ g.HasClass text comments i kind := by
  have hscan := blockComments_comments hg text incoming
  refine ⟨g.comments text incoming, hscan, fun other h => hscan.unique h,
    BlockState.after_eq_inComment, fun i kind => ?_⟩
  exact shows_iff_hasClass hscan hg

theorem highlight_meaning_sql :
    (∀ d, Language.sql.grammar.blockComment = some d → d.NeverEmpty) ∧
      ∃ comments, Language.sql.grammar.BlockComments "1 */ --é /* 2".toList .inComment comments ∧
        ((Language.sql.grammar.highlight "1 */ --é /* 2".toList .inComment).state = .inComment ↔
          LeftOpen comments) := by
  have hg (d : Delimiters) (h : Language.sql.grammar.blockComment = some d) : d.NeverEmpty :=
    Language.neverEmpty_blockComment h
  obtain ⟨comments, hscan, -, hstate, -⟩ :=
    highlight_meaning Language.sql.grammar hg "1 */ --é /* 2".toList .inComment
  exact ⟨hg, comments, hscan, hstate⟩

end Highlighting.Grammar
