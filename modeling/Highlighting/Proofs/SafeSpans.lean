import Highlighting.Display.Listing
import Highlighting.Proofs.BlockMeaning

/-! The spans of a highlighted block are safe to cut the block with: painting never leaves the block, and
every span begins and ends between characters. -/

namespace Highlighting

namespace Span

lemma text?_isSome {s : Span} {text : Text} :
    (s.text? text).isSome ↔ text.IsBoundary s.start ∧ text.IsBoundary s.stop := by
  rw [text?, Text.slice?_isSome]
  simp [stop]

end Span

namespace Coloring

open Highlighting.Span

lemma spans_fit {coloring : Coloring} {text : Text} (ha : coloring.Aligned text)
    (hl : coloring.length = Text.byteLength text) {s : Span} (hs : s ∈ coloring.spans) :
    s.stop ≤ Text.byteLength text ∧ text.IsBoundary s.start ∧ text.IsBoundary s.stop := by
  have hcanonical := canonical_spans coloring
  have hlength := hcanonical.1 s hs
  have hshows {i : Nat} (hstart : s.start ≤ i) (hstop : i < s.stop) : coloring[i]? = some (some s.kind) :=
    shows_spans.mp ⟨s, hs, contains_iff.mpr ⟨hstart, hstop⟩, rfl⟩
  have hlast : s.start ≤ s.stop - 1 ∧ s.stop - 1 + 1 = s.stop := by
    simp only [stop]
    omega
  have hlt := (List.getElem?_eq_some_iff.mp (hshows hlast.1 (by omega))).1
  have hle : s.stop ≤ Text.byteLength text := by omega
  refine ⟨hle, ?_, ?_⟩
  · cases hstart : s.start with
    | zero => exact Text.isBoundary_zero text
    | succ i =>
      by_contra hb
      have hfirst := hshows (Nat.le_refl s.start) (by omega)
      rw [hstart] at hfirst
      have hi : i + 1 < coloring.length := (List.getElem?_eq_some_iff.mp hfirst).1
      exact hcanonical.not_shows_before hs hstart.symm (shows_spans.mpr ((ha i hi hb).trans hfirst))
  · by_contra hb
    have hne : s.stop ≠ Text.byteLength text := fun h => hb (h ▸ Text.isBoundary_byteLength text)
    have halign := ha (s.stop - 1) (by omega) (by rwa [hlast.2])
    rw [hlast.2, hshows hlast.1 (by omega)] at halign
    exact hcanonical.not_shows_behind hs (shows_spans.mpr halign.symm)

end Coloring

namespace Terminal

lemma writeFrom_isSome {theme : Theme} {text : Text} {position : Nat} {spans : List Span}
    (hp : text.IsBoundary position) : (writeFrom theme text position spans).isSome ↔
      ∀ s ∈ spans, text.IsBoundary s.start ∧ text.IsBoundary s.stop := by
  induction spans generalizing position with
  | nil =>
    have hslice := Text.slice?_isSome.mpr ⟨hp.le, hp, Text.isBoundary_byteLength text⟩
    obtain ⟨own, hown⟩ := Option.isSome_iff_exists.mp hslice
    by_cases hlt : position < Text.byteLength text <;> simp [writeFrom, hlt, hown]
  | cons s rest ih =>
    rw [List.forall_mem_cons, writeFrom]
    by_cases hs : text.IsBoundary s.start ∧ text.IsBoundary s.stop
    · obtain ⟨own, hown⟩ := Option.isSome_iff_exists.mp (Span.text?_isSome.mpr hs)
      rw [hown, ← ih hs.2]
      by_cases hlt : position < s.start
      · obtain ⟨gap, hgap⟩ := Option.isSome_iff_exists.mp
          (Text.slice?_isSome.mpr ⟨Nat.le_of_lt hlt, hp, hs.1⟩)
        rw [if_pos hlt, hgap]
        cases writeFrom theme text s.stop rest <;> simp [hs]
      · rw [if_neg hlt]
        cases writeFrom theme text s.stop rest <;> simp [hs]
    · have hown : s.text? text = none := by
        rw [← Option.not_isSome_iff_eq_none, Span.text?_isSome]
        exact hs
      rw [hown]
      by_cases hlt : position < s.start
      · rw [if_pos hlt]
        cases text.slice? position s.start <;> simp [hs]
      · rw [if_neg hlt]
        simp [hs]

lemma write_isSome {theme : Theme} {text : Text} {h : Highlight} : (write theme text h).isSome ↔
    ∀ s ∈ h.spans, text.IsBoundary s.start ∧ text.IsBoundary s.stop :=
  writeFrom_isSome (Text.isBoundary_zero text)

end Terminal

namespace Listing

lemma line?_isSome {text : Text} {s : Span} :
    (line? text s).isSome ↔ text.IsBoundary s.start ∧ text.IsBoundary s.stop := by
  by_cases hs : text.IsBoundary s.start ∧ text.IsBoundary s.stop
  · obtain ⟨own, hown⟩ := Option.isSome_iff_exists.mp (Span.text?_isSome.mpr hs)
    obtain ⟨before, hbefore⟩ := Option.isSome_iff_exists.mp
      (Text.slice?_isSome.mpr ⟨Nat.zero_le _, Text.isBoundary_zero text, hs.1⟩)
    simp [line?, hown, hbefore, hs]
  · have hown : s.text? text = none := by
      rw [← Option.not_isSome_iff_eq_none, Span.text?_isSome]
      exact hs
    rw [line?, hown]
    cases text.slice? 0 s.start <;> simp [hs]

lemma lines?_isSome {text : Text} {spans : List Span} : (lines? text spans).isSome ↔
    ∀ s ∈ spans, text.IsBoundary s.start ∧ text.IsBoundary s.stop := by
  induction spans with
  | nil => simp [lines?]
  | cons s rest ih =>
    rw [List.forall_mem_cons, ← ih, ← line?_isSome, lines?]
    cases line? text s <;> cases lines? text rest <;> simp

lemma write_isSome {index : Nat} {text : Text} {h : Highlight} : (write index text h).isSome ↔
    ∀ s ∈ h.spans, text.IsBoundary s.start ∧ text.IsBoundary s.stop := by
  rw [write, Option.isSome_map, lines?_isSome]

end Listing

namespace Grammar

open Coloring Highlighting.Span

/-- Highlighting that gives up where a range to be painted is not a part of the block. -/
def highlight? (g : Grammar) (text : Text) (incoming : BlockState) : Option Highlight := do
  let comments := g.comments text incoming
  let painted ← g.rules.foldlM (fun coloring rule => paint? rule.kind coloring (rule.ranges text))
    (blank (Text.byteLength text))
  let claimed ← paint? .blockComment painted (comments.map (·.range))
  match BlockState.after comments with
  | .normal => return ⟨(← paint? .comment claimed (g.lineComments text comments)).spans, .normal⟩
  | .inComment => return ⟨claimed.spans, .inComment⟩

section

variable {g : Grammar} {text : Text} {comments : List BlockComment}

lemma length_paint : (g.paint text comments).length = Text.byteLength text := by
  by_cases hopen : LeftOpen comments
  · rw [paint_of_leftOpen hopen, length_claimed]
  · rw [paint_of_not_leftOpen hopen, Coloring.length_paint, length_claimed]

lemma aligned_paint (hc : ∀ c ∈ comments, c.range.Fits text) : (g.paint text comments).Aligned text := by
  have hclaimed : (g.claimed text comments).Aligned text :=
    (aligned_paintAll g.rules text).paint (ranges_fit hc) .blockComment
  by_cases hopen : LeftOpen comments
  · rw [paint_of_leftOpen hopen]
    exact hclaimed
  · rw [paint_of_not_leftOpen hopen]
    exact hclaimed.paint lineComments_fit .comment

lemma cut_of_mem_spans (hg : ∀ d, g.blockComment = some d → d.NeverEmpty) {incoming : BlockState} {s : Span}
    (hs : s ∈ (g.highlight text incoming).spans) : text.IsBoundary s.start ∧ text.IsBoundary s.stop :=
  (spans_fit (aligned_paint (blockComments_comments hg text incoming).fits) length_paint hs).2

lemma highlight?_eq {incoming : BlockState} (hc : ∀ c ∈ g.comments text incoming, c.range.Fits text) :
    g.highlight? text incoming = some (g.highlight text incoming) := by
  have hpainted : paint? .blockComment (paintAll g.rules text) ((g.comments text incoming).map (·.range)) =
      some (g.claimed text (g.comments text incoming)) :=
    paint?_eq (ranges_fit hc) (length_paintAll g.rules text) .blockComment
  have hclaimed : paint? .comment (g.claimed text (g.comments text incoming))
      (g.lineComments text (g.comments text incoming)) = some _ :=
    paint?_eq lineComments_fit length_claimed .comment
  rw [highlight?, paint?_rules, Option.bind_eq_bind, Option.bind_some, hpainted, highlight]
  by_cases hopen : LeftOpen (g.comments text incoming)
  · simp [BlockState.after_eq_inComment.mpr hopen, paint_of_leftOpen hopen]
  · simp [BlockState.after_eq_normal.mpr hopen, paint_of_not_leftOpen hopen, hclaimed]

lemma highlight_eq_iff {g' : Grammar} {text' : Text} {incoming incoming' : BlockState} :
    g.highlight text incoming = g'.highlight text' incoming' ↔
      (g.highlight text incoming).state = (g'.highlight text' incoming').state ∧
        ∀ i kind, Shows (g.highlight text incoming).spans i kind ↔
          Shows (g'.highlight text' incoming').spans i kind := by
  constructor
  · intro h
    rw [h]
    exact ⟨rfl, fun i kind => Iff.rfl⟩
  · rintro ⟨hstate, hshows⟩
    have hspans := (canonical_spans (g.paint text (g.comments text incoming))).eq_of_shows
      (canonical_spans (g'.paint text' (g'.comments text' incoming'))) hshows
    rw [highlight, highlight, Highlight.mk.injEq]
    exact ⟨hspans, hstate⟩

end

/-- Highlighting gives a result. Its spans show the painted coloring in the only canonical form of it, which is
cut between characters and can be written and listed. -/
theorem highlight_canonical (g : Grammar) (hg : ∀ d, g.blockComment = some d → d.NeverEmpty) (text : Text)
    (incoming : BlockState) :
    g.highlight? text incoming = some (g.highlight text incoming) ∧
      Canonical (g.highlight text incoming).spans ∧
      (∀ i kind, Shows (g.highlight text incoming).spans i kind ↔
        (g.paint text (g.comments text incoming))[i]? = some (some kind)) ∧
      (∀ s ∈ (g.highlight text incoming).spans, s.stop ≤ Text.byteLength text ∧
        text.IsBoundary s.start ∧ text.IsBoundary s.stop ∧ (s.text? text).isSome) ∧
      (∀ spans, Canonical spans →
        (∀ i kind, Shows spans i kind ↔ Shows (g.highlight text incoming).spans i kind) →
        spans = (g.highlight text incoming).spans) ∧
      (∀ g' text' incoming', g.highlight text incoming = highlight g' text' incoming' ↔
        (g.highlight text incoming).state = (highlight g' text' incoming').state ∧
          ∀ i kind, Shows (g.highlight text incoming).spans i kind ↔
            Shows (highlight g' text' incoming').spans i kind) ∧
      (∀ theme, (Terminal.write theme text (g.highlight text incoming)).isSome) ∧
      ∀ index, (Listing.write index text (g.highlight text incoming)).isSome := by
  have hfits := (blockComments_comments hg text incoming).fits
  have hcanonical : Canonical (g.highlight text incoming).spans := canonical_spans _
  have hspans : ∀ s ∈ (g.highlight text incoming).spans, s.stop ≤ Text.byteLength text ∧
      text.IsBoundary s.start ∧ text.IsBoundary s.stop := by
    intro s hs
    exact spans_fit (aligned_paint hfits) length_paint hs
  have hcut : ∀ s ∈ (g.highlight text incoming).spans, text.IsBoundary s.start ∧ text.IsBoundary s.stop :=
    fun s hs => (hspans s hs).2
  refine ⟨highlight?_eq hfits, hcanonical, fun _ _ => shows_spans, ?_, ?_, fun _ _ _ => highlight_eq_iff, ?_, ?_⟩
  · intro s hs
    obtain ⟨hle, hstart, hstop⟩ := hspans s hs
    exact ⟨hle, hstart, hstop, text?_isSome.mpr ⟨hstart, hstop⟩⟩
  · intro spans hother hshows
    exact hother.eq_of_shows hcanonical hshows
  · intro theme
    exact Terminal.write_isSome.mpr hcut
  · intro index
    exact Listing.write_isSome.mpr hcut

theorem highlight_canonical_css :
    (∀ d, Language.css.grammar.blockComment = some d → d.NeverEmpty) ∧
      Canonical (Language.css.grammar.highlight "é */ a { } /* ü".toList .inComment).spans ∧
      ∀ index, (Listing.write index "é */ a { } /* ü".toList
        (Language.css.grammar.highlight "é */ a { } /* ü".toList .inComment)).isSome := by
  have hg (d : Delimiters) (h : Language.css.grammar.blockComment = some d) : d.NeverEmpty :=
    Language.neverEmpty_blockComment h
  obtain ⟨-, hcanonical, -, -, -, -, -, hlisting⟩ :=
    highlight_canonical Language.css.grammar hg "é */ a { } /* ü".toList .inComment
  exact ⟨hg, hcanonical, hlisting⟩

end Grammar

end Highlighting
