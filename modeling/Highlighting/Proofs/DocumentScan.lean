import Highlighting.Proofs.BlockMeaning
import Highlighting.Proofs.Scanner

/-! Highlighting block by block, with one state handed on from each block to the next, finds the comments
that one scan of the whole document finds. -/

namespace Highlighting

namespace Scanner

open Grammar Pattern

/-- Over what lies ahead of a cursor a scanner claims the bytes of some comments, and it leaves their
state. -/
def Follows (t : CommentTokens) (s : Scanner) (c : Cursor) (ahead : Text) (comments : List BlockComment) :
    Prop :=
  read t s c.rest ahead = ⟨BlockState.after comments, 0⟩ ∧
    ∀ i, (claims t s c.rest ahead)[i]? = some true ↔ InBlockComment comments (c.offset + i)

section

variable {t : CommentTokens} {s : Scanner} {text own ahead : Text} {c d : Cursor}
  {comments : List BlockComment} {p : Pattern} {m : Match}

lemma Follows.gap (h : Passes t s own (d.rest ++ ahead) false outside) (hcd : c.Spans own d)
    (hlater : ∀ k ∈ comments, d.offset ≤ k.range.start) (hd : Follows t outside d ahead comments) :
    Follows t s c ahead comments := by
  refine ⟨?_, fun i => ?_⟩
  · rw [hcd.1, read_append, h.1, hd.1]
  · rw [hcd.1, h.claims_iff, hd.2]
    constructor
    · rintro (⟨-, hfalse⟩ | ⟨hle, k, hk, hc⟩)
      · cases hfalse
      · refine ⟨k, hk, ?_⟩
        rwa [hcd.offset_add_sub hle] at hc
    · rintro ⟨k, hk, hc⟩
      have hstart := hlater k hk
      have hle := (Range.contains_iff.mp hc).1
      have hoffset := hcd.2
      have hi : Text.byteLength own ≤ i := by omega
      refine Or.inr ⟨hi, k, hk, ?_⟩
      rwa [hcd.offset_add_sub hi]

lemma Follows.closed (h : Passes t s own (d.rest ++ ahead) true outside) (hcd : c.Spans own d)
    (hd : Follows t outside d ahead comments) :
    Follows t s c ahead (⟨⟨c.offset, d.offset⟩, true⟩ :: comments) := by
  have hoffset := hcd.2
  refine ⟨?_, fun i => ?_⟩
  · rw [hcd.1, read_append, h.1, hd.1, BlockState.after_cons_closed rfl]
  · rw [hcd.1, h.claims_iff, hd.2]
    constructor
    · rintro (⟨hlt, -⟩ | ⟨hle, k, hk, hin⟩)
      · exact ⟨_, List.mem_cons_self, Range.contains_iff.mpr ⟨Nat.le_add_right _ _, by simp only; omega⟩⟩
      · refine ⟨k, List.mem_cons_of_mem _ hk, ?_⟩
        rwa [hcd.offset_add_sub hle] at hin
    · rintro ⟨k, hk, hin⟩
      by_cases hlt : i < Text.byteLength own
      · exact Or.inl ⟨hlt, rfl⟩
      · have hle := Nat.not_lt.mp hlt
        refine Or.inr ⟨hle, k, ?_, ?_⟩
        · rcases List.mem_cons.mp hk with rfl | hk
          · have hstop := (Range.contains_iff.mp hin).2
            simp only at hstop
            omega
          · exact hk
        · rwa [hcd.offset_add_sub hle]

lemma Follows.unclosed (hc : (Cursor.start text).Reaches c)
    (h : Passes t s c.rest ahead true ⟨.inComment, 0⟩) :
    Follows t s c ahead [⟨⟨c.offset, Text.byteLength text⟩, false⟩] := by
  refine ⟨h.1, fun i => ?_⟩
  have hoffset := hc.offset_add
  rw [h.2, List.getElem?_replicate]
  simp only [InBlockComment, List.mem_singleton, exists_eq_left, Range.contains_iff]
  by_cases hi : i < Text.byteLength c.rest
  · simp only [if_pos hi, true_iff]
    omega
  · simp only [if_neg hi, reduceCtorEq, false_iff]
    omega

lemma passes_firstMatch (mode : BlockState) (ht : t.InLine) (hp : p.Spells (t.leaving mode))
    (ha : ahead.AtLineEnd) (hc : (Cursor.start text).Reaches c) (hm : p.FirstMatch text c.offset m) :
    ∃ gap token e d, (Cursor.start text).Reaches e ∧ e.Reaches d ∧ c.Spans gap e ∧ e.Spans token d ∧
      e.offset = m.start ∧ d.offset = m.ending.stop ∧
      Passes t ⟨mode, 0⟩ gap (e.rest ++ ahead) (mode == .inComment) ⟨mode, 0⟩ ∧
      Passes t ⟨mode, 0⟩ token (d.rest ++ ahead) true ⟨mode.other, 0⟩ := by
  have hleaving := ht.leaving mode
  have hline : ∀ token ∈ t.leaving mode, '\n' ∉ token := fun token hmem => (hleaving token hmem).2
  obtain ⟨gap, token, e, d, he, hd, hce, hed, hstart, hstop, htoken, hquiet⟩ := hp.firstMatch hc hm
  have hstands : token? (t.leaving mode) (token ++ (d.rest ++ ahead)) = some token := by
    rw [← List.append_assoc, ← hed.1, token?_append hline ha, htoken]
  exact ⟨gap, token, e, d, he, hd, hce, hed, hstart, hstop, passes_quiet (quiet_append hline ha hquiet),
    passes_token (hleaving token (token?_eq_some htoken).1).1 hstands⟩

lemma passes_noMatch (mode : BlockState) (ht : t.InLine) (hp : p.Spells (t.leaving mode))
    (ha : ahead.AtLineEnd) (hc : (Cursor.start text).Reaches c) (h : p.NoMatchFrom text c.offset) :
    Passes t ⟨mode, 0⟩ c.rest ahead (mode == .inComment) ⟨mode, 0⟩ := by
  have hline : ∀ token ∈ t.leaving mode, '\n' ∉ token := fun token hmem => (ht.leaving mode token hmem).2
  exact passes_quiet (quiet_append hline ha (hp.noMatchFrom hc h))

lemma passes_closing (ht : t.InLine) (hp : p.Spells t.closing) (ha : ahead.AtLineEnd)
    (hc : (Cursor.start text).Reaches c) (hm : p.FirstMatch text c.offset m) :
    ∃ own d, (Cursor.start text).Reaches d ∧ c.Spans own d ∧ d.offset = m.ending.stop ∧
      Passes t ⟨.inComment, 0⟩ own (d.rest ++ ahead) true outside := by
  obtain ⟨gap, token, e, d, he, hd, hce, hed, -, hstop, hgap, htoken⟩ :=
    passes_firstMatch .inComment ht hp ha hc hm
  rw [hed.1, List.append_assoc] at hgap
  exact ⟨gap ++ token, d, he.trans hd, hce.trans hed, hstop, hgap.append htoken⟩

end

end Scanner

namespace Delimiters

open Scanner

section

variable {t : CommentTokens} {d : Delimiters} {text ahead : Text} {comments : List BlockComment}

lemma Scan.follows (ht : t.InLine) (hd : d.Spell t) (ha : ahead.AtLineEnd) {offset : Nat}
    (h : d.Scan text offset comments) {c : Cursor} (hc : (Cursor.start text).Reaches c)
    (hoffset : c.offset = offset) : Follows t outside c ahead comments := by
  induction h generalizing c with
  | done hnone =>
    subst hoffset
    have hquiet : Passes t outside c.rest ahead false outside :=
      passes_noMatch .normal ht hd.1 ha hc hnone
    refine ⟨hquiet.1, fun i => ?_⟩
    simp [hquiet.2, List.getElem?_replicate, Grammar.InBlockComment]
  | @closed _ m n comments hm hn hscan ih =>
    subst hoffset
    obtain ⟨gap, token, e, f, he, hf, hce, hef, hstart, hstop, hgap, htoken⟩ :=
      passes_firstMatch .normal ht hd.1 ha hc hm
    rw [← hstop] at hn
    obtain ⟨own, k, hk, hfk, hkstop, hown⟩ := passes_closing ht hd.2 ha (he.trans hf) hn
    -- outside as far as the opening token, then one comment as far as the end of the closing one
    have hfollows := ih hk hkstop
    rw [hfk.1, List.append_assoc] at htoken
    have hcomment := Follows.closed (htoken.append hown) (hef.trans hfk) hfollows
    rw [hstart, hkstop] at hcomment
    refine Follows.gap hgap hce ?_ hcomment
    intro x hx
    rcases List.mem_cons.mp hx with rfl | hx
    · exact Nat.le_of_eq hstart
    · have hle := (hscan.fits x hx).2
      have hoffset := hef.2
      have hoffset' := hfk.2
      omega
  | @unclosed _ m hm hnone =>
    subst hoffset
    obtain ⟨gap, token, e, f, he, hf, hce, hef, hstart, hstop, hgap, htoken⟩ :=
      passes_firstMatch .normal ht hd.1 ha hc hm
    rw [← hstop] at hnone
    have hrest : Passes t ⟨.inComment, 0⟩ f.rest ahead true ⟨.inComment, 0⟩ :=
      passes_noMatch .inComment ht hd.2 ha (he.trans hf) hnone
    have hall : Passes t outside e.rest ahead true ⟨.inComment, 0⟩ := by
      rw [hef.1]
      exact htoken.append hrest
    have hcomment := Follows.unclosed he hall
    rw [hstart] at hcomment
    refine Follows.gap hgap hce ?_ hcomment
    intro x hx
    obtain rfl := List.mem_singleton.mp hx
    exact Nat.le_of_eq hstart

lemma BlockScan.follows (ht : t.InLine) (hd : d.Spell t) (ha : ahead.AtLineEnd) {incoming : BlockState}
    (h : d.BlockScan text incoming comments) :
    Follows t ⟨incoming, 0⟩ (Cursor.start text) ahead comments := by
  have hstart : (Cursor.start text).Reaches (Cursor.start text) := .refl _
  cases h with
  | outside h => exact h.follows ht hd ha hstart rfl
  | continued hn h =>
    obtain ⟨own, k, hk, hspans, hstop, hown⟩ := passes_closing ht hd.2 ha hstart hn
    have hcomment := Follows.closed hown hspans (h.follows ht hd ha hk hstop)
    rwa [hstop] at hcomment
  | unclosed hnone => exact Follows.unclosed hstart (passes_noMatch .inComment ht hd.2 ha hstart hnone)

end

end Delimiters

lemma Language.follows {language : Language} {t : CommentTokens} (ht : language.commentTokens? = some t)
    {ahead : Text} (ha : ahead.AtLineEnd) (block : Text) (incoming : BlockState) :
    Scanner.Follows t ⟨incoming, 0⟩ (Cursor.start block) ahead (language.grammar.comments block incoming) := by
  obtain ⟨d, hd, hspell⟩ := spell_commentTokens ht
  have hline := inLine_commentTokens ht
  simp only [Grammar.comments, hd]
  exact (d.blockScan_comments (hspell.neverEmpty hline) block incoming).follows hline hspell ha

namespace Grammar

open Scanner

def stateAfter (g : Grammar) (incoming : BlockState) (blocks : List Text) : BlockState :=
  ((g.highlightAll incoming blocks).getLast?.map (·.state)).getD incoming

lemma stateAfter_cons (g : Grammar) (incoming : BlockState) (block : Text) (rest : List Text) :
    g.stateAfter incoming (block :: rest) = g.stateAfter (g.highlight block incoming).state rest := by
  simp only [stateAfter, highlightAll, List.getLast?_cons]
  cases (highlightAll g (g.highlight block incoming).state rest).getLast? <;> rfl

lemma getElem?_highlightAll (g : Grammar) (incoming : BlockState) (earlier : List Text) (block : Text)
    (later : List Text) : (g.highlightAll incoming (earlier ++ block :: later))[earlier.length]? =
      some (g.highlight block (g.stateAfter incoming earlier)) := by
  induction earlier generalizing incoming with
  | nil => rfl
  | cons first earlier ih =>
    rw [stateAfter_cons, ← ih]
    rfl

end Grammar

namespace Text

def ended (blocks : List Text) : Text := blocks.flatMap (· ++ ['\n'])

def begun (blocks : List Text) : Text := blocks.flatMap ('\n' :: ·)

lemma atLineEnd_begun (blocks : List Text) : (begun blocks).AtLineEnd := by
  cases blocks with
  | nil => exact Or.inl rfl
  | cons block blocks => exact Or.inr ⟨_, rfl⟩

lemma intercalate_eq (earlier : List Text) (block : Text) (later : List Text) :
    List.intercalate ['\n'] (earlier ++ block :: later) = ended earlier ++ (block ++ begun later) := by
  induction earlier with
  | nil =>
    induction later generalizing block with
    | nil => simp [ended, begun]
    | cons next later ih =>
      have hlater := ih next
      rw [List.nil_append] at hlater ⊢
      rw [List.intercalate_cons_cons, hlater]
      simp [ended, begun]
  | cons first earlier ih =>
    rw [List.cons_append, List.intercalate_cons_of_ne_nil (by simp), ih]
    simp [ended]

end Text

namespace Grammar

open Scanner

section

variable {language : Language} {t : CommentTokens}

lemma read_lineBreak (ht : language.commentTokens? = some t) (mode : BlockState) (ahead : Text) :
    read t ⟨mode, 0⟩ ['\n'] ahead = ⟨mode, 0⟩ :=
  (passes_quiet (Pattern.quiet_lineBreak ((Language.inLine_commentTokens ht).leaving mode) ahead)).1

lemma read_block (ht : language.commentTokens? = some t) {ahead : Text} (ha : ahead.AtLineEnd)
    (block : Text) (incoming : BlockState) :
    read t ⟨incoming, 0⟩ block ahead = ⟨(language.grammar.highlight block incoming).state, 0⟩ :=
  (Language.follows ht ha block incoming).1

/-- In front of each block the scanner is where highlighting is. -/
lemma read_ended (ht : language.commentTokens? = some t) (incoming : BlockState) (blocks : List Text)
    (ahead : Text) : read t ⟨incoming, 0⟩ (Text.ended blocks) ahead =
      ⟨language.grammar.stateAfter incoming blocks, 0⟩ := by
  induction blocks generalizing incoming with
  | nil => rfl
  | cons block blocks ih =>
    have hended : Text.ended (block :: blocks) = block ++ (['\n'] ++ Text.ended blocks) := by
      simp [Text.ended]
    have hline : Text.AtLineEnd (['\n'] ++ Text.ended blocks ++ ahead) := Or.inr ⟨_, rfl⟩
    rw [hended, read_append, read_block ht hline, read_append, read_lineBreak ht, ih, stateAfter_cons]

lemma stateAfter_eq (ht : language.commentTokens? = some t) (incoming : BlockState) (blocks : List Text) :
    language.grammar.stateAfter incoming blocks =
      (language.grammar.highlight (List.intercalate ['\n'] blocks) incoming).state := by
  rcases List.eq_nil_or_concat blocks with rfl | ⟨earlier, block, rfl⟩
  · exact congrArg Scanner.mode (read_block ht (Or.inl rfl) [] incoming)
  · have hended : Text.ended (earlier ++ [block]) =
        List.intercalate ['\n'] (earlier ++ [block]) ++ ['\n'] := by
      rw [Text.intercalate_eq]
      simp [Text.ended, Text.begun]
    have hline : Text.AtLineEnd (['\n'] ++ []) := Or.inr ⟨[], rfl⟩
    have hread := read_ended ht incoming (earlier ++ [block]) []
    rw [hended, read_append, read_block ht hline, read_lineBreak ht] at hread
    rw [List.concat_eq_append]
    exact (congrArg Scanner.mode hread).symm

lemma claims_middle (s : Scanner) (before block behind : Text) {i : Nat} (hi : i < Text.byteLength block) :
    (claims t s (before ++ (block ++ behind)) [])[Text.byteLength before + i]? =
      (claims t (read t s before (block ++ behind)) block behind)[i]? := by
  rw [claims_append, List.getElem?_append_right (by simp), length_claims, Nat.add_sub_cancel_left,
    List.append_nil, claims_append, List.getElem?_append_left (by simpa using hi), List.append_nil]

end

/-- Highlighting blocks one after another is a single scan of the blocks joined by line breaks: it claims
the same bytes and is after each block in the same mode. So it does not matter where a text is cut. -/
theorem highlightAll_scanned {language : Language} (hl : language.grammar.blockComment ≠ none) :
    ∃ t, language.commentTokens? = some t ∧
      ∀ (incoming : BlockState) (earlier : List Text) (block : Text) (later : List Text),
        let g := language.grammar
        let blocks := earlier ++ block :: later
        let whole := List.intercalate ['\n'] blocks
        let offset := Text.byteLength (Text.ended earlier)
        let entering := g.stateAfter incoming earlier
        whole = Text.ended earlier ++ (block ++ Text.begun later) ∧
          (g.highlightAll incoming blocks)[earlier.length]? = some (g.highlight block entering) ∧
          read t ⟨incoming, 0⟩ (Text.ended earlier ++ block) (Text.begun later) =
            ⟨(g.highlight block entering).state, 0⟩ ∧
          g.stateAfter incoming blocks = (g.highlight whole incoming).state ∧
          ∀ i < Text.byteLength block,
            (InBlockComment (g.comments block entering) i ↔
              (claims t ⟨incoming, 0⟩ whole [])[offset + i]? = some true) ∧
            (InBlockComment (g.comments block entering) i ↔
              InBlockComment (g.comments whole incoming) (offset + i)) := by
  obtain ⟨t, ht⟩ := Language.exists_commentTokens hl
  refine ⟨t, ht, fun incoming earlier block later => ?_⟩
  intro g blocks whole offset entering
  have hwhole : whole = Text.ended earlier ++ (block ++ Text.begun later) :=
    Text.intercalate_eq earlier block later
  have hread := read_ended ht incoming earlier (block ++ Text.begun later)
  have hclaims (i : Nat) (hi : i < Text.byteLength block) : InBlockComment (g.comments block entering) i ↔
      (claims t ⟨incoming, 0⟩ whole [])[offset + i]? = some true := by
    have hblock := (Language.follows ht (Text.atLineEnd_begun later) block entering).2 i
    rw [hwhole, claims_middle _ _ _ _ hi, hread]
    simpa only [Cursor.start, Nat.zero_add] using hblock.symm
  refine ⟨hwhole, getElem?_highlightAll g incoming earlier block later, ?_,
    stateAfter_eq ht incoming blocks, ?_⟩
  · rw [read_append, hread]
    exact read_block ht (Text.atLineEnd_begun later) block entering
  · intro i hi
    have hone := (Language.follows ht (Or.inl rfl) whole incoming).2 (offset + i)
    refine ⟨hclaims i hi, (hclaims i hi).trans ?_⟩
    simpa only [Cursor.start, Nat.zero_add] using hone

theorem highlightAll_scanned_python : Language.python.grammar.blockComment ≠ none ∧
    ∃ t, Language.python.commentTokens? = some t ∧
      read t outside (Text.ended ["a \"\"\"é".toList] ++ []) (Text.begun ["\"\"\" b".toList]) =
        ⟨(Language.python.grammar.highlight []
          (Language.python.grammar.stateAfter .normal ["a \"\"\"é".toList])).state, 0⟩ := by
  have hl : Language.python.grammar.blockComment ≠ none := by
    intro h
    cases h
  obtain ⟨t, ht, hscanned⟩ := highlightAll_scanned hl
  obtain ⟨-, -, hread, -⟩ := hscanned .normal ["a \"\"\"é".toList] [] ["\"\"\" b".toList]
  exact ⟨hl, t, ht, hread⟩

-- the closing token of a comment shares no character with its opening one
example : claims ⟨["/*".toList], ["*/".toList]⟩ outside "a/*/é*/b".toList [] =
    [false, true, true, true, true, true, true, true, false] := by decide

end Grammar

end Highlighting
