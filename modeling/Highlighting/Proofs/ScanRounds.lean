import Highlighting.Proofs.CommentScan
import Highlighting.Proofs.Painting
import Highlighting.Proofs.Spelling

/-! The rounds of the scan for block comments. If one delimiter never matches the empty text, each round that
does not leave the loop moves the cursor on, even if the other delimiter can match the empty text. -/

namespace Highlighting.Delimiters

def Enclosed (d : Delimiters) (text : Text) (c : BlockComment) : Prop :=
  ∃ m, d.opening.IsMatch text m ∧ c.range.start = m.start ∧ m.ending.stop ≤ c.range.stop ∧
    (c.closed = true → ∃ n, d.closing.IsMatch text n ∧ m.ending.stop ≤ n.start ∧ c.range.stop = n.ending.stop)

def Continued (d : Delimiters) (text : Text) (c : BlockComment) : Prop :=
  c.range.start = 0 ∧ (c.closed = true → ∃ n, d.closing.FirstMatch text 0 n ∧ c.range.stop = n.ending.stop)

def Delimited (d : Delimiters) (text : Text) : BlockState → List BlockComment → Prop
  | .normal, comments => ∀ c ∈ comments, Enclosed d text c
  | .inComment, [] => False
  | .inComment, first :: comments => Continued d text first ∧ ∀ c ∈ comments, Enclosed d text c

section

variable {d : Delimiters} {text : Text} {incoming : BlockState} {cursor : Nat} {m n : Match} {cursors : List Nat}
variable {comments : List BlockComment}

lemma Rounds.unique {cursors' : List Nat} {comments' : List BlockComment}
    (h : Rounds d text cursor cursors comments) (h' : Rounds d text cursor cursors' comments') :
    cursors' = cursors ∧ comments' = comments := by
  induction h generalizing cursors' comments' with
  | ended hsize =>
    cases h' with
    | ended => exact ⟨rfl, rfl⟩
    | nothing hcursor => omega
    | unclosed hcursor => omega
    | closed hcursor => omega
  | nothing hcursor hnone =>
    cases h' with
    | ended => omega
    | nothing => exact ⟨rfl, rfl⟩
    | unclosed _ hm => exact (hnone.not_firstMatch hm).elim
    | closed _ hm => exact (hnone.not_firstMatch hm).elim
  | unclosed hcursor hm hnone =>
    cases h' with
    | ended => omega
    | nothing _ hnone => exact (hnone.not_firstMatch hm).elim
    | unclosed _ hm' =>
      obtain rfl := hm.unique hm'
      exact ⟨rfl, rfl⟩
    | closed _ hm' hn =>
      obtain rfl := hm.unique hm'
      exact (hnone.not_firstMatch hn).elim
  | closed hcursor hm hn _ ih =>
    cases h' with
    | ended => omega
    | nothing _ hnone => exact (hnone.not_firstMatch hm).elim
    | unclosed _ hm' hnone =>
      obtain rfl := hm.unique hm'
      exact (hnone.not_firstMatch hn).elim
    | closed _ hm' hn' h' =>
      obtain rfl := hm.unique hm'
      obtain rfl := hn.unique hn'
      obtain ⟨rfl, rfl⟩ := ih h'
      exact ⟨rfl, rfl⟩

lemma Rounds.cursors_grow (hd : d.opening.NeverEmpty ∨ d.closing.NeverEmpty)
    (h : Rounds d text cursor cursors comments) : cursors.Pairwise (· < ·) ∧
      ∀ k ∈ cursors, cursor ≤ k ∧ k < Text.byteLength text := by
  induction h with
  | ended => simp
  | nothing hcursor => simp [hcursor]
  | unclosed hcursor => simp [hcursor]
  | @closed cursor m n cursors comments hcursor hm hn _ ih =>
    obtain ⟨hgrow, hinside⟩ := ih
    have hlt := round_lt hd hm hn
    refine ⟨List.pairwise_cons.mpr ⟨fun k hk => ?_, hgrow⟩, fun k hk => ?_⟩
    · exact Nat.lt_of_lt_of_le hlt (hinside k hk).1
    · rcases List.mem_cons.mp hk with rfl | hk
      · exact ⟨Nat.le_refl _, hcursor⟩
      · obtain ⟨hle, hsize⟩ := hinside k hk
        exact ⟨by omega, hsize⟩

lemma Rounds.comments_fit (h : Rounds d text cursor cursors comments) :
    ∀ c ∈ comments, c.range.Fits text ∧ cursor ≤ c.range.start ∧ Enclosed d text c := by
  induction h with
  | ended => simp
  | nothing => simp
  | unclosed _ hm hnone =>
    intro c hc
    obtain rfl := List.mem_singleton.mp hc
    obtain ⟨hle, hstart, hstop⟩ := hm.1.fits
    refine ⟨⟨hstart.le, hstart, Text.isBoundary_byteLength text⟩, hm.2.1, _, hm.1, rfl, hstop.le, ?_⟩
    exact fun hclosed => by cases hclosed
  | @closed cursor m n cursors comments hcursor hm hn _ ih =>
    obtain ⟨hgap, hopening, hbetween, hclosing⟩ := round_le hm hn
    intro c hc
    rcases List.mem_cons.mp hc with rfl | hc
    · have hstop := Nat.le_trans hbetween hclosing
      refine ⟨⟨Nat.le_trans hopening hstop, hm.1.fits.2.1, hn.1.fits.2.2⟩, hgap, m, hm.1, rfl, hstop, ?_⟩
      exact fun _ => ⟨n, hn.1, hbetween, rfl⟩
    · obtain ⟨hfits, hle, henclosed⟩ := ih c hc
      exact ⟨hfits, by omega, henclosed⟩

lemma Rounds.comments_ordered (h : Rounds d text cursor cursors comments) :
    comments.Pairwise fun a b => a.range.stop ≤ b.range.start := by
  induction h with
  | ended => exact .nil
  | nothing => exact .nil
  | unclosed => exact List.pairwise_singleton _ _
  | closed _ _ _ hrest ih => exact List.pairwise_cons.mpr ⟨fun c hc => (hrest.comments_fit c hc).2.1, ih⟩

lemma BlockRounds.unique {cursors' : List Nat} {comments' : List BlockComment}
    (h : BlockRounds d text incoming cursors comments) (h' : BlockRounds d text incoming cursors' comments') :
    cursors' = cursors ∧ comments' = comments := by
  cases h with
  | outside h =>
    cases h' with
    | outside h' => exact h.unique h'
  | continued hn h =>
    cases h' with
    | continued hn' h' =>
      obtain rfl := hn.unique hn'
      obtain ⟨rfl, rfl⟩ := h.unique h'
      exact ⟨rfl, rfl⟩
    | unclosed hnone => exact (hnone.not_firstMatch hn).elim
  | unclosed hnone =>
    cases h' with
    | continued hn => exact (hnone.not_firstMatch hn).elim
    | unclosed => exact ⟨rfl, rfl⟩

lemma BlockRounds.cursors_grow (hd : d.opening.NeverEmpty ∨ d.closing.NeverEmpty)
    (h : BlockRounds d text incoming cursors comments) : cursors.Pairwise (· < ·) ∧
      (∀ k ∈ cursors, k < Text.byteLength text) ∧ cursors.length ≤ Text.byteLength text := by
  cases h with
  | outside h =>
    obtain ⟨hgrow, hinside⟩ := h.cursors_grow hd
    exact ⟨hgrow, fun k hk => (hinside k hk).2, h.length_le hd⟩
  | continued _ h =>
    obtain ⟨hgrow, hinside⟩ := h.cursors_grow hd
    exact ⟨hgrow, fun k hk => (hinside k hk).2, h.length_le hd⟩
  | unclosed => exact ⟨.nil, by simp, Nat.zero_le _⟩

lemma BlockRounds.delimited (h : BlockRounds d text incoming cursors comments) :
    (∀ c ∈ comments, c.range.Fits text) ∧ (comments.Pairwise fun a b => a.range.stop ≤ b.range.start) ∧
      Delimited d text incoming comments := by
  cases h with
  | outside h =>
    exact ⟨fun c hc => (h.comments_fit c hc).1, h.comments_ordered, fun c hc => (h.comments_fit c hc).2.2⟩
  | continued hn h =>
    refine ⟨fun c hc => ?_, List.pairwise_cons.mpr ⟨fun c hc => (h.comments_fit c hc).2.1, h.comments_ordered⟩,
      ⟨rfl, fun _ => ⟨_, hn, rfl⟩⟩, fun c hc => (h.comments_fit c hc).2.2⟩
    rcases List.mem_cons.mp hc with rfl | hc
    · exact ⟨Nat.zero_le _, Text.isBoundary_zero text, hn.1.fits.2.2⟩
    · exact (h.comments_fit c hc).1
  | unclosed =>
    refine ⟨fun c hc => ?_, List.pairwise_singleton _ _, ⟨rfl, fun hclosed => by cases hclosed⟩, by simp⟩
    obtain rfl := List.mem_singleton.mp hc
    exact ⟨Nat.zero_le _, Text.isBoundary_zero text, Text.isBoundary_byteLength text⟩

end

/-- The scan of a block comes to an end in at most as many rounds as the block has bytes, at cursors that
grow. All that it finds lies in the block, one comment behind the other, and each that is closed ends with a
closing delimiter behind its own opening one. -/
theorem scan_ends_in_bounds (d : Delimiters) (hd : d.opening.NeverEmpty ∨ d.closing.NeverEmpty) (text : Text)
    (incoming : BlockState) : ∃ cursors, BlockRounds d text incoming cursors (d.comments text incoming) ∧
      (∀ cursors' comments, BlockRounds d text incoming cursors' comments →
        cursors' = cursors ∧ comments = d.comments text incoming) ∧
      cursors.Pairwise (· < ·) ∧ (∀ k ∈ cursors, k < Text.byteLength text) ∧
      cursors.length ≤ Text.byteLength text ∧
      (∀ c ∈ d.comments text incoming, c.range.start ≤ c.range.stop ∧ c.range.stop ≤ Text.byteLength text) ∧
      (∀ coloring : Coloring, coloring.length = Text.byteLength text →
        (Coloring.paint? .blockComment coloring ((d.comments text incoming).map (·.range))).isSome = true) ∧
      (d.comments text incoming).Pairwise (fun a b => a.range.stop ≤ b.range.start) ∧
      Delimited d text incoming (d.comments text incoming) := by
  obtain ⟨cursors, h⟩ := exists_blockRounds hd text incoming
  obtain ⟨hgrow, hinside, hlength⟩ := h.cursors_grow hd
  obtain ⟨hfits, hordered, hdelimited⟩ := h.delimited
  refine ⟨cursors, h, fun _ _ => h.unique, hgrow, hinside, hlength, fun c hc => ⟨(hfits c hc).1, (hfits c hc).stop_le⟩,
    fun coloring hl => ?_, hordered, hdelimited⟩
  have hranges : ∀ r ∈ (d.comments text incoming).map (·.range), r.Fits text := by
    intro r hr
    obtain ⟨c, hc, rfl⟩ := List.mem_map.mp hr
    exact hfits c hc
  rw [Coloring.paint?_eq hranges hl, Option.isSome_some]

/-- Comments to the end of a line, whose closing delimiter is always empty. -/
theorem scan_of_line_ends : (Pattern.literal ['#'] false).NeverEmpty ∧
    ∃ cursors, BlockRounds ⟨.literal ['#'] false, .look (.lineEnd false)⟩ "é\n1 # é\n##".toList .inComment cursors
        [⟨⟨0, 2⟩, true⟩, ⟨⟨5, 9⟩, true⟩, ⟨⟨10, 12⟩, true⟩] ∧ cursors.length ≤ 12 := by
  have hopening : (Pattern.literal ['#'] false).NeverEmpty := by
    apply (Pattern.spells_literal ['#']).neverEmpty
    simp
  obtain ⟨cursors, h, -, -, -, hlength, -⟩ := scan_ends_in_bounds
    ⟨.literal ['#'] false, .look (.lineEnd false)⟩ (Or.inl hopening) "é\n1 # é\n##".toList .inComment
  have hcomments : comments ⟨.literal ['#'] false, .look (.lineEnd false)⟩ "é\n1 # é\n##".toList .inComment =
      [⟨⟨0, 2⟩, true⟩, ⟨⟨5, 9⟩, true⟩, ⟨⟨10, 12⟩, true⟩] := by decide
  rw [hcomments] at h
  exact ⟨hopening, cursors, h, hlength⟩

end Highlighting.Delimiters
