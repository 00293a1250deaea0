import Highlighting.BlockComment
import Highlighting.Proofs.Matching

/-! The block comments of a text as a scan from left to right: a search for the next opening delimiter
and then for the first closing one behind it. The rounds that the search is given always suffice. -/

namespace Highlighting

namespace Pattern

lemma NeverEmpty.noMatchFrom {p : Pattern} (hp : p.NeverEmpty) {text : Text} {offset : Nat}
    (h : Text.byteLength text ≤ offset) : p.NoMatchFrom text offset := by
  intro m hm
  have hlt := hp text m hm
  have hle := hm.fits.stop_le
  simp only [Match.range] at hle
  omega

end Pattern

namespace Delimiters

def NeverEmpty (d : Delimiters) : Prop := d.opening.NeverEmpty ∧ d.closing.NeverEmpty

/-- The comments that open at or after an offset that lies outside of them. -/
inductive Scan (d : Delimiters) (text : Text) : Nat → List BlockComment → Prop
  | done {offset : Nat} : d.opening.NoMatchFrom text offset → Scan d text offset []
  | closed {offset : Nat} {m n : Match} {comments : List BlockComment} :
      d.opening.FirstMatch text offset m → d.closing.FirstMatch text m.ending.stop n →
      Scan d text n.ending.stop comments →
      Scan d text offset (⟨⟨m.start, n.ending.stop⟩, true⟩ :: comments)
  | unclosed {offset : Nat} {m : Match} :
      d.opening.FirstMatch text offset m → d.closing.NoMatchFrom text m.ending.stop →
      Scan d text offset [⟨⟨m.start, Text.byteLength text⟩, false⟩]

/-- The comments of a whole block. One that is open at its beginning ends with the first closing
delimiter, wherever that begins. -/
inductive BlockScan (d : Delimiters) (text : Text) : BlockState → List BlockComment → Prop
  | outside {comments : List BlockComment} : Scan d text 0 comments → BlockScan d text .normal comments
  | continued {n : Match} {comments : List BlockComment} :
      d.closing.FirstMatch text 0 n → Scan d text n.ending.stop comments →
      BlockScan d text .inComment (⟨⟨0, n.ending.stop⟩, true⟩ :: comments)
  | unclosed : d.closing.NoMatchFrom text 0 →
      BlockScan d text .inComment [⟨⟨0, Text.byteLength text⟩, false⟩]

/-- The loop that begins at a cursor: the cursors of its rounds and the comments that it finds. It is left
where the text ends, where nothing opens, and at a comment without an end. -/
inductive Rounds (d : Delimiters) (text : Text) : Nat → List Nat → List BlockComment → Prop
  | ended {cursor : Nat} : Text.byteLength text ≤ cursor → Rounds d text cursor [] []
  | nothing {cursor : Nat} : cursor < Text.byteLength text → d.opening.NoMatchFrom text cursor →
      Rounds d text cursor [cursor] []
  | unclosed {cursor : Nat} {m : Match} : cursor < Text.byteLength text →
      d.opening.FirstMatch text cursor m → d.closing.NoMatchFrom text m.ending.stop →
      Rounds d text cursor [cursor] [⟨⟨m.start, Text.byteLength text⟩, false⟩]
  | closed {cursor : Nat} {m n : Match} {cursors : List Nat} {comments : List BlockComment} :
      cursor < Text.byteLength text → d.opening.FirstMatch text cursor m →
      d.closing.FirstMatch text m.ending.stop n → Rounds d text n.ending.stop cursors comments →
      Rounds d text cursor (cursor :: cursors) (⟨⟨m.start, n.ending.stop⟩, true⟩ :: comments)

inductive BlockRounds (d : Delimiters) (text : Text) : BlockState → List Nat → List BlockComment → Prop
  | outside {cursors : List Nat} {comments : List BlockComment} : Rounds d text 0 cursors comments →
      BlockRounds d text .normal cursors comments
  | continued {n : Match} {cursors : List Nat} {comments : List BlockComment} :
      d.closing.FirstMatch text 0 n → Rounds d text n.ending.stop cursors comments →
      BlockRounds d text .inComment cursors (⟨⟨0, n.ending.stop⟩, true⟩ :: comments)
  | unclosed : d.closing.NoMatchFrom text 0 →
      BlockRounds d text .inComment [] [⟨⟨0, Text.byteLength text⟩, false⟩]

section

variable {d : Delimiters} {text : Text}

lemma Scan.unique {offset : Nat} {xs ys : List BlockComment} (hx : Scan d text offset xs)
    (hy : Scan d text offset ys) : xs = ys := by
  induction hx generalizing ys with
  | done hnone =>
    cases hy with
    | done => rfl
    | closed hm => exact (hnone.not_firstMatch hm).elim
    | unclosed hm => exact (hnone.not_firstMatch hm).elim
  | closed hm hn _ ih =>
    cases hy with
    | done hnone => exact (hnone.not_firstMatch hm).elim
    | closed hm' hn' hy =>
      obtain rfl := hm.unique hm'
      obtain rfl := hn.unique hn'
      rw [ih hy]
    | unclosed hm' hnone =>
      obtain rfl := hm.unique hm'
      exact (hnone.not_firstMatch hn).elim
  | unclosed hm hnone =>
    cases hy with
    | done hnone => exact (hnone.not_firstMatch hm).elim
    | closed hm' hn =>
      obtain rfl := hm.unique hm'
      exact (hnone.not_firstMatch hn).elim
    | unclosed hm' => rw [hm.unique hm']

lemma BlockScan.unique {incoming : BlockState} {xs ys : List BlockComment}
    (hx : BlockScan d text incoming xs) (hy : BlockScan d text incoming ys) : xs = ys := by
  cases hx with
  | outside hx =>
    cases hy with
    | outside hy => exact hx.unique hy
  | continued hn hx =>
    cases hy with
    | continued hn' hy =>
      obtain rfl := hn.unique hn'
      rw [hx.unique hy]
    | unclosed hnone => exact (hnone.not_firstMatch hn).elim
  | unclosed hnone =>
    cases hy with
    | continued hn => exact (hnone.not_firstMatch hn).elim
    | unclosed => rfl

lemma Scan.fits {offset : Nat} {comments : List BlockComment} (h : Scan d text offset comments) :
    ∀ c ∈ comments, c.range.Fits text ∧ offset ≤ c.range.start := by
  induction h with
  | done => simp
  | @closed offset m n comments hm hn _ ih =>
    have hmle := hm.1.fits.1
    have hnle := hn.1.fits.1
    have hgap := hn.2.1
    have hoffset := hm.2.1
    simp only [Match.range] at hmle hnle
    intro c hc
    rcases List.mem_cons.mp hc with rfl | hc
    · exact ⟨⟨by simp only; omega, hm.1.fits.2.1, hn.1.fits.2.2⟩, hoffset⟩
    · obtain ⟨hfits, hle⟩ := ih c hc
      exact ⟨hfits, by omega⟩
  | @unclosed offset m hm _ =>
    intro c hc
    obtain rfl := List.mem_singleton.mp hc
    have hstart := hm.1.fits.2.1
    exact ⟨⟨hstart.le, hstart, Text.isBoundary_byteLength text⟩, hm.2.1⟩

lemma BlockScan.fits {incoming : BlockState} {comments : List BlockComment}
    (h : BlockScan d text incoming comments) : ∀ c ∈ comments, c.range.Fits text := by
  cases h with
  | outside h => exact fun c hc => (h.fits c hc).1
  | continued hn h =>
    intro c hc
    rcases List.mem_cons.mp hc with rfl | hc
    · exact ⟨Nat.zero_le _, Text.isBoundary_zero text, hn.1.fits.2.2⟩
    · exact (h.fits c hc).1
  | unclosed =>
    intro c hc
    obtain rfl := List.mem_singleton.mp hc
    exact ⟨Nat.zero_le _, Text.isBoundary_zero text, Text.isBoundary_byteLength text⟩

lemma commentFrom_of_none {closings : Pattern.Table} {size start offset : Nat}
    (h : closings.first? offset = none) :
    commentFrom closings size start offset = ⟨⟨start, size⟩, false⟩ := by
  simp only [commentFrom, h]

lemma commentFrom_of_some {closings : Pattern.Table} {size start offset : Nat} {n : Match}
    (h : closings.first? offset = some n) :
    commentFrom closings size start offset = ⟨⟨start, n.ending.stop⟩, true⟩ := by
  simp only [commentFrom, h]

end

section

variable {d : Delimiters} {text : Text} {incoming : BlockState} {cursor : Nat} {m n : Match} {cursors : List Nat}
variable {comments : List BlockComment}

lemma round_le (hm : d.opening.FirstMatch text cursor m) (hn : d.closing.FirstMatch text m.ending.stop n) :
    cursor ≤ m.start ∧ m.start ≤ m.ending.stop ∧ m.ending.stop ≤ n.start ∧ n.start ≤ n.ending.stop :=
  ⟨hm.2.1, hm.1.fits.1, hn.2.1, hn.1.fits.1⟩

lemma round_lt (hd : d.opening.NeverEmpty ∨ d.closing.NeverEmpty) (hm : d.opening.FirstMatch text cursor m)
    (hn : d.closing.FirstMatch text m.ending.stop n) : cursor < n.ending.stop := by
  obtain ⟨hcursor, hopening, hgap, hclosing⟩ := round_le hm hn
  rcases hd with hd | hd
  · have hlt := hd text m hm.1
    omega
  · have hlt := hd text n hn.1
    omega

lemma exists_rounds (hd : d.opening.NeverEmpty ∨ d.closing.NeverEmpty) (text : Text) (cursor : Nat) :
    ∃ cursors comments, Rounds d text cursor cursors comments := by
  -- a round that does not leave the loop takes away some of the bytes behind the cursor
  induction hleft : Text.byteLength text - cursor using Nat.strongRecOn generalizing cursor with
  | _ left ih =>
    by_cases hsize : Text.byteLength text ≤ cursor
    · exact ⟨_, _, .ended hsize⟩
    have hcursor := Nat.not_le.mp hsize
    cases hopening : (d.opening.table text).first? cursor with
    | none => exact ⟨_, _, .nothing hcursor (Pattern.first?_eq_none.mp hopening)⟩
    | some m =>
      have hm := Pattern.first?_eq_some.mp hopening
      cases hclosing : (d.closing.table text).first? m.ending.stop with
      | none => exact ⟨_, _, .unclosed hcursor hm (Pattern.first?_eq_none.mp hclosing)⟩
      | some n =>
        have hn := Pattern.first?_eq_some.mp hclosing
        have hlt := round_lt hd hm hn
        obtain ⟨cursors, comments, hrest⟩ := ih _ (by omega) n.ending.stop rfl
        exact ⟨_, _, .closed hcursor hm hn hrest⟩

lemma Rounds.length_le_left (hd : d.opening.NeverEmpty ∨ d.closing.NeverEmpty)
    (h : Rounds d text cursor cursors comments) : cursors.length ≤ Text.byteLength text - cursor := by
  induction h with
  | ended => simp
  | nothing hcursor => exact Nat.sub_pos_of_lt hcursor
  | unclosed hcursor => exact Nat.sub_pos_of_lt hcursor
  | closed hcursor hm hn _ ih =>
    have hlt := round_lt hd hm hn
    rw [List.length_cons]
    omega

lemma Rounds.length_le (hd : d.opening.NeverEmpty ∨ d.closing.NeverEmpty)
    (h : Rounds d text cursor cursors comments) : cursors.length ≤ Text.byteLength text :=
  Nat.le_trans (h.length_le_left hd) (Nat.sub_le _ _)

lemma Rounds.commentsFrom_eq (h : Rounds d text cursor cursors comments) {rounds : Nat}
    (hr : cursors.length ≤ rounds) : commentsFrom (d.opening.table text) (d.closing.table text)
      (Text.byteLength text) rounds cursor = comments := by
  induction h generalizing rounds with
  | ended hsize => cases rounds <;> simp [commentsFrom, hsize]
  | nothing hcursor hnone =>
    obtain ⟨rounds, rfl⟩ := Nat.exists_eq_succ_of_ne_zero (Nat.pos_iff_ne_zero.mp hr)
    simp [commentsFrom, Nat.not_le.mpr hcursor, Pattern.first?_eq_none.mpr hnone]
  | unclosed hcursor hm hnone =>
    obtain ⟨rounds, rfl⟩ := Nat.exists_eq_succ_of_ne_zero (Nat.pos_iff_ne_zero.mp hr)
    simp [commentsFrom, Nat.not_le.mpr hcursor, Pattern.first?_eq_some.mpr hm,
      commentFrom_of_none (Pattern.first?_eq_none.mpr hnone)]
  | closed hcursor hm hn _ ih =>
    have hpos := Nat.lt_of_lt_of_le (Nat.succ_pos _) hr
    obtain ⟨rounds, rfl⟩ := Nat.exists_eq_succ_of_ne_zero (Nat.pos_iff_ne_zero.mp hpos)
    have hrest := ih (Nat.le_of_succ_le_succ hr)
    simp [commentsFrom, Nat.not_le.mpr hcursor, Pattern.first?_eq_some.mpr hm,
      commentFrom_of_some (Pattern.first?_eq_some.mpr hn), hrest]

lemma exists_blockRounds (hd : d.opening.NeverEmpty ∨ d.closing.NeverEmpty) (text : Text)
    (incoming : BlockState) : ∃ cursors, BlockRounds d text incoming cursors (d.comments text incoming) := by
  cases incoming with
  | normal =>
    obtain ⟨cursors, comments, h⟩ := exists_rounds hd text 0
    refine ⟨cursors, .outside ?_⟩
    rwa [Delimiters.comments, h.commentsFrom_eq (h.length_le hd)]
  | inComment =>
    cases hclosing : (d.closing.table text).first? 0 with
    | none =>
      refine ⟨[], ?_⟩
      simp only [Delimiters.comments, commentFrom_of_none hclosing, Bool.false_eq_true, if_false]
      exact .unclosed (Pattern.first?_eq_none.mp hclosing)
    | some n =>
      obtain ⟨cursors, comments, h⟩ := exists_rounds hd text n.ending.stop
      refine ⟨cursors, ?_⟩
      simp only [Delimiters.comments, commentFrom_of_some hclosing, if_true]
      rw [h.commentsFrom_eq (h.length_le hd)]
      exact .continued (Pattern.first?_eq_some.mp hclosing) h

lemma Rounds.scan (hd : d.NeverEmpty) (h : Rounds d text cursor cursors comments) :
    Scan d text cursor comments := by
  induction h with
  | ended hsize => exact .done (hd.1.noMatchFrom hsize)
  | nothing _ hnone => exact .done hnone
  | unclosed _ hm hnone => exact .unclosed hm hnone
  | closed _ hm hn _ ih => exact .closed hm hn ih

lemma BlockRounds.blockScan (hd : d.NeverEmpty) (h : BlockRounds d text incoming cursors comments) :
    BlockScan d text incoming comments := by
  cases h with
  | outside h => exact .outside (h.scan hd)
  | continued hn h => exact .continued hn (h.scan hd)
  | unclosed hnone => exact .unclosed hnone

lemma blockScan_comments (hd : d.NeverEmpty) (text : Text) (incoming : BlockState) :
    BlockScan d text incoming (d.comments text incoming) := by
  obtain ⟨cursors, h⟩ := exists_blockRounds (Or.inl hd.1) text incoming
  exact h.blockScan hd

end

end Delimiters

def LeftOpen (comments : List BlockComment) : Prop :=
  ∃ c, comments.getLast? = some c ∧ c.closed = false

namespace BlockState

lemma after_eq_inComment {comments : List BlockComment} :
    after comments = .inComment ↔ LeftOpen comments := by
  unfold after LeftOpen
  cases comments.getLast? with
  | none => simp
  | some c => cases hc : c.closed <;> simp [hc]

lemma after_eq_normal {comments : List BlockComment} :
    after comments = .normal ↔ ¬ LeftOpen comments := by
  rw [← after_eq_inComment]
  cases after comments <;> simp

lemma after_cons_closed {c : BlockComment} (hc : c.closed = true) (comments : List BlockComment) :
    after (c :: comments) = after comments := by
  cases comments with
  | nil => simp [after, hc]
  | cons d comments => rw [after, after, List.getLast?_cons_cons]

end BlockState

end Highlighting
