import Highlighting.Proofs.StyledOutput

/-! Blocks written with spans in any order. Coloring and listing refuse the same spans, those that the text
cannot be cut at. The others are printed with the text between them, which is the text of the block exactly if
every span begins behind those before it. -/

namespace Highlighting

namespace Terminal

inductive Piece where
  | plain (text : Text)
  | styled (style : Style) (text : Text)

def Piece.text : Piece → Text
  | plain text => text
  | styled _ text => text

def Piece.written : Piece → Text
  | plain text => text
  | styled style text => Terminal.styled style text

def printed (pieces : List Piece) : Text := pieces.flatMap Piece.text

def written (pieces : List Piece) : Text := pieces.flatMap Piece.written

def gap? (text : Text) (position next : Nat) : Option Text :=
  if position < next then text.slice? position next else some []

def pieces? (theme : Theme) (text : Text) : (position : Nat) → List Span → Option (List Piece)
  | position, [] =>
    (gap? text position (Text.byteLength text)).map fun rest => [.plain rest, .plain ['\n']]
  | position, s :: spans =>
    (gap? text position s.start).bind fun gap => (s.text? text).bind fun own =>
      (pieces? theme text s.stop spans).map fun pieces => .plain gap :: .styled (theme.style s.kind) own :: pieces

/-- How many bytes are printed again because spans begin in front of the end of the one before. -/
def repeated : (position : Nat) → List Span → Nat
  | _, [] => 0
  | position, s :: spans => (position - s.start) + repeated s.stop spans

section

variable {theme : Theme} {text before behind own : Text} {position next : Nat} {s : Span} {spans : List Span}
variable {pieces : List Piece}

@[simp] lemma printed_cons (piece : Piece) : printed (piece :: pieces) = piece.text ++ printed pieces :=
  List.flatMap_cons

@[simp] lemma written_cons (piece : Piece) : written (piece :: pieces) = piece.written ++ written pieces :=
  List.flatMap_cons

lemma writeFrom_eq : writeFrom theme text position spans = (pieces? theme text position spans).map written := by
  induction spans generalizing position with
  | nil =>
    by_cases hlt : position < Text.byteLength text
    · rw [writeFrom, if_pos hlt, pieces?, gap?, if_pos hlt]
      cases text.slice? position (Text.byteLength text) <;> simp [written, Piece.written]
    · simp [writeFrom, pieces?, gap?, hlt, written, Piece.written]
  | cons s spans ih =>
    rw [writeFrom_cons, pieces?, ← gap?, ih]
    cases gap? text position s.start with
    | none => rfl
    | some gap =>
      cases s.text? text with
      | none => rfl
      | some own => cases pieces? theme text s.stop spans <;> simp [Piece.written]

lemma byteLength_gap? (hp : text.IsBoundary position) (hn : text.IsBoundary next) :
    ∃ gap, gap? text position next = some gap ∧ Text.byteLength gap = next - position := by
  by_cases hlt : position < next
  · have hsome := Text.slice?_isSome.mpr ⟨Nat.le_of_lt hlt, hp, hn⟩
    obtain ⟨gap, hgap⟩ := Option.isSome_iff_exists.mp hsome
    obtain ⟨-, -, -, -, hlength⟩ := Text.slice?_eq_some.mp hgap
    exact ⟨gap, by rw [gap?, if_pos hlt, hgap], by omega⟩
  · refine ⟨[], by rw [gap?, if_neg hlt], ?_⟩
    rw [Text.byteLength_nil]
    omega

lemma byteLength_text? (hs : s.text? text = some own) : Text.byteLength own = s.length := by
  obtain ⟨-, -, -, -, hlength⟩ := Text.slice?_eq_some.mp hs
  rw [Span.stop] at hlength
  omega

lemma exists_pieces (theme : Theme) (hp : text.IsBoundary position)
    (hcut : ∀ s ∈ spans, text.IsBoundary s.start ∧ text.IsBoundary s.stop) :
    ∃ pieces, pieces? theme text position spans = some pieces ∧
      position + Text.byteLength (printed pieces) = Text.byteLength (text ++ ['\n']) + repeated position spans := by
  induction spans generalizing position with
  | nil =>
    obtain ⟨rest, hrest, hlength⟩ := byteLength_gap? hp (Text.isBoundary_byteLength text)
    refine ⟨_, by rw [pieces?, hrest]; rfl, ?_⟩
    have hle := hp.le
    simp only [printed, List.flatMap_cons, List.flatMap_nil, Piece.text, Text.byteLength_append, hlength,
      Text.byteLength_nil, repeated]
    omega
  | cons s spans ih =>
    rw [List.forall_mem_cons] at hcut
    obtain ⟨gap, hgap, hlength⟩ := byteLength_gap? hp hcut.1.1
    obtain ⟨own, hown⟩ := Option.isSome_iff_exists.mp (Span.text?_isSome.mpr hcut.1)
    obtain ⟨pieces, hpieces, htotal⟩ := ih hcut.1.2 hcut.2
    refine ⟨_, by rw [pieces?, hgap, hown, hpieces]; rfl, ?_⟩
    have hownLength := byteLength_text? hown
    simp only [printed_cons, Piece.text, Text.byteLength_append, hlength, hownLength, repeated]
    simp only [Span.stop, Text.byteLength_append] at htotal
    simp only [Span.stop]
    omega

lemma repeated_eq_zero : repeated position spans = 0 ↔
    (∀ s ∈ spans, position ≤ s.start) ∧ spans.Pairwise fun s t => s.stop ≤ t.start := by
  induction spans generalizing position with
  | nil => simp [repeated]
  | cons s spans ih =>
    rw [repeated, Nat.add_eq_zero_iff, ih, List.forall_mem_cons, List.pairwise_cons, Nat.sub_eq_zero_iff_le]
    constructor
    · rintro ⟨hle, hahead, hordered⟩
      refine ⟨⟨hle, fun t ht => ?_⟩, hahead, hordered⟩
      exact Nat.le_trans hle (Nat.le_trans (Nat.le_add_right _ _) (hahead t ht))
    · rintro ⟨⟨hle, -⟩, hahead, hordered⟩
      exact ⟨hle, hahead, hordered⟩

lemma printed_eq (hahead : ∀ s ∈ spans, Text.byteLength before ≤ s.start)
    (hordered : spans.Pairwise fun s t => s.stop ≤ t.start)
    (hpieces : pieces? theme (before ++ behind) (Text.byteLength before) spans = some pieces) :
    printed pieces = behind ++ ['\n'] := by
  induction spans generalizing before behind pieces with
  | nil =>
    have hgap := gap_eq before behind [] (Text.byteLength_append before behind).symm
    rw [List.append_nil, ← gap?] at hgap
    rw [pieces?, hgap, Option.map_some, Option.some.injEq] at hpieces
    simp [← hpieces, printed, Piece.text]
  | cons s spans ih =>
    rw [pieces?] at hpieces
    obtain ⟨gap, hgap, hpieces⟩ := Option.bind_eq_some_iff.mp hpieces
    obtain ⟨own, hown, hpieces⟩ := Option.bind_eq_some_iff.mp hpieces
    obtain ⟨more, hmore, rfl⟩ := Option.map_eq_some_iff.mp hpieces
    obtain ⟨front, rest, htext, hstart, hstop⟩ := Text.slice?_eq_some.mp hown
    -- the text in front of the span goes on from what was in front of the position
    have hbehind : Text.byteLength before ≤ Text.byteLength front := hstart ▸ hahead s List.mem_cons_self
    obtain ⟨gap', rfl, rfl⟩ := Text.exists_between (htext.trans (List.append_assoc _ _ _)) hbehind
    have hgap' := gap_eq before gap' (own ++ rest) ((Text.byteLength_append before gap').symm.trans hstart)
    rw [← gap?, List.append_assoc, hgap, Option.some.injEq] at hgap'
    have hstops : Text.byteLength (before ++ gap' ++ own) = s.stop := by rw [Text.byteLength_append, hstart, hstop]
    rw [List.pairwise_cons] at hordered
    rw [htext, ← hstops] at hmore
    have hrest := ih (fun t ht => hstops ▸ hordered.1 t ht) hordered.2 hmore
    simp [hrest, hgap', Piece.text]

lemma printed_eq_iff (hpieces : pieces? theme text 0 spans = some pieces)
    (hcut : ∀ s ∈ spans, text.IsBoundary s.start ∧ text.IsBoundary s.stop) :
    printed pieces = text ++ ['\n'] ↔ spans.Pairwise fun s t => s.stop ≤ t.start := by
  constructor
  · intro hprinted
    obtain ⟨pieces', hpieces', hlength⟩ := exists_pieces theme (Text.isBoundary_zero text) hcut
    obtain rfl : pieces = pieces' := Option.some.inj (hpieces.symm.trans hpieces')
    rw [hprinted] at hlength
    have hnone : repeated 0 spans = 0 := by omega
    exact (repeated_eq_zero.mp hnone).2
  · intro hordered
    have hahead : ∀ s ∈ spans, Text.byteLength [] ≤ s.start := fun s _ => Nat.zero_le s.start
    exact printed_eq hahead hordered hpieces

lemma mem_of_gap? {gap : Text} {c : Char} (h : gap? text position next = some gap) (hc : c ∈ gap) : c ∈ text := by
  by_cases hlt : position < next
  · rw [gap?, if_pos hlt] at h
    obtain ⟨before, behind, rfl, -⟩ := Text.slice?_eq_some.mp h
    exact List.mem_append_left behind (List.mem_append_right before hc)
  · rw [gap?, if_neg hlt, Option.some.injEq] at h
    rw [← h] at hc
    cases hc

lemma unstyled_written (hplain : '\x1b' ∉ text) (hpieces : pieces? theme text position spans = some pieces)
    (rest : Text) : Text.unstyled (written pieces ++ rest) = printed pieces ++ Text.unstyled rest := by
  induction spans generalizing position pieces with
  | nil =>
    obtain ⟨gap, hgap, rfl⟩ := Option.map_eq_some_iff.mp hpieces
    have hgapPlain : '\x1b' ∉ gap ++ ['\n'] := by
      rw [List.mem_append, not_or]
      exact ⟨mt (mem_of_gap? hgap) hplain, by decide⟩
    simpa [written, printed, Piece.written, Piece.text] using Text.unstyled_append hgapPlain rest
  | cons s spans ih =>
    rw [pieces?] at hpieces
    obtain ⟨gap, hgap, hpieces⟩ := Option.bind_eq_some_iff.mp hpieces
    obtain ⟨own, hown, hpieces⟩ := Option.bind_eq_some_iff.mp hpieces
    obtain ⟨more, hmore, rfl⟩ := Option.map_eq_some_iff.mp hpieces
    obtain ⟨before, behind, rfl, -⟩ := Text.slice?_eq_some.mp hown
    have hownPlain : '\x1b' ∉ own :=
      fun h => hplain (List.mem_append_left behind (List.mem_append_right before h))
    simp only [written_cons, printed_cons, Piece.written, Piece.text, List.append_assoc]
    rw [Text.unstyled_append (mt (mem_of_gap? hgap) hplain), Text.unstyled_styled _ hownPlain, ih hmore]

end

end Terminal

namespace Highlight

/-- Some span begins or ends beyond the text or inside a character. -/
def Malformed (text : Text) (h : Highlight) : Prop :=
  ∃ s ∈ h.spans, ∃ n, (n = s.start ∨ n = s.stop) ∧ (Text.byteLength text < n ∨ ¬ text.IsBoundary n)

lemma not_malformed {text : Text} {h : Highlight} :
    ¬ h.Malformed text ↔ ∀ s ∈ h.spans, text.IsBoundary s.start ∧ text.IsBoundary s.stop := by
  have hcut (n : Nat) : ¬ (Text.byteLength text < n ∨ ¬ text.IsBoundary n) ↔ text.IsBoundary n := by
    rw [not_or, not_not, Nat.not_lt]
    exact ⟨And.right, fun hn => ⟨hn.le, hn⟩⟩
  simp only [Malformed, not_exists, not_and, forall_eq_or_imp, forall_eq, hcut]

/-- Malformed spans are refused by coloring and by listing. What is colored of all others prints the text once,
and a line break, exactly if they are in order and do not overlap. -/
theorem refused_iff_malformed (text : Text) (h : Highlight) (theme : Theme) (index : Nat) :
    (Terminal.write theme text h = none ↔ h.Malformed text) ∧
      (Listing.write index text h = none ↔ h.Malformed text) ∧
      (¬ h.Malformed text → ∃ pieces, Terminal.pieces? theme text 0 h.spans = some pieces ∧
        Terminal.write theme text h = some (Terminal.written pieces) ∧
        (Terminal.printed pieces = text ++ ['\n'] ↔ h.spans.Pairwise fun s t => s.stop ≤ t.start) ∧
        ('\x1b' ∉ text → Text.unstyled (Terminal.written pieces) = Terminal.printed pieces)) := by
  refine ⟨?_, ?_, fun hfit => ?_⟩
  · rw [← Option.not_isSome_iff_eq_none, Terminal.write_isSome, ← not_malformed, not_not]
  · rw [← Option.not_isSome_iff_eq_none, Listing.write_isSome, ← not_malformed, not_not]
  · have hcut := not_malformed.mp hfit
    obtain ⟨pieces, hpieces, -⟩ := Terminal.exists_pieces theme (Text.isBoundary_zero text) hcut
    refine ⟨pieces, hpieces, ?_, Terminal.printed_eq_iff hpieces hcut, fun hplain => ?_⟩
    · rw [Terminal.write, Terminal.writeFrom_eq, hpieces, Option.map_some]
    · have hall := Terminal.unstyled_written hplain hpieces []
      rwa [List.append_nil, Text.unstyled, List.append_nil] at hall

theorem refused_inside_character :
    Terminal.write .default "é".toList ⟨[⟨0, 2, .string⟩, ⟨1, 0, .keyword⟩], .normal⟩ = none ∧
      Listing.write 3 "é".toList ⟨[⟨0, 2, .string⟩, ⟨1, 0, .keyword⟩], .normal⟩ = none ∧
      ¬ Malformed "é\x1bz".toList ⟨[⟨0, 2, .string⟩, ⟨2, 0, .number⟩, ⟨3, 1, .keyword⟩], .inComment⟩ ∧
      ∃ pieces, Terminal.printed pieces = "é\x1bz\n".toList ∧ Terminal.write .default "é\x1bz".toList
        ⟨[⟨0, 2, .string⟩, ⟨2, 0, .number⟩, ⟨3, 1, .keyword⟩], .inComment⟩ = some (Terminal.written pieces) := by
  have hinside : ¬ Text.IsBoundary "é".toList 1 := by
    rintro ⟨before, behind, htext, hlength⟩
    have hnone : Text.dropBytes? 1 "é".toList = none := by decide
    have hsome := Text.dropBytes?_eq_some.mpr ⟨before, htext, hlength⟩
    rw [hnone] at hsome
    cases hsome
  have hmalformed : Malformed "é".toList ⟨[⟨0, 2, .string⟩, ⟨1, 0, .keyword⟩], .normal⟩ :=
    ⟨⟨1, 0, .keyword⟩, by decide, 1, Or.inl rfl, Or.inr hinside⟩
  have hfit : ¬ Malformed "é\x1bz".toList ⟨[⟨0, 2, .string⟩, ⟨2, 0, .number⟩, ⟨3, 1, .keyword⟩], .inComment⟩ := by
    have hall : ∀ s ∈ ([⟨0, 2, .string⟩, ⟨2, 0, .number⟩, ⟨3, 1, .keyword⟩] : List Span),
        (s.text? "é\x1bz".toList).isSome := by decide
    exact not_malformed.mpr fun s hs => Span.text?_isSome.mp (hall s hs)
  obtain ⟨hwrite, hlisting, -⟩ := refused_iff_malformed "é".toList
    ⟨[⟨0, 2, .string⟩, ⟨1, 0, .keyword⟩], .normal⟩ .default 3
  obtain ⟨-, -, hprints⟩ := refused_iff_malformed "é\x1bz".toList
    ⟨[⟨0, 2, .string⟩, ⟨2, 0, .number⟩, ⟨3, 1, .keyword⟩], .inComment⟩ .default 0
  obtain ⟨pieces, -, hout, hordered, -⟩ := hprints hfit
  exact ⟨hwrite.mpr hmalformed, hlisting.mpr hmalformed, hfit, pieces, hordered.mpr (by decide), hout⟩

end Highlight

end Highlighting
