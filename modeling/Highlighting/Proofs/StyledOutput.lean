import Highlighting.Proofs.SafeSpans
import Highlighting.Proofs.Screen

/-! A highlighted block, written for a terminal and read by a screen, is the text of the block with each
character in the style of its class. -/

namespace Highlighting

namespace Text

/-- What is left without the sequences, each of which runs from an ESC through the next m. -/
def unstyled : Text → Text
  | [] => []
  | c :: rest => if c = '\x1b' then unstyled (rest.dropWhile (· ≠ 'm')).tail else c :: unstyled rest
termination_by text => text.length
decreasing_by
  · have hle := (List.dropWhile_suffix (l := rest) (· ≠ 'm')).length_le
    simp only [List.length_tail, List.length_cons]
    omega
  · simp

lemma unstyled_append {text : Text} (h : '\x1b' ∉ text) (rest : Text) :
    unstyled (text ++ rest) = text ++ unstyled rest := by
  induction text with
  | nil => rfl
  | cons c text ih =>
    rw [List.mem_cons, not_or] at h
    rw [List.cons_append, unstyled, if_neg (Ne.symm h.1), ih h.2, List.cons_append]

lemma unstyled_attributes {body : Text} (h : 'm' ∉ body) (rest : Text) :
    unstyled (Terminal.attributes body ++ rest) = unstyled rest := by
  have hbody : ∀ c ∈ '[' :: body, decide (c ≠ 'm') = true := by
    intro c hc
    rcases List.mem_cons.mp hc with rfl | hc
    · rfl
    · exact decide_eq_true fun hm => h (hm ▸ hc)
  have hdropped : (('[' :: body) ++ 'm' :: rest).dropWhile (· ≠ 'm') = 'm' :: rest := by
    rw [List.dropWhile_append_of_pos hbody]
    rfl
  have hwritten : Terminal.attributes body ++ rest = '\x1b' :: (('[' :: body) ++ 'm' :: rest) := by
    simp [Terminal.attributes]
  rw [hwritten, unstyled, if_pos rfl, hdropped, List.tail_cons]

lemma not_mem_foreground (color : Color) : 'm' ∉ Terminal.foreground color := by
  have hdigits (n : Nat) : 'm' ∉ decimal n := fun hm => absurd (Screen.isDigit_decimal n _ hm) (by decide)
  cases color with
  | default => decide
  | rgb r g b => simp [Terminal.foreground, hdigits]
  | _ => simp [Terminal.foreground, Terminal.palette?, hdigits]

lemma unstyled_styled (style : Style) {text : Text} (h : '\x1b' ∉ text) (rest : Text) :
    unstyled (Terminal.styled style text ++ rest) = text ++ unstyled rest := by
  have hopening (behind : Text) : unstyled (Terminal.opening style ++ behind) = unstyled behind := by
    rw [Terminal.opening, List.append_assoc, List.append_assoc, unstyled_attributes (not_mem_foreground _)]
    have hbold : 'm' ∉ ['1'] := by decide
    have hitalic : 'm' ∉ ['3'] := by decide
    cases style.bold <;> cases style.italic <;> simp [unstyled_attributes hbold, unstyled_attributes hitalic]
  rw [Terminal.styled, List.append_assoc, List.append_assoc, hopening, unstyled_append h,
    unstyled_attributes (by decide)]

lemma IsBoundary.exists_cut {before behind : Text} {n : Nat} (h : IsBoundary (before ++ behind) n)
    (hle : byteLength before ≤ n) :
    ∃ own rest, behind = own ++ rest ∧ byteLength before + byteLength own = n := by
  obtain ⟨before', behind', heq, rfl⟩ := h
  obtain ⟨own, rfl, rfl⟩ := exists_between heq hle
  exact ⟨own, behind', rfl, by simp⟩

end Text

def Theme.penAt (theme : Theme) (spans : List Span) (i : Nat) : Pen :=
  match spans.find? (·.contains i) with
  | some s => .ofStyle (theme.style s.kind)
  | none => .plain

def Theme.cells (theme : Theme) (spans : List Span) : (offset : Nat) → Text → List (Char × Pen)
  | _, [] => []
  | offset, c :: rest => (c, theme.penAt spans offset) :: cells theme spans (offset + c.utf8Size) rest

namespace Theme

variable {theme : Theme} {s : Span} {spans : List Span} {i : Nat}

lemma penAt_of_contains (h : s.contains i = true) :
    theme.penAt (s :: spans) i = .ofStyle (theme.style s.kind) := by
  simp [penAt, h]

lemma penAt_of_not_contains (h : ¬ s.contains i = true) :
    theme.penAt (s :: spans) i = theme.penAt spans i := by
  simp [penAt, h]

lemma penAt_of_forall (h : ∀ s ∈ spans, ¬ s.contains i = true) : theme.penAt spans i = .plain := by
  have hnone : spans.find? (·.contains i) = none := List.find?_eq_none.mpr h
  simp only [penAt, hnone]

lemma penAt_of_mem (hc : Span.Canonical spans) (hs : s ∈ spans) (hi : s.contains i = true) :
    theme.penAt spans i = .ofStyle (theme.style s.kind) := by
  induction spans with
  | nil => simp at hs
  | cons t spans ih =>
    rcases List.mem_cons.mp hs with rfl | hs
    · exact penAt_of_contains hi
    · have hle := (hc.head hs).1
      have hstart := (Span.contains_iff.mp hi).1
      rw [penAt_of_not_contains (mt Span.contains_iff.mp (by omega)), ih hc.tail hs]

lemma cells_append (offset : Nat) (a b : Text) : theme.cells spans offset (a ++ b) =
    theme.cells spans offset a ++ theme.cells spans (offset + Text.byteLength a) b := by
  induction a generalizing offset with
  | nil => simp [cells]
  | cons c a ih => simp [cells, ih, Nat.add_assoc]

lemma map_fst_cells (theme : Theme) (spans : List Span) (offset : Nat) (text : Text) :
    (theme.cells spans offset text).map (·.1) = text := by
  induction text generalizing offset with
  | nil => rfl
  | cons c text ih => rw [cells, List.map_cons, ih]

lemma cells_eq_map {offset : Nat} {text : Text} {pen : Pen}
    (h : ∀ i, offset ≤ i → i < offset + Text.byteLength text → theme.penAt spans i = pen) :
    theme.cells spans offset text = text.map fun c => (c, pen) := by
  induction text generalizing offset with
  | nil => rfl
  | cons c text ih =>
    have hc := c.utf8Size_pos
    rw [Text.byteLength_cons] at h
    rw [cells, List.map_cons, h offset (Nat.le_refl _) (by omega),
      ih fun i hle hlt => h i (by omega) (by omega)]

lemma cells_congr {others : List Span} {offset : Nat} (text : Text)
    (h : ∀ i, offset ≤ i → theme.penAt spans i = theme.penAt others i) :
    theme.cells spans offset text = theme.cells others offset text := by
  induction text generalizing offset with
  | nil => rfl
  | cons c text ih => rw [cells, cells, h offset (Nat.le_refl _), ih fun i hi => h i (by omega)]

end Theme

namespace Terminal

/-- What was written shows some cells, and their characters are all of it but sequences. -/
def Displays (out : Text) (cells : List (Char × Pen)) : Prop :=
  (∀ before, (Screen.showing before).read out = Screen.showing (before ++ cells)) ∧
    ∀ rest, Text.unstyled (out ++ rest) = cells.map (·.1) ++ Text.unstyled rest

section

variable {theme : Theme} {out out' text before behind : Text} {cells cells' : List (Char × Pen)}

lemma Displays.append (h : Displays out cells) (h' : Displays out' cells') :
    Displays (out ++ out') (cells ++ cells') := by
  refine ⟨fun before => ?_, fun rest => ?_⟩
  · rw [Screen.read_append, h.1, h'.1, List.append_assoc]
  · rw [List.append_assoc, h.2, h'.2, List.map_append, List.append_assoc]

lemma displays_plain (h : '\x1b' ∉ text) : Displays text (text.map fun c => (c, Pen.plain)) := by
  refine ⟨fun before => Screen.read_printed h before .plain, fun rest => ?_⟩
  rw [Text.unstyled_append h, List.map_map]
  simp [Function.comp_def]

lemma displays_styled (style : Style) (h : '\x1b' ∉ text) :
    Displays (styled style text) (text.map fun c => (c, Pen.ofStyle style)) := by
  refine ⟨fun before => ?_, fun rest => ?_⟩
  · rw [styled, Screen.read_append, Screen.read_append, Screen.read_opening, Screen.read_printed h]
    rfl
  · rw [Text.unstyled_styled style h, List.map_map]
    simp [Function.comp_def]

lemma displays_lineBreak : Displays ['\n'] [('\n', Pen.plain)] := displays_plain (by decide)

lemma displays_rest (hplain : '\x1b' ∉ behind) : ∃ out,
    writeFrom theme (before ++ behind) (Text.byteLength before) [] = some out ∧
      Displays out (theme.cells [] (Text.byteLength before) behind ++ [('\n', Pen.plain)]) := by
  refine ⟨behind ++ ['\n'], ?_, ?_⟩
  · by_cases hlt : Text.byteLength before < Text.byteLength (before ++ behind)
    · have hslice : (before ++ behind).slice? (Text.byteLength before) (Text.byteLength (before ++ behind)) =
          some behind := Text.slice?_eq_some.mpr ⟨before, [], by simp, rfl, by simp⟩
      rw [writeFrom, if_pos hlt, hslice]
      rfl
    · rw [Text.byteLength_append] at hlt
      obtain rfl : behind = [] := Text.byteLength_eq_zero.mp (by omega)
      simp [writeFrom]
  · rw [Theme.cells_eq_map fun i _ _ => Theme.penAt_of_forall (by simp)]
    exact (displays_plain hplain).append displays_lineBreak

lemma gap_eq (before gap behind : Text) {start : Nat}
    (h : Text.byteLength before + Text.byteLength gap = start) :
    (if Text.byteLength before < start then
      (before ++ gap ++ behind).slice? (Text.byteLength before) start else some []) = some gap := by
  by_cases hlt : Text.byteLength before < start
  · rw [if_pos hlt, Text.slice?_eq_some]
    exact ⟨before, behind, rfl, rfl, h⟩
  · obtain rfl : gap = [] := Text.byteLength_eq_zero.mp (by omega)
    rw [if_neg hlt]

lemma writeFrom_cons (theme : Theme) (text : Text) (position : Nat) (s : Span) (spans : List Span) :
    writeFrom theme text position (s :: spans) =
      (if position < s.start then text.slice? position s.start else some []).bind fun gap =>
        (s.text? text).bind fun own =>
          (writeFrom theme text s.stop spans).map (gap ++ styled (theme.style s.kind) own ++ ·) := by
  rw [writeFrom]
  by_cases hlt : position < s.start
  · simp only [if_pos hlt, Option.bind_eq_bind, Option.pure_def, Option.map_eq_bind, Function.comp_def]
  · simp only [if_neg hlt, Option.bind_eq_bind, Option.pure_def, Option.map_eq_bind, Function.comp_def]

lemma cells_cons {s : Span} {spans : List Span} {position : Nat} {gap own : Text}
    (hc : Span.Canonical (s :: spans)) (hgap : position + Text.byteLength gap = s.start)
    (hown : s.start + Text.byteLength own = s.stop) :
    theme.cells (s :: spans) position (gap ++ (own ++ behind)) =
      (gap.map fun c => (c, Pen.plain)) ++ ((own.map fun c => (c, Pen.ofStyle (theme.style s.kind))) ++
        theme.cells spans s.stop behind) := by
  rw [Theme.cells_append, Theme.cells_append, hgap, hown]
  congr 1
  · apply Theme.cells_eq_map
    intro i _ hi
    apply Theme.penAt_of_forall
    intro t ht hcontains
    have hle := hc.start_le ⟨t, ht, hcontains, rfl⟩
    omega
  · congr 1
    · apply Theme.cells_eq_map
      intro i hle hlt
      exact Theme.penAt_of_contains (Span.contains_iff.mpr ⟨hle, by omega⟩)
    · apply Theme.cells_congr
      intro i hle
      exact Theme.penAt_of_not_contains (mt Span.contains_iff.mp (by omega))

lemma writeFrom_displays (theme : Theme) (before : Text) {spans : List Span} (hplain : '\x1b' ∉ behind)
    (hc : Span.Canonical spans) (hahead : ∀ s ∈ spans, Text.byteLength before ≤ s.start)
    (hcut : ∀ s ∈ spans, (before ++ behind).IsBoundary s.start ∧ (before ++ behind).IsBoundary s.stop) :
    ∃ out, writeFrom theme (before ++ behind) (Text.byteLength before) spans = some out ∧
      Displays out (theme.cells spans (Text.byteLength before) behind ++ [('\n', Pen.plain)]) := by
  -- over the spans still to come, all of which begin behind what has been written
  induction spans generalizing before behind with
  | nil => exact displays_rest hplain
  | cons s spans ih =>
    obtain ⟨hstart, hstop⟩ := hcut s List.mem_cons_self
    obtain ⟨gap, behind, rfl, hgap⟩ := hstart.exists_cut (hahead s List.mem_cons_self)
    rw [← List.append_assoc] at hstop hcut ⊢
    have hstarts : Text.byteLength (before ++ gap) = s.start := by rw [Text.byteLength_append, hgap]
    obtain ⟨own, behind, rfl, hown⟩ := hstop.exists_cut (by rw [hstarts]; exact Nat.le_add_right _ _)
    have hstops : Text.byteLength (before ++ gap ++ own) = s.stop := by rw [Text.byteLength_append, hown]
    simp only [List.mem_append, not_or] at hplain
    obtain ⟨hplaingap, hplainown, hplainbehind⟩ := hplain
    have hassoc : before ++ gap ++ (own ++ behind) = before ++ gap ++ own ++ behind := by simp
    obtain ⟨out, hout, hshown⟩ := ih (before ++ gap ++ own) hplainbehind hc.tail
      (fun t ht => hstops ▸ (hc.head ht).1)
      (fun t ht => hassoc ▸ hcut t (List.mem_cons_of_mem s ht))
    have htext : s.text? (before ++ gap ++ (own ++ behind)) = some own :=
      Text.slice?_eq_some.mpr ⟨before ++ gap, behind, hassoc, hstarts, by rw [← hstarts, hown]⟩
    rw [hstops, ← hassoc] at hout
    rw [hstops] at hshown
    refine ⟨gap ++ styled (theme.style s.kind) own ++ out, ?_, ?_⟩
    · rw [writeFrom_cons, gap_eq before gap (own ++ behind) hgap, htext, hout]
      rfl
    · rw [cells_cons hc hgap (by rw [← hstarts, hown]), List.append_assoc, List.append_assoc,
        List.append_assoc]
      exact (displays_plain hplaingap).append ((displays_styled _ hplainown).append hshown)

lemma write_displays (theme : Theme) {h : Highlight} (hplain : '\x1b' ∉ text) (hc : Span.Canonical h.spans)
    (hcut : ∀ s ∈ h.spans, text.IsBoundary s.start ∧ text.IsBoundary s.stop) :
    ∃ out, write theme text h = some out ∧
      Displays out (theme.cells h.spans 0 text ++ [('\n', Pen.plain)]) :=
  writeFrom_displays theme [] hplain hc (fun s _ => Nat.zero_le s.start) hcut

end

/-- A screen shows what is written of a block as the text of the block and a line break. Characters in a
span are printed with the pen of its class, and all others without attributes. -/
theorem written_block_displays_styles (language : Language) (incoming : BlockState) (theme : Theme) (text : Text)
    (hplain : '\x1b' ∉ text) :
    let h := language.grammar.highlight text incoming
    ∃ out, write theme text h = some out ∧
      (Screen.showing []).read out = Screen.showing (theme.cells h.spans 0 text ++ [('\n', Pen.plain)]) ∧
      (theme.cells h.spans 0 text).map (·.1) = text ∧
      (∀ s ∈ h.spans, ∀ i, s.contains i = true → theme.penAt h.spans i = .ofStyle (theme.style s.kind)) ∧
      (∀ i, (∀ s ∈ h.spans, ¬ s.contains i = true) → theme.penAt h.spans i = .plain) ∧
      Function.Injective Foreground.ofColor ∧
      out.unstyled = text ++ ['\n'] := by
  intro h
  have hc : Span.Canonical h.spans := Coloring.canonical_spans _
  obtain ⟨out, hout, hread, hunstyled⟩ := write_displays theme hplain hc fun _ hs =>
    Grammar.cut_of_mem_spans (fun _ => Language.neverEmpty_blockComment) hs
  refine ⟨out, hout, hread [], theme.map_fst_cells h.spans 0 text, fun s hs i hi => Theme.penAt_of_mem hc hs hi,
    fun i hi => Theme.penAt_of_forall hi, Foreground.ofColor_injective, ?_⟩
  have hall := hunstyled []
  rwa [List.append_nil, List.map_append, Theme.map_fst_cells, Text.unstyled, List.append_nil] at hall

theorem written_javaScript_displays_styles :
    '\x1b' ∉ "é */ let x = 1 // ü".toList ∧
      ∃ out, write .default "é */ let x = 1 // ü".toList
          (Language.javaScript.grammar.highlight "é */ let x = 1 // ü".toList .inComment) = some out ∧
        Text.unstyled out = "é */ let x = 1 // ü\n".toList := by
  have hplain : '\x1b' ∉ "é */ let x = 1 // ü".toList := by decide
  obtain ⟨out, hout, -, -, -, -, -, hunstyled⟩ :=
    written_block_displays_styles .javaScript .inComment .default _ hplain
  exact ⟨hplain, out, hout, hunstyled⟩

end Terminal

end Highlighting
