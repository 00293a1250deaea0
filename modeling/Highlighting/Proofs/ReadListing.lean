import Highlighting.Proofs.CommandOutput
import Highlighting.Proofs.Screen
import Highlighting.Proofs.ThemeOverlay

/-! Listings read back. A listing has a line for the block and one for each span, and a reader of these lines
finds the number of the block, its state and its spans again, whatever text was quoted. -/

namespace Highlighting

namespace Text

lemma mem_toDigits {n : Nat} {c : Char} (h : c ∈ Nat.toDigits 16 n) : ∃ d < 16, c = Nat.digitChar d := by
  induction n using Nat.strong_induction_on with
  | h n ih =>
    rw [Nat.toDigits_eq_if (by decide)] at h
    split at h
    · next hlt => exact ⟨n, hlt, List.mem_singleton.mp h⟩
    · next hle =>
      rcases List.mem_append.mp h with h | h
      · exact ih (n / 16) (Nat.div_lt_self (by omega) (by decide)) h
      · exact ⟨n % 16, Nat.mod_lt n (by decide), List.mem_singleton.mp h⟩

lemma lineFeed_not_mem_quotedChar (c : Char) : '\n' ∉ quotedChar c := by
  have hdigits : '\n' ∉ Nat.toDigits 16 c.toNat := by
    intro h
    obtain ⟨d, hd, hc⟩ := mem_toDigits h
    have hall : ∀ d < 16, '\n' ≠ Nat.digitChar d := by decide
    exact hall d hd hc
  unfold quotedChar
  split
  all_goals try decide
  next hfeed _ _ _ =>
    split
    · simp [codePointEscape, hdigits]
    · simpa [eq_comm] using hfeed

lemma lineFeed_not_mem_quoted (text : Text) : '\n' ∉ quoted text := by
  simp [quoted, lineFeed_not_mem_quotedChar]

lemma getLast?_quoted (text : Text) : (quoted text).getLast? = some '"' := by
  rw [quoted, ← List.cons_append, List.getLast?_concat]

end Text

lemma StyleClass.plain_name (kind : StyleClass) : ∀ c ∈ kind.name.toList, c ≠ ' ' ∧ c ≠ '\n' := by
  have hall : kind.name.toList.all (fun c => c ≠ ' ' ∧ c ≠ '\n') = true := by cases kind <;> decide
  exact fun c hc => of_decide_eq_true (List.all_eq_true.mp hall c hc)

namespace Listing

def readNumber (text : Text) : Nat × Text :=
  (Nat.ofDigitChars 10 (text.takeWhile Char.isDigit) 0, text.dropWhile Char.isDigit)

/-- Reads a span from its line. Neither the column nor the quoted text is looked at. -/
def readLine? (line : Text) : Option Span :=
  let (start, ahead) := readNumber (line.drop 2)
  let (stop, ahead) := readNumber (ahead.drop 2)
  let (_, ahead) := readNumber (ahead.drop 5)
  (StyleClass.ofName? (String.ofList ((ahead.drop 1).takeWhile (· ≠ ' ')))).map (⟨start, stop - start, ·⟩)

def read? (out : Text) : Option (Nat × Highlight) :=
  match out.lines with
  | [] => none
  | first :: lines =>
    let (index, ahead) := readNumber (first.drop 6)
    let (state, _) := readNumber (ahead.drop 7)
    (lines.mapM readLine?).map fun spans => (index, ⟨spans, .ofInt state⟩)

def stateDigit : BlockState → Char
  | .normal => '0'
  | .inComment => '1'

def headingLine (index : Nat) (state : BlockState) : Text :=
  'b' :: 'l' :: 'o' :: 'c' :: 'k' :: ' ' :: (decimal index ++
    [' ', 's', 't', 'a', 't', 'e', '=', stateDigit state])

def spanLine (s : Span) (column : Nat) (own : Text) : Text :=
  ' ' :: ' ' :: (decimal s.start ++ '.' :: '.' :: (decimal s.stop ++ ' ' :: 'c' :: 'o' :: 'l' :: ' ' ::
    (decimal column ++ ' ' :: (s.kind.name.toList ++ ' ' :: Text.quoted own))))

section

variable {text line rest out own : Text} {s : Span} {spans : List Span} {lines : List Text} {index column : Nat}
variable {c : Char} {h : Highlight}

lemma readNumber_decimal_cons (n : Nat) (hc : c.isDigit = false) (rest : Text) :
    readNumber (decimal n ++ c :: rest) = (n, c :: rest) := by
  have hdigits : ∀ c ∈ decimal n, c.isDigit = true := Screen.isDigit_decimal n
  have hstops : ¬ c.isDigit = true := by simp [hc]
  rw [readNumber, List.takeWhile_append_of_pos hdigits, List.dropWhile_append_of_pos hdigits,
    List.takeWhile_cons_of_neg hstops, List.dropWhile_cons_of_neg hstops, List.append_nil, decimal,
    Nat.ofDigitChars_ten_toDigits]

lemma ofInt_stateDigit (state : BlockState) : BlockState.ofInt (readNumber [stateDigit state]).1 = state := by
  cases state <;> rfl

lemma takeWhile_name (kind : StyleClass) (rest : Text) :
    (kind.name.toList ++ ' ' :: rest).takeWhile (· ≠ ' ') = kind.name.toList := by
  have hname : ∀ c ∈ kind.name.toList, decide (c ≠ ' ') = true := fun c hc => decide_eq_true (kind.plain_name c hc).1
  rw [List.takeWhile_append_of_pos hname, List.takeWhile_cons_of_neg (by decide), List.append_nil]

lemma readLine?_spanLine (s : Span) (column : Nat) (own : Text) : readLine? (spanLine s column own) = some s := by
  have hkind : StyleClass.ofName? s.kind.name = some s.kind := Theme.ofName?_eq_some.mpr rfl
  have hlength : s.stop - s.start = s.length := Nat.add_sub_cancel_left s.start s.length
  simp (disch := decide) only [readLine?, spanLine, List.drop_succ_cons, List.drop_zero, readNumber_decimal_cons,
    takeWhile_name, String.ofList_toList, hkind, hlength, Option.map_some]

lemma line?_eq_some : line? text s = some line ↔ ∃ before own, text.slice? 0 s.start = some before ∧
    s.text? text = some own ∧ line = spanLine s (Text.columns before) own ++ ['\n'] := by
  simp [line?, spanLine, Option.bind_eq_bind, Option.bind_eq_some_iff, @eq_comm _ line]

lemma heading_eq (index : Nat) (state : BlockState) : heading index state = headingLine index state ++ ['\n'] := by
  unfold heading headingLine
  cases state <;> simp [stateDigit]

lemma line?_of_fits (hs : text.IsBoundary s.start ∧ text.IsBoundary s.stop) :
    ∃ column own, line? text s = some (spanLine s column own ++ ['\n']) := by
  obtain ⟨line, hline⟩ := Option.isSome_iff_exists.mp (line?_isSome.mpr hs)
  obtain ⟨before, own, -, -, rfl⟩ := line?_eq_some.mp hline
  exact ⟨_, own, hline⟩

lemma lineFeed_not_mem_decimal (n : Nat) : '\n' ∉ decimal n :=
  fun h => absurd (Screen.isDigit_decimal n _ h) (by decide)

lemma lineFeed_not_mem_headingLine (index : Nat) (state : BlockState) : '\n' ∉ headingLine index state := by
  cases state <;> simp [headingLine, stateDigit, lineFeed_not_mem_decimal]

lemma lineFeed_not_mem_spanLine (s : Span) (column : Nat) (own : Text) : '\n' ∉ spanLine s column own := by
  have hname : '\n' ∉ s.kind.name.toList := fun h => (s.kind.plain_name _ h).2 rfl
  simp [spanLine, lineFeed_not_mem_decimal, hname, Text.lineFeed_not_mem_quoted]

lemma getLast?_headingLine (index : Nat) (state : BlockState) :
    (headingLine index state).getLast? = some (stateDigit state) := by
  simp [headingLine, List.getLast?_cons]

lemma getLast?_spanLine (s : Span) (column : Nat) (own : Text) : (spanLine s column own).getLast? = some '"' := by
  simp [spanLine, List.getLast?_cons, Text.getLast?_quoted]

lemma exists_lines (hcut : ∀ s ∈ spans, text.IsBoundary s.start ∧ text.IsBoundary s.stop) :
    ∃ lines, lines? text spans = some (lines.flatMap (· ++ ['\n'])) ∧
      List.Forall₂ (fun s line => line? text s = some (line ++ ['\n'])) spans lines ∧
      (∀ line ∈ lines, '\n' ∉ line) ∧ Text.Lined (lines.flatMap (· ++ ['\n'])) lines ∧
      lines.mapM readLine? = some spans := by
  induction spans with
  | nil => exact ⟨[], rfl, .nil, by simp, .nil, rfl⟩
  | cons s spans ih =>
    rw [List.forall_mem_cons] at hcut
    obtain ⟨column, own, hline⟩ := line?_of_fits hcut.1
    obtain ⟨lines, hlines, heach, hfeed, hlined, hread⟩ := ih hcut.2
    have hown := lineFeed_not_mem_spanLine s column own
    refine ⟨spanLine s column own :: lines, ?_, .cons hline heach, List.forall_mem_cons.mpr ⟨hown, hfeed⟩, ?_, ?_⟩
    · simp [lines?, hline, hlines]
    · rw [List.flatMap_cons, List.append_assoc]
      exact .feed hown (by simp [getLast?_spanLine]) hlined
    · simp [readLine?_spanLine, hread]

lemma exists_written (index : Nat) (hcut : ∀ s ∈ h.spans, text.IsBoundary s.start ∧ text.IsBoundary s.stop) :
    ∃ lines, write index text h = some ((headingLine index h.state :: lines).flatMap (· ++ ['\n'])) ∧
      List.Forall₂ (fun s line => line? text s = some (line ++ ['\n'])) h.spans lines ∧
      (∀ line ∈ headingLine index h.state :: lines, '\n' ∉ line) ∧
      read? ((headingLine index h.state :: lines).flatMap (· ++ ['\n'])) = some (index, h) := by
  obtain ⟨lines, hlines, heach, hfeed, hlined, hread⟩ := exists_lines hcut
  have hfirst := lineFeed_not_mem_headingLine index h.state
  have hreturn : (headingLine index h.state).getLast? ≠ some '\r' := by
    rw [getLast?_headingLine]
    cases h.state <;> decide
  have hall : Text.Lined ((headingLine index h.state :: lines).flatMap (· ++ ['\n']))
      (headingLine index h.state :: lines) := by
    rw [List.flatMap_cons, List.append_assoc]
    exact .feed hfirst hreturn hlined
  refine ⟨lines, ?_, heach, List.forall_mem_cons.mpr ⟨hfirst, hfeed⟩, ?_⟩
  · rw [write, hlines, Option.map_some, heading_eq, List.flatMap_cons]
  · rw [read?, hall.eq_lines]
    simp (disch := decide) only [headingLine, List.drop_succ_cons, List.drop_zero, readNumber_decimal_cons, hread,
      ofInt_stateDigit, Option.map_some]

lemma read?_of_write (hout : write index text h = some out) : read? out = some (index, h) := by
  have hcut := write_isSome.mp (Option.isSome_of_eq_some hout)
  obtain ⟨lines, hwritten, -, -, hread⟩ := exists_written index hcut
  obtain rfl := Option.some.inj (hout.symm.trans hwritten)
  exact hread

end

/-- A listing has one line for each span behind that of the block, and no other block, highlighted in the same
way or not, is listed as this one is. -/
theorem listing_read_back (index : Nat) (text : Text) (h : Highlight)
    (hcut : ∀ s ∈ h.spans, text.IsBoundary s.start ∧ text.IsBoundary s.stop) :
    ∃ out first lines, write index text h = some out ∧ out = (first :: lines).flatMap (· ++ ['\n']) ∧
      (∀ line ∈ first :: lines, '\n' ∉ line) ∧ heading index h.state = first ++ ['\n'] ∧
      List.Forall₂ (fun s line => line? text s = some (line ++ ['\n'])) h.spans lines ∧
      read? out = some (index, h) ∧
      ∀ index' text' h', write index' text' h' = some out → index' = index ∧ h' = h := by
  obtain ⟨lines, hwritten, heach, hfeed, hread⟩ := exists_written index hcut
  refine ⟨_, _, lines, hwritten, rfl, hfeed, heading_eq index h.state, heach, hread, ?_⟩
  intro index' text' h' hother
  have hsame := (read?_of_write hother).symm.trans hread
  exact Prod.mk.inj (Option.some.inj hsame)

/-- The quoted text goes on like the line of a span. -/
theorem listing_of_feigned_line_read_back :
    (∀ s ∈ ([⟨0, 8, .string⟩, ⟨1, 0, .keyword⟩] : List Span), Text.IsBoundary "\"\n  0..9".toList s.start ∧
        Text.IsBoundary "\"\n  0..9".toList s.stop) ∧
      ∃ out, write 3 "\"\n  0..9".toList ⟨[⟨0, 8, .string⟩, ⟨1, 0, .keyword⟩], .inComment⟩ = some out ∧
        ∀ index' text' h', write index' text' h' = some out →
          index' = 3 ∧ h' = ⟨[⟨0, 8, .string⟩, ⟨1, 0, .keyword⟩], .inComment⟩ := by
  have hcut : ∀ s ∈ ([⟨0, 8, .string⟩, ⟨1, 0, .keyword⟩] : List Span),
      Text.IsBoundary "\"\n  0..9".toList s.start ∧ Text.IsBoundary "\"\n  0..9".toList s.stop := by
    have hall : ∀ s ∈ ([⟨0, 8, .string⟩, ⟨1, 0, .keyword⟩] : List Span),
        (s.text? "\"\n  0..9".toList).isSome := by decide
    exact fun s hs => Span.text?_isSome.mp (hall s hs)
  obtain ⟨out, -, -, hout, -, -, -, -, -, hunique⟩ :=
    listing_read_back 3 _ ⟨[⟨0, 8, .string⟩, ⟨1, 0, .keyword⟩], .inComment⟩ hcut
  exact ⟨hcut, out, hout, hunique⟩

end Listing

end Highlighting
