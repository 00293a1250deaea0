import Highlighting.CommandLine.Run
import Highlighting.Proofs.SafeSpans

/-! The command line prints the full pass over the lines of its input, or it fails and prints nothing. -/

namespace Highlighting

namespace Text

/-- The lines of a text: each ends at a line feed, which a carriage return may precede, but for a last one
that ends with the text. -/
inductive Lined : Text → List Text → Prop
  | nil : Lined [] []
  | last {line : Text} (hne : line ≠ []) (hfeed : '\n' ∉ line) : Lined line [line]
  | feed {line rest : Text} {more : List Text} (hfeed : '\n' ∉ line) (hreturn : line.getLast? ≠ some '\r')
      (hrest : Lined rest more) : Lined (line ++ '\n' :: rest) (line :: more)
  | returnFeed {line rest : Text} {more : List Text} (hfeed : '\n' ∉ line) (hrest : Lined rest more) :
      Lined (line ++ '\r' :: '\n' :: rest) (line :: more)

section

variable {c : Char} {rest line ahead : Text} {more : List Text}

lemma Lined.cons (hc : c ≠ '\n') (hreturn : c = '\r' → rest.head? ≠ some '\n')
    (h : Lined rest (line :: more)) : Lined (c :: rest) ((c :: line) :: more) := by
  have hmem {own : Text} (hfeed : '\n' ∉ own) : '\n' ∉ c :: own := by
    rw [List.mem_cons, not_or]
    exact ⟨Ne.symm hc, hfeed⟩
  cases h with
  | last hne hfeed => exact .last (List.cons_ne_nil c rest) (hmem hfeed)
  | feed hfeed hlast hrest =>
    refine .feed (hmem hfeed) ?_ hrest
    cases line with
    | nil => exact fun h => hreturn (by simpa using h) rfl
    | cons d line => rwa [List.getLast?_cons_cons]
  | returnFeed hfeed hrest => exact .returnFeed (hmem hfeed) hrest

lemma lined_lines (text : Text) : Lined text text.lines := by
  induction text using lines.induct with
  | case1 => exact .nil
  | case2 rest ih => exact .feed List.not_mem_nil (by simp) ih
  | case3 rest ih => exact .returnFeed List.not_mem_nil ih
  | case4 c rest hc hreturn hlines ih =>
    rw [lines.eq_4 c rest hc hreturn, hlines]
    rw [hlines] at ih
    cases ih
    exact .last (List.cons_ne_nil c []) (by simpa using Ne.symm hc)
  | case5 c rest hc hreturn line more hlines ih =>
    rw [lines.eq_4 c rest hc hreturn, hlines]
    rw [hlines] at ih
    refine ih.cons hc fun hreturned hfeed => ?_
    obtain ⟨ahead, rfl⟩ := List.head?_eq_some_iff.mp hfeed
    exact hreturn ahead hreturned rfl

lemma lines_append {first : Text} (hfeed : '\n' ∉ line)
    (hreturn : line.getLast? = some '\r' → ahead.head? ≠ some '\n') (h : lines ahead = first :: more) :
    lines (line ++ ahead) = (line ++ first) :: more := by
  induction line with
  | nil => exact h
  | cons c line ih =>
    rw [List.mem_cons, not_or] at hfeed
    have hrest : lines (line ++ ahead) = (line ++ first) :: more := by
      refine ih hfeed.2 fun hlast => hreturn ?_
      cases line with
      | nil => cases hlast
      | cons d line => rwa [List.getLast?_cons_cons]
    -- a line feed right behind `c` would begin what is ahead
    have hsplit (rest : Text) (hc : c = '\r') (hahead : line ++ ahead = '\n' :: rest) : False := by
      cases line with
      | nil => exact hreturn (by simp [hc]) (List.head?_eq_some_iff.mpr ⟨rest, hahead⟩)
      | cons d line => exact hfeed.2 ((List.cons.inj hahead).1 ▸ List.mem_cons_self)
    rw [List.cons_append, lines.eq_4 c _ (Ne.symm hfeed.1) hsplit, hrest]
    rfl

lemma Lined.eq_lines {text : Text} {found : List Text} (h : Lined text found) : text.lines = found := by
  induction h with
  | nil => rfl
  | @last line hne hfeed =>
    obtain ⟨own, c, rfl⟩ : ∃ own c, line = own ++ [c] := ⟨_, _, (List.dropLast_concat_getLast hne).symm⟩
    simp only [List.mem_append, List.mem_singleton, not_or] at hfeed
    have hlast : lines [c] = [[c]] := lines.eq_4 c [] (Ne.symm hfeed.2) fun rest _ hnil => by cases hnil
    exact lines_append hfeed.1 (by simp [Ne.symm hfeed.2]) hlast
  | feed hfeed hreturn _ ih =>
    rw [lines_append hfeed (fun h => absurd h hreturn) (lines.eq_2 _), List.append_nil, ih]
  | returnFeed hfeed _ ih =>
    rw [lines_append hfeed (by simp) (lines.eq_3 _), List.append_nil, ih]

lemma lined_iff {text : Text} {found : List Text} : Lined text found ↔ text.lines = found :=
  ⟨Lined.eq_lines, fun h => h ▸ lined_lines text⟩

end

end Text

namespace CommandLine

inductive Decoded : Except FileFault ByteArray → Except FileFault Text → Prop
  | text (text : Text) : Decoded (.ok text.utf8Encode) (.ok text)
  | invalid {bytes : ByteArray} (h : ∀ text : Text, bytes ≠ text.utf8Encode) : Decoded (.ok bytes) (.error .notUtf8)
  | unread (fault : FileFault) : Decoded (.error fault) (.error fault)

inductive Overlaid (contents : Except FileFault ByteArray) : Except LoadFault Theme → Prop
  | theme {text : Text} {theme : Theme} (htext : Decoded contents (.ok text)) (h : Theme.parse text = .ok theme) :
      Overlaid contents (.ok theme)
  | malformed {text : Text} {fault : Theme.Fault} (htext : Decoded contents (.ok text))
      (h : Theme.parse text = .error fault) : Overlaid contents (.error (.theme fault))
  | unread {fault : FileFault} (h : Decoded contents (.error fault)) : Overlaid contents (.error (.file fault))

/-- The theme of a run. A file that is named has to be there, and the one in the home directory may be
missing. -/
inductive Themed (host : Host Id) : Option String → Except LoadFault Theme → Prop
  | named {path : String} {loaded : Except LoadFault Theme} (h : Overlaid (host.readFile path) loaded) :
      Themed host (some path) loaded
  | home {home : String} {loaded : Except LoadFault Theme} (hhome : host.home = some home)
      (hpresent : host.readFile (Theme.pathIn home) ≠ .error .missing)
      (h : Overlaid (host.readFile (Theme.pathIn home)) loaded) : Themed host none loaded
  | absent {home : String} (hhome : host.home = some home)
      (hmissing : host.readFile (Theme.pathIn home) = .error .missing) : Themed host none (.ok .default)
  | homeless (hhome : host.home = none) : Themed host none (.ok .default)

def Host.contents (host : Host Id) (options : Options) : Except FileFault ByteArray :=
  match options.file with
  | some path => host.readFile path
  | none => host.readInput

/-- Pieces of output, one for each line, which list or color it as the full pass highlights it. -/
def Printed (options : Options) (theme : Theme) (lines pieces : List Text) : Prop :=
  pieces.length = lines.length ∧
    ∀ i line, lines[i]? = some line → ∃ h,
      ((Highlighter.ofName (options.language.getD "text")).document lines)[i]? = some h ∧
        pieces[i]? = if options.spans then Listing.write i line h else Terminal.write theme line h

section

variable {contents : Except FileFault ByteArray} {host : Host Id} {path : Option String}
  {loaded : Except LoadFault Theme}

lemma decodeBytes_utf8Encode (text : Text) : decodeBytes text.utf8Encode = .ok text := by
  have hread : String.fromUTF8? text.utf8Encode = some (String.ofList text) := by
    rw [String.fromUTF8?, dif_pos ByteArray.isValidUTF8_utf8Encode, Option.some_inj]
    exact String.toByteArray_inj.mp String.toByteArray_ofList.symm
  simp only [decodeBytes, hread, String.toList_ofList]

lemma decodeBytes_of_invalid {bytes : ByteArray} (h : ∀ text : Text, bytes ≠ text.utf8Encode) :
    decodeBytes bytes = .error .notUtf8 := by
  have hinvalid : ¬ bytes.IsValidUTF8 := fun ⟨text, htext⟩ => h text htext
  simp only [decodeBytes, String.fromUTF8?, dif_neg hinvalid]

lemma Decoded.bind_eq {input : Except FileFault Text} (h : Decoded contents input) :
    contents.bind decodeBytes = input := by
  cases h with
  | text text => exact decodeBytes_utf8Encode text
  | invalid h => exact decodeBytes_of_invalid h
  | unread fault => rfl

lemma exists_decoded (contents : Except FileFault ByteArray) : ∃ input, Decoded contents input := by
  cases contents with
  | error fault => exact ⟨_, .unread fault⟩
  | ok bytes =>
    by_cases h : ∃ text : Text, bytes = text.utf8Encode
    · obtain ⟨text, rfl⟩ := h
      exact ⟨_, .text text⟩
    · exact ⟨_, .invalid fun text htext => h ⟨text, htext⟩⟩

lemma Overlaid.ofContents_eq (h : Overlaid contents loaded) : Theme.ofContents contents = loaded := by
  cases h with
  | @theme text theme htext h =>
    cases htext
    simp only [Theme.ofContents, decodeBytes_utf8Encode, h]
  | @malformed text fault htext h =>
    cases htext
    simp only [Theme.ofContents, decodeBytes_utf8Encode, h]
  | unread h =>
    cases h with
    | invalid h => simp only [Theme.ofContents, decodeBytes_of_invalid h]
    | unread fault => rfl

lemma exists_overlaid (contents : Except FileFault ByteArray) : ∃ loaded, Overlaid contents loaded := by
  obtain ⟨input, hinput⟩ := exists_decoded contents
  cases input with
  | error fault => exact ⟨_, .unread hinput⟩
  | ok text =>
    cases h : Theme.parse text with
    | error fault => exact ⟨_, .malformed hinput h⟩
    | ok theme => exact ⟨_, .theme hinput h⟩

def Host.theme (host : Host Id) : Option String → Except LoadFault Theme
  | some path => Theme.load host.readFile path
  | none => Theme.loadHome host.readFile host.home

lemma Themed.theme_eq (h : Themed host path loaded) : host.theme path = loaded := by
  cases h with
  | named h => exact h.ofContents_eq
  | home hhome hpresent h =>
    have hread := Theme.ofHomeContents.eq_2 _ hpresent
    simp only [Host.theme, Theme.loadHome, hhome]
    exact hread.trans h.ofContents_eq
  | absent hhome hmissing =>
    simp only [Host.theme, Theme.loadHome, hhome]
    exact congrArg Theme.ofHomeContents hmissing
  | homeless hhome =>
    simp only [Host.theme, Theme.loadHome, hhome]
    rfl

lemma exists_themed (host : Host Id) (path : Option String) : ∃ loaded, Themed host path loaded := by
  cases path with
  | some path =>
    obtain ⟨loaded, h⟩ := exists_overlaid (host.readFile path)
    exact ⟨loaded, .named h⟩
  | none =>
    cases hhome : host.home with
    | none => exact ⟨_, .homeless hhome⟩
    | some home =>
      by_cases hmissing : host.readFile (Theme.pathIn home) = .error .missing
      · exact ⟨_, .absent hhome hmissing⟩
      · obtain ⟨loaded, h⟩ := exists_overlaid (host.readFile (Theme.pathIn home))
        exact ⟨loaded, .home hhome hmissing h⟩

lemma highlight_eq (host : Host Id) (options : Options) : highlight host options =
    match (host.contents options).bind decodeBytes with
    | .error fault => Outcome.ofLoad (.file fault)
    | .ok text => match host.theme options.theme with
      | .error fault => Outcome.ofLoad fault
      | .ok theme => Outcome.ok (render options theme text) := by
  obtain ⟨language, theme, spans, file⟩ := options
  cases file <;> cases theme <;> rfl

end

section

variable (highlighter : Highlighter) (spans : Bool) (theme : Theme)

lemma exists_piece (index : Nat) (incoming : BlockState) (line : Text) :
    ∃ piece, writeLine spans theme index line (highlighter.highlight line incoming) = some piece := by
  have hcut : ∀ s ∈ (highlighter.highlight line incoming).spans, line.IsBoundary s.start ∧ line.IsBoundary s.stop := by
    rw [Highlighter.highlight, highlighter.grammar_eq]
    exact fun s hs => Grammar.cut_of_mem_spans (fun _ => Language.neverEmpty_blockComment) hs
  cases spans with
  | false => exact Option.isSome_iff_exists.mp (Terminal.write_isSome.mpr hcut)
  | true => exact Option.isSome_iff_exists.mp (Listing.write_isSome.mpr hcut)

lemma exists_pieces (index : Nat) (incoming : BlockState) (lines : List Text) :
    ∃ pieces : List Text, writeLines highlighter spans theme index incoming lines = some pieces.flatten ∧
      pieces.length = lines.length ∧
      ∀ i line, lines[i]? = some line → ∃ h, (highlighter.grammar.highlightAll incoming lines)[i]? = some h ∧
        pieces[i]? = writeLine spans theme (index + i) line h := by
  -- both loops hand on the state that the first line leaves, so they agree from there
  induction lines generalizing index incoming with
  | nil => exact ⟨[], rfl, rfl, fun i line h => by simp at h⟩
  | cons first rest ih =>
    obtain ⟨piece, hpiece⟩ := exists_piece highlighter spans theme index incoming first
    obtain ⟨pieces, hpieces, hlength, hall⟩ := ih (index + 1) (highlighter.highlight first incoming).state
    refine ⟨piece :: pieces, ?_, by simp [hlength], ?_⟩
    · simp only [writeLines, hpiece, hpieces, Option.bind_eq_bind, Option.bind_some, Option.pure_def,
        List.flatten_cons]
    · intro i line hline
      cases i with
      | zero =>
        obtain rfl : first = line := by simpa using hline
        exact ⟨highlighter.highlight first incoming, rfl, hpiece.symm⟩
      | succ i =>
        obtain ⟨h, hh, hout⟩ := hall i line hline
        refine ⟨h, hh, ?_⟩
        rw [Nat.add_right_comm] at hout
        exact hout

end

lemma render_printed (options : Options) (theme : Theme) (input : Text) :
    ∃ pieces, Printed options theme input.lines pieces ∧ render options theme input = pieces.flatten := by
  obtain ⟨pieces, hpieces, hlength, hall⟩ := exists_pieces (Highlighter.ofName (options.language.getD "text"))
    options.spans theme 0 .normal input.lines
  refine ⟨pieces, ⟨hlength, fun i line hline => ?_⟩, ?_⟩
  · obtain ⟨h, hh, hout⟩ := hall i line hline
    rw [Nat.zero_add] at hout
    exact ⟨h, hh, hout⟩
  · rw [render, hpieces, Option.getD_some]

/-- Arguments that do not parse end a run with code 2. A run that highlights ends with code 1 if its input is no
text, which is reported whatever its theme is, and with code 1 if only its theme does not load. None of these
prints anything; every other run ends with code 0 and prints one piece for each line of its input. The reports
are those of an `Outcome`: the log, with its warnings about themes, and the message of the TOML parser are no
part of them. -/
theorem run_prints_document (host : Host Id) (arguments : List String) :
    (∀ fault, parse arguments = .error fault →
      (run host arguments).code = 2 ∧ (run host arguments).output = []) ∧
    ∀ options, parse arguments = .ok (.highlight options) →
      (∃ input, Decoded (host.contents options) input) ∧ (∃ loaded, Themed host options.theme loaded) ∧
      (∀ fault, Decoded (host.contents options) (.error fault) →
        run host arguments = ⟨1, [], ("Error: I/O error: " ++ fault.message ++ "\n").toList⟩) ∧
      (∀ text fault, Decoded (host.contents options) (.ok text) → Themed host options.theme (.error fault) →
        run host arguments = ⟨1, [], ("Error: " ++ fault.message ++ "\n").toList⟩) ∧
      ∀ text theme, Decoded (host.contents options) (.ok text) → Themed host options.theme (.ok theme) →
        ∃ lines pieces, Text.Lined text lines ∧ Printed options theme lines pieces ∧
          run host arguments = ⟨0, pieces.flatten, []⟩ := by
  refine ⟨fun fault hparse => ?_, fun options hparse => ?_⟩
  · rw [run, hparse]
    exact ⟨rfl, rfl⟩
  · have hrun : run host arguments = highlight host options := by rw [run, hparse]
    refine ⟨exists_decoded _, exists_themed host _, ?_, ?_, ?_⟩
    · intro fault hinput
      rw [hrun, highlight_eq, hinput.bind_eq]
      rfl
    · intro text fault hinput htheme
      rw [hrun, highlight_eq, hinput.bind_eq, htheme.theme_eq]
      rfl
    · intro text theme hinput htheme
      obtain ⟨pieces, hprinted, hrender⟩ := render_printed options theme text
      refine ⟨text.lines, pieces, Text.lined_iff.mpr rfl, hprinted, ?_⟩
      simp only [hrun, highlight_eq, hinput.bind_eq, htheme.theme_eq, hrender]
      rfl

theorem run_lists_css_comment :
    let host : Host Id := ⟨fun _ => .error .missing, .ok (List.utf8Encode "/*a\nb*/1\r\n".toList), some "/"⟩
    run host ["-s", "-l", "css"] = ⟨0,
      "block 0 state=1\n  0..3 col 0 block_comment \"/*a\"\n".toList ++
        "block 1 state=0\n  0..3 col 0 block_comment \"b*/\"\n  3..4 col 3 number \"1\"\n".toList, []⟩ := by
  intro host
  obtain ⟨-, hruns⟩ := run_prints_document host ["-s", "-l", "css"]
  obtain ⟨-, -, -, -, hprints⟩ := hruns ⟨some "css", none, true, none⟩ rfl
  obtain ⟨lines, pieces, hlined, ⟨hlength, hpieces⟩, hrun⟩ := hprints _ _ (.text _) (.absent rfl rfl)
  have hlines : Text.lines "/*a\nb*/1\r\n".toList = ["/*a".toList, "b*/1".toList] := by decide
  obtain rfl := hlines.symm.trans (Text.lined_iff.mp hlined)
  have hdocument : (Highlighter.ofName "css").document ["/*a".toList, "b*/1".toList] =
      [⟨[⟨0, 3, .blockComment⟩], .inComment⟩, ⟨[⟨0, 3, .blockComment⟩, ⟨3, 1, .number⟩], .normal⟩] := by decide
  simp only [Option.getD_some, hdocument] at hpieces
  obtain ⟨first, second, rfl⟩ := List.length_eq_two.mp hlength
  obtain ⟨h, hh, hfirst⟩ := hpieces 0 "/*a".toList rfl
  obtain rfl := Option.some.inj hh
  obtain ⟨h, hh, hsecond⟩ := hpieces 1 "b*/1".toList rfl
  obtain rfl := Option.some.inj hh
  have hlisted : Listing.write 0 "/*a".toList ⟨[⟨0, 3, .blockComment⟩], .inComment⟩ =
      some "block 0 state=1\n  0..3 col 0 block_comment \"/*a\"\n".toList := by decide
  have hlisted' : Listing.write 1 "b*/1".toList ⟨[⟨0, 3, .blockComment⟩, ⟨3, 1, .number⟩], .normal⟩ =
      some "block 1 state=0\n  0..3 col 0 block_comment \"b*/\"\n  3..4 col 3 number \"1\"\n".toList := by decide
  obtain rfl := Option.some.inj (hfirst.trans hlisted)
  obtain rfl := Option.some.inj (hsecond.trans hlisted')
  rw [hrun, List.flatten_cons, List.flatten_cons, List.flatten_nil, List.append_nil]

end CommandLine

end Highlighting
