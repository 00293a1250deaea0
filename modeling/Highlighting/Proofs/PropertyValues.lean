import Highlighting.Proofs.CommentOverlap
import Highlighting.Proofs.Docstrings
import Highlighting.Proofs.StyleValues

/-! Values of properties. A value is shown up to its first character that is no word character, hash signs
excepted: the search for values tries words before measures, and a value that it finds ends at a word boundary. -/

namespace Highlighting

namespace Lexeme

open Pattern Cursor Text

def valueEnd : Follow := fun c => ((look .wordBoundary).run done c).map (.mark (.closed 1 c.offset))

def valueEnding (own : Text) : Ending := ⟨Text.byteLength own, [.closed 1 (Text.byteLength own)]⟩

def color : Pattern := inOrder [char '#', exactly (set hexDigit) 3, atMost (set hexDigit) true 5]

def word : Pattern := loop (set (.union (.single '-') .word)) true

def valueChoices : List Pattern := [color, colorFunction "rgb", colorFunction "hsl", word, measure]

def valueMatch (name own : Text) : Match :=
  ⟨Text.byteLength name,
    (valueEnding (name ++ [':', ' '] ++ own)).mark (.opened 1 (Text.byteLength (name ++ [':', ' '])))⟩

section

variable {before own behind text name value : Text} {x : Char} {e : Ending} {m : Match}

lemma run_propertyValue (c : Cursor) : propertyValue.run done c = (char ':').run (blanks.run fun d =>
    ((oneOf valueChoices).run valueEnd d).map (.mark (.opened 1 d.offset))) c := rfl

lemma valueEnd_eq_some : valueEnd (between before behind) = some e ↔
    before.getLast?.any Unicode.isWord ≠ behind.head?.any Unicode.isWord ∧ e = valueEnding before := by
  rw [valueEnd, Option.map_eq_some_iff]
  constructor
  · rintro ⟨e', hrun, rfl⟩
    obtain ⟨hboundary, hdone⟩ := run_look_eq_some.mp hrun
    obtain rfl := Option.some.inj hdone
    exact ⟨holds_wordBoundary.mp hboundary, rfl⟩
  · rintro ⟨hboundary, rfl⟩
    exact ⟨⟨Text.byteLength before, []⟩, run_look_eq_some.mpr ⟨holds_wordBoundary.mpr hboundary, rfl⟩, rfl⟩

lemma valueEnd_word (hne : own ≠ []) (hown : ∀ c ∈ own, Unicode.isWord c = true)
    (hbehind : behind.head?.any Unicode.isWord = false) :
    valueEnd (between (before ++ own) behind) = some (valueEnding (before ++ own)) := by
  refine valueEnd_eq_some.mpr ⟨?_, rfl⟩
  rw [any_getLast? hne before hown, hbehind]
  decide

lemma run_color (hmin : 3 ≤ own.length) (hmax : own.length ≤ 8) (hown : own ⊆ hexDigits) :
    color.run valueEnd (between before ('#' :: (own ++ [';']))) = some (valueEnding (before ++ '#' :: own)) := by
  have hall : hexDigits.all (fun c => hexDigit.contains c && Unicode.isWord c) = true := by decide
  have hchar (c : Char) (hc : c ∈ own) : hexDigit.contains c = true ∧ Unicode.isWord c = true :=
    Bool.and_eq_true_iff.mp (List.all_eq_true.mp hall c (hown hc))
  have hne : own ≠ [] := List.ne_nil_of_length_pos (Nat.lt_of_lt_of_le (by decide) hmin)
  have hend : valueEnd (between (before ++ ['#'] ++ own) [';']) = some (valueEnding (before ++ '#' :: own)) := by
    rw [valueEnd_word hne (fun c hc => (hchar c hc).2) (by decide), List.append_assoc, List.singleton_append]
  have hstop : ∀ x ∈ [';'].head?, hexDigit.contains x = false := by
    intro x hx
    obtain rfl := Option.some.inj hx
    decide
  rw [color, run_inOrder_cons, char, run_set_cons, if_pos (contains_single.mpr rfl), run_inOrder_cons]
  exact run_exactly_atMost (fun c hc => (hchar c hc).1) hstop hmin hmax hend

lemma run_color_eq_none (hx : x ≠ '#') : color.run valueEnd (between before (x :: text)) = none := by
  rw [color, run_inOrder_cons, char, run_set_cons, if_neg]
  exact fun h => hx (contains_single.mp h)

lemma run_colorFunction_eq_none (name : String)
    (h : ∀ own rest, text = own ++ ')' :: rest → rest.head?.any Unicode.isWord = false) :
    (colorFunction name).run valueEnd (between before text) = none := by
  rw [Option.eq_none_iff_forall_ne_some]
  intro e hrun
  have hsplit : (colorFunction name).run valueEnd (between before text) =
      (inOrder [Lexeme.text name, optional (char 'a') true, char '(', star (set .inLine) false]).run
        ((char ')').run valueEnd) (between before text) := rfl
  rw [hsplit] at hrun
  -- wherever the parts end, a boundary has to follow the bracket that closes them
  obtain ⟨own, rest, e', rfl, hclose⟩ := exists_follow_of_run hrun
  obtain ⟨x, rest, rfl, hx, hend⟩ := run_set_eq_some.mp hclose
  obtain rfl := contains_single.mp hx
  obtain ⟨hboundary, -⟩ := valueEnd_eq_some.mp hend
  rw [h own rest rfl, List.getLast?_concat] at hboundary
  exact hboundary (by decide)

lemma run_word (hne : own ≠ []) (hown : ∀ c ∈ own, Unicode.isWord c = true)
    (hbehind : ∀ c ∈ behind.head?, c ≠ '-' ∧ Unicode.isWord c = false) :
    word.run valueEnd (between before (own ++ behind)) = some (valueEnding (before ++ own)) := by
  refine run_loop_set hne (fun c hc => ?_) (fun c hc => ?_) (valueEnd_word hne hown ?_)
  · rw [CharSet.contains, CharSet.contains, hown c hc, Bool.or_true]
  · rw [CharSet.contains, CharSet.contains, (hbehind c hc).2, Bool.or_false, Bool.eq_false_iff, Ne, contains_single]
    exact (hbehind c hc).1
  · rw [Option.any_eq_false]
    exact fun c hc => (hbehind c hc).2

lemma run_valueChoices_color (hmin : 3 ≤ own.length) (hmax : own.length ≤ 8) (hown : own ⊆ hexDigits) :
    (oneOf valueChoices).run valueEnd (between before ('#' :: (own ++ [';']))) =
      some (valueEnding (before ++ '#' :: own)) := by
  rw [run_oneOf (by decide), valueChoices, List.findSome?_cons, run_color hmin hmax hown]

lemma run_valueChoices_word (hne : own ≠ []) (hown : ∀ c ∈ own, Unicode.isWord c = true)
    (hbehind : ∀ c ∈ behind.head?, c ≠ '-' ∧ Unicode.isWord c = false)
    (hclosed : ∀ a b, own ++ behind = a ++ ')' :: b → b.head?.any Unicode.isWord = false) :
    (oneOf valueChoices).run valueEnd (between before (own ++ behind)) = some (valueEnding (before ++ own)) := by
  have hcolor : color.run valueEnd (between before (own ++ behind)) = none := by
    obtain ⟨x, own, rfl⟩ := List.exists_cons_of_ne_nil hne
    refine run_color_eq_none ?_
    rintro rfl
    exact absurd (hown '#' List.mem_cons_self) (by decide)
  rw [run_oneOf (by decide), valueChoices, List.findSome?_cons, hcolor, List.findSome?_cons,
    run_colorFunction_eq_none "rgb" hclosed, List.findSome?_cons, run_colorFunction_eq_none "hsl" hclosed,
    List.findSome?_cons, run_word hne hown hbehind]

lemma run_valueChoices (h : StyleValue value) :
    (oneOf valueChoices).run valueEnd (between before (value ++ [';'])) =
      some (valueEnding (before ++ shownPart value)) := by
  rcases h.color_or_word with ⟨digits, rfl, hmin, hmax, hdigits⟩ | ⟨c, rest, rfl, hc⟩
  · exact run_valueChoices_color hmin hmax hdigits
  · have hsplit := List.takeWhile_append_dropWhile (p := Unicode.isWord) (l := c :: rest)
    have hread : c :: rest ++ [';'] = (c :: rest).takeWhile Unicode.isWord ++
        ((c :: rest).dropWhile Unicode.isWord ++ [';']) := by rw [← List.append_assoc, hsplit]
    rw [shownPart_of_word hc, hread]
    refine run_valueChoices_word ?_ (fun x hx => List.mem_takeWhile_imp hx) h.head_behind_word ?_
    · rw [List.takeWhile_cons_of_pos hc]
      exact List.cons_ne_nil _ _
    · intro a b hcut
      rw [h.closed_behind (hread.trans hcut)]
      decide

lemma run_declaration (h : StyleValue value) :
    propertyValue.run done (between name (':' :: ' ' :: (value ++ [';']))) =
      some (valueMatch name (shownPart value)).ending := by
  have hblank : ∀ x ∈ [' '], CharSet.blank.contains x = true := List.forall_mem_singleton.mpr (by decide)
  have hread : ((oneOf valueChoices).run valueEnd (between (name ++ [':'] ++ [' ']) (value ++ [';']))).map
      (.mark (.opened 1 (Text.byteLength (name ++ [':'] ++ [' '])))) =
        some (valueMatch name (shownPart value)).ending := by
    rw [List.append_assoc, List.singleton_append, run_valueChoices h]
    rfl
  rw [run_propertyValue, char, run_set_cons, if_pos (contains_single.mpr rfl)]
  exact run_star_set hblank h.head_not_blank hread

lemma mem_findAll_declaration (hname : ':' ∉ name) (h : StyleValue value) :
    m ∈ propertyValue.findAll (declaration name value) ↔ m = valueMatch name (shownPart value) := by
  have hmatch : propertyValue.IsMatch (declaration name value) (valueMatch name (shownPart value)) :=
    isMatch_iff.mpr ⟨name, _, rfl, rfl, run_declaration h⟩
  have hlt : (valueMatch name (shownPart value)).start < (valueMatch name (shownPart value)).ending.stop := by
    simp only [valueMatch, valueEnding, Ending.mark, Text.byteLength_append, Text.byteLength_cons]
    have hpos := (':' : Char).utf8Size_pos
    omega
  have htail : ':' ∉ ' ' :: (value ++ [';']) := by
    simp only [List.mem_cons, List.mem_append, not_or]
    exact ⟨by decide, h.notMem (by decide), by decide, List.not_mem_nil⟩
  -- a match begins with a colon, and the declaration holds one
  have hstart {n : Match} (hn : propertyValue.IsMatch (declaration name value) n) :
      n.start = Text.byteLength name := by
    obtain ⟨before, behind, hcut, hbefore, hrun⟩ := isMatch_iff.mp hn
    rw [run_propertyValue] at hrun
    obtain ⟨x, rest, rfl, hx, -⟩ := run_set_eq_some.mp hrun
    obtain rfl := contains_single.mp hx
    obtain ⟨rfl, -, -⟩ := (List.append_cons_inj_of_notMem hname htail).mp hcut
    exact hbefore.symm
  constructor
  · intro hm
    exact (isMatch_of_mem_findAll hm).eq_of_start hmatch (hstart (isMatch_of_mem_findAll hm))
  · rintro rfl
    refine mem_findAll_of_clear hmatch hlt fun n hn hbefore => ?_
    exact (Nat.ne_of_lt hbefore (hstart hn)).elim

lemma group?_valueMatch (name own : Text) : (valueMatch name own).group? 1 =
    some ⟨Text.byteLength name + 2, Text.byteLength name + 2 + Text.byteLength own⟩ := by
  have hlength : Text.byteLength (name ++ [':', ' ']) = Text.byteLength name + 2 := Text.byteLength_append _ _
  rw [← hlength, ← Text.byteLength_append]
  rfl

end

end Lexeme

namespace Rule

open Text Coloring

lemma covered_propertyValue {rule : Rule} (hp : rule.pattern = Lexeme.propertyValue) (hg : rule.group = some 1)
    {name value : Text} (hname : ':' ∉ name) (h : StyleValue value) {i : Nat} :
    Covered (rule.ranges (declaration name value)) i ↔
      byteLength name + 2 ≤ i ∧ i < byteLength name + 2 + byteLength (shownPart value) := by
  simp only [Covered, mem_ranges_iff, hp, hg, Option.getD_some, Lexeme.mem_findAll_declaration hname h]
  constructor
  · rintro ⟨r, ⟨m, rfl, hr, -⟩, hi⟩
    rw [Lexeme.group?_valueMatch, Option.some.injEq] at hr
    rw [← hr] at hi
    exact Range.contains_iff.mp hi
  · rintro ⟨hle, hlt⟩
    exact ⟨_, ⟨_, rfl, Lexeme.group?_valueMatch _ _, Nat.lt_of_le_of_lt hle hlt⟩, Range.contains_iff.mpr ⟨hle, hlt⟩⟩

end Rule

namespace Grammar

open Text Coloring Highlighting.Span

section

variable {text name value : Text} {i : Nat}

lemma blockComments_css (h : '/' ∉ text) : Language.css.grammar.BlockComments text .normal [] := by
  refine .outside (.done fun m hm => ?_)
  obtain ⟨token, htoken, ⟨before, behind, rfl, -⟩, -⟩ := Delimiters.slashDelimiters_spell.1.exists_token hm
  obtain rfl := List.mem_singleton.mp htoken
  simp at h

def valueRule : Rule := ⟨"value", Lexeme.propertyValue, .value, some 1⟩

lemma rules_css : Language.css.grammar.rules = Language.css.grammar.rules.dropLast ++ [valueRule] := rfl

lemma kind_ne_value : ∀ rule ∈ Language.css.grammar.rules.dropLast, rule.kind ≠ .value := by decide

lemma hasClass_value_iff :
    Language.css.grammar.HasClass text [] i .value ↔ Covered (valueRule.ranges text) i := by
  have hlast : LastRule Language.css.grammar.rules text i .value ↔ Covered (valueRule.ranges text) i := by
    rw [rules_css, lastRule_append]
    constructor
    · rintro (⟨hcovered, -⟩ | ⟨-, before, rule, behind, hrules, hkind, -⟩)
      · exact hcovered
      · exact (kind_ne_value rule (hrules ▸ List.mem_append_right before List.mem_cons_self) hkind).elim
    · exact fun hcovered => Or.inl ⟨hcovered, rfl⟩
  have hout : ¬ InBlockComment [] i := by
    rintro ⟨c, hc, -⟩
    cases hc
  have hline : ¬ Language.css.grammar.InLineComment text [] i := by
    rintro ⟨p, m, hp, -⟩
    cases hp
  constructor
  · rintro (_ | _ | ⟨-, -, hrule⟩)
    exact hlast.mp hrule
  · exact fun hcovered => .rule (Or.inr hline) hout (hlast.mpr hcovered)

lemma shows_value_iff (hname : name ⊆ letters) (h : StyleValue value) :
    Shows (Language.css.grammar.highlight (declaration name value) .normal).spans i .value ↔
      byteLength name + 2 ≤ i ∧ i < byteLength name + 2 + byteLength (shownPart value) := by
  have hletters {c : Char} (hc : c ∉ letters) : c ∉ name := fun hmem => hc (hname hmem)
  have hslash : '/' ∉ declaration name value := by
    simp only [declaration, List.mem_append, List.mem_cons, not_or]
    exact ⟨hletters (by decide), by decide, by decide, h.notMem (by decide), by decide, List.not_mem_nil⟩
  rw [shows_iff_hasClass (blockComments_css hslash) fun _ => Language.neverEmpty_blockComment, hasClass_value_iff]
  exact Rule.covered_propertyValue rfl rfl (hletters (by decide)) h

end

/-- Behind a property, the bytes shown as a value are those of a color by its digits, and otherwise those of the
word that the value begins with. So a value is shown whole if there is no bracket, point or percent sign in it. -/
theorem shows_first_part_of_value {name value : Text} (hname : name ⊆ letters)
    (hvalue : StyleValue value) :
    (∀ i, Shows (Language.css.grammar.highlight (declaration name value) .normal).spans i .value ↔
      byteLength name + 2 ≤ i ∧ i < byteLength name + 2 + byteLength (shownPart value)) ∧
    ((∀ i, byteLength name + 2 ≤ i → i < byteLength name + 2 + byteLength value →
        Shows (Language.css.grammar.highlight (declaration name value) .normal).spans i .value) ↔
      '(' ∉ value ∧ '.' ∉ value ∧ '%' ∉ value) := by
  have hshows (i : Nat) := shows_value_iff (i := i) hname hvalue
  refine ⟨hshows, ?_⟩
  obtain ⟨rest, hrest⟩ := exists_shownPart value
  have hlength : byteLength value = byteLength (shownPart value) + byteLength rest := by
    rw [← byteLength_append, ← hrest]
  rw [← hvalue.shownPart_eq_iff]
  constructor
  · intro hall
    by_contra hpart
    have hne : rest ≠ [] := by
      rintro rfl
      rw [List.append_nil] at hrest
      exact hpart hrest.symm
    have hpos := byteLength_pos hne
    -- the first byte behind the part that is shown is one of the value
    have hbehind := hall (byteLength name + 2 + byteLength (shownPart value)) (by omega) (by omega)
    exact Nat.lt_irrefl _ ((hshows _).mp hbehind).2
  · intro hwhole i hle hlt
    exact (hshows i).mpr ⟨hle, by rwa [hwhole]⟩

theorem shows_red_whole : "color".toList ⊆ letters ∧ StyleValue "#ff0000".toList ∧
    ∀ i, 7 ≤ i → i < 14 →
      Shows (Language.css.grammar.highlight "color: #ff0000;".toList .normal).spans i .value := by
  have hname : "color".toList ⊆ letters := by decide
  have hvalue : StyleValue "#ff0000".toList := .color (by decide) (by decide) (by decide)
  exact ⟨hname, hvalue, (shows_first_part_of_value hname hvalue).2.mpr (by decide)⟩

/-- The bracket behind the parts of a color is followed by no word, so that only the name of the color function is
found, and the first byte that is not shown as a value is the bracket in front of the parts. -/
theorem not_shows_parts_of_color : "color".toList ⊆ letters ∧ StyleValue "rgb(1,2,3)".toList ∧
    declaration "color".toList "rgb(1,2,3)".toList = "color: rgb(1,2,3);".toList ∧
    ¬ ∀ i, 7 ≤ i → i < 17 →
      Shows (Language.css.grammar.highlight "color: rgb(1,2,3);".toList .normal).spans i .value := by
  have hname : "color".toList ⊆ letters := by decide
  have hcolor : "rgb".toList ∈ colorNames := List.mem_cons_self
  have hargs : "1,2,3".toList ⊆ decimals ++ [',', ' ', '%'] := by decide
  have hvalue : StyleValue "rgb(1,2,3)".toList := .parts hcolor hargs
  refine ⟨hname, hvalue, rfl, fun hall => ?_⟩
  have hbracket := (shows_value_iff hname hvalue).mp (hall 10 (by decide) (by decide))
  exact absurd hbracket.2 (by decide)

end Grammar

end Highlighting
