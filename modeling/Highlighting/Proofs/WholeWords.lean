import Highlighting.Proofs.Lines
import Highlighting.Proofs.Reading
import Highlighting.Proofs.RuleRanges
import Highlighting.Proofs.WordPattern

/-! Rules for words. They find whole words and nothing else: for words of word characters, all maximal runs of
such characters that are among the words. -/

namespace Highlighting

namespace Text

def WordBoundary (text : Text) (n : Nat) : Prop :=
  ∃ before behind, text = before ++ behind ∧ byteLength before = n ∧
    before.getLast?.any Unicode.isWord ≠ behind.head?.any Unicode.isWord

/-- A run of word characters that is as long as it can be. -/
def WordRun (text own : Text) (r : Range) : Prop :=
  ∃ before behind, text = before ++ (own ++ behind) ∧ byteLength before = r.start ∧
    r.start + byteLength own = r.stop ∧ own ≠ [] ∧ (∀ c ∈ own, Unicode.isWord c = true) ∧
    before.getLast?.any Unicode.isWord = false ∧ behind.head?.any Unicode.isWord = false

section

variable {own rest own' rest' : Text}

lemma any_getLast? (hne : own ≠ []) (before : Text) (hown : ∀ c ∈ own, Unicode.isWord c = true) :
    (before ++ own).getLast?.any Unicode.isWord = true := by
  rw [List.getLast?_append_of_ne_nil _ hne, List.getLast?_eq_getLast_of_ne_nil hne, Option.any_some]
  exact hown _ (List.getLast_mem hne)

lemma any_head? (hne : own ≠ []) (behind : Text) (hown : ∀ c ∈ own, Unicode.isWord c = true) :
    (own ++ behind).head?.any Unicode.isWord = true := by
  obtain ⟨c, own, rfl⟩ := List.exists_cons_of_ne_nil hne
  exact hown c List.mem_cons_self

lemma takeWhile_run (hown : ∀ c ∈ own, Unicode.isWord c = true) (hrest : rest.head?.any Unicode.isWord = false) :
    (own ++ rest).takeWhile Unicode.isWord = own := by
  rw [List.takeWhile_append_of_pos hown]
  cases rest with
  | nil => simp
  | cons c rest =>
    rw [List.takeWhile_cons_of_neg (by simpa using hrest), List.append_nil]

lemma run_unique (h : own ++ rest = own' ++ rest') (hown : ∀ c ∈ own, Unicode.isWord c = true)
    (hown' : ∀ c ∈ own', Unicode.isWord c = true) (hrest : rest.head?.any Unicode.isWord = false)
    (hrest' : rest'.head?.any Unicode.isWord = false) : own = own' := by
  rw [← takeWhile_run hown hrest, h, takeWhile_run hown' hrest']

lemma le_of_run {before behind before' : Text} (h : before' ++ (own' ++ rest') = before ++ behind)
    (hbefore : before.getLast?.any Unicode.isWord = false) (hown' : ∀ c ∈ own', Unicode.isWord c = true)
    (hlt : byteLength before' < byteLength before) : byteLength before' + byteLength own' ≤ byteLength before := by
  obtain ⟨x, rfl, hx⟩ := exists_between h (Nat.le_of_lt hlt)
  rw [byteLength_append] at hlt ⊢
  by_contra hle
  obtain ⟨y, rfl, -⟩ := exists_between hx.symm (by omega)
  have hne : x ≠ [] := by
    rintro rfl
    exact Nat.lt_irrefl _ hlt
  rw [any_getLast? hne before' fun c hc => hown' c (List.mem_append_left y hc)] at hbefore
  cases hbefore

lemma Alike.isWord {ignoreCase : Bool} (h : Alike ignoreCase own rest)
    (hrest : ∀ c ∈ rest, Unicode.isWord c = true) : ∀ c ∈ own, Unicode.isWord c = true := by
  intro c hc
  have hmem : Unicode.isWord c ∈ rest.map Unicode.isWord := h.isWord_eq ▸ List.mem_map_of_mem hc
  obtain ⟨d, hd, heq⟩ := List.mem_map.mp hmem
  rw [← heq, hrest d hd]

end

end Text

namespace Pattern

open Cursor

section

variable {list : List String} {ignoreCase : Bool} {text before behind : Text} {m n : Match}

lemma holds_wordBoundary {previous next : Option Char} : Look.wordBoundary.holds previous next = true ↔
    previous.any Unicode.isWord ≠ next.any Unicode.isWord := by
  cases previous <;> cases next <;> simp [Look.wordBoundary, Look.holds, WordEdge.holds, Look.isWord?]

def ReadsWord (list : List String) (ignoreCase : Bool) (before own behind : Text) : Prop :=
  (∃ w ∈ list, Text.Alike ignoreCase own w.toList) ∧
    before.getLast?.any Unicode.isWord ≠ (own ++ behind).head?.any Unicode.isWord ∧
    (before ++ own).getLast?.any Unicode.isWord ≠ behind.head?.any Unicode.isWord

lemma run_words_eq (f : Follow) (c : Cursor) : (words list ignoreCase).run f c =
    (look .wordBoundary).run ((oneOf (list.map fun w => literal w.toList ignoreCase)).run
      ((look .wordBoundary).run f)) c := rfl

lemma readsWord_of_run {e : Ending} (hlist : list ≠ [])
    (h : (words list ignoreCase).run done (between before behind) = some e) :
    ∃ own rest, behind = own ++ rest ∧ ReadsWord list ignoreCase before own rest ∧
      e = ⟨Text.byteLength before + Text.byteLength own, []⟩ := by
  rw [run_words_eq, run_look_eq_some, run_oneOf (by simpa using hlist), List.findSome?_map] at h
  obtain ⟨hstart, hrun⟩ := h
  obtain ⟨w, hw, hrun⟩ := List.exists_of_findSome?_eq_some hrun
  obtain ⟨own, rest, rfl, halike, hrun⟩ := run_literal_eq_some.mp hrun
  obtain ⟨hstop, hdone⟩ := run_look_eq_some.mp hrun
  refine ⟨own, rest, rfl, ⟨⟨w, hw, halike⟩, holds_wordBoundary.mp hstart, holds_wordBoundary.mp hstop⟩, ?_⟩
  rw [← Option.some.inj hdone]
  simp [between]

lemma exists_run_of_readsWord {own rest : Text} (h : ReadsWord list ignoreCase before own rest) :
    ∃ e, (words list ignoreCase).run done (between before (own ++ rest)) = some e := by
  obtain ⟨⟨w, hw, halike⟩, hstart, hstop⟩ := h
  have hword : (literal w.toList ignoreCase).run ((look .wordBoundary).run done) (between before (own ++ rest)) =
      some ⟨Text.byteLength (before ++ own), []⟩ :=
    run_literal_eq_some.mpr ⟨own, rest, rfl, halike, run_look_eq_some.mpr ⟨holds_wordBoundary.mpr hstop, rfl⟩⟩
  have hlist : list.map (fun w => literal w.toList ignoreCase) ≠ [] := by
    intro hnil
    rw [List.map_eq_nil_iff.mp hnil] at hw
    cases hw
  have hsome : ((list.map fun w => literal w.toList ignoreCase).findSome? fun p =>
      p.run ((look .wordBoundary).run done) (between before (own ++ rest))).isSome = true := by
    rw [List.findSome?_isSome_iff]
    exact ⟨_, List.mem_map_of_mem hw, by rw [hword]; rfl⟩
  obtain ⟨e, he⟩ := Option.isSome_iff_exists.mp hsome
  refine ⟨e, ?_⟩
  rw [run_words_eq, run_look_eq_some, run_oneOf hlist]
  exact ⟨holds_wordBoundary.mpr hstart, he⟩

lemma isMatch_readsWord (hlt : m.start < m.ending.stop) (h : (words list ignoreCase).IsMatch text m) :
    ∃ before own behind, text = before ++ (own ++ behind) ∧ Text.byteLength before = m.start ∧
      m.start + Text.byteLength own = m.ending.stop ∧ ReadsWord list ignoreCase before own behind := by
  obtain ⟨before, behind, rfl, hstart, hrun⟩ := isMatch_iff.mp h
  by_cases hlist : list = []
  · rw [hlist, run_words_eq, run_look_eq_some] at hrun
    obtain ⟨-, hdone⟩ := run_look_eq_some.mp hrun.2
    rw [← Option.some.inj hdone] at hlt
    exact (Nat.lt_irrefl _ (hstart ▸ hlt)).elim
  · obtain ⟨own, rest, rfl, hreads, hending⟩ := readsWord_of_run hlist hrun
    exact ⟨before, own, rest, rfl, hstart, by rw [hending, hstart], hreads⟩

def AllWords (list : List String) : Prop :=
  ∀ w ∈ list, w.toList ≠ [] ∧ ∀ c ∈ w.toList, Unicode.isWord c = true

lemma ReadsWord.run (hw : AllWords list) {own : Text} (h : ReadsWord list ignoreCase before own behind) :
    own ≠ [] ∧ (∀ c ∈ own, Unicode.isWord c = true) ∧ before.getLast?.any Unicode.isWord = false ∧
      behind.head?.any Unicode.isWord = false := by
  obtain ⟨⟨w, hmem, halike⟩, hstart, hstop⟩ := h
  obtain ⟨hne, hword⟩ := hw w hmem
  have hown : own ≠ [] := by
    rintro rfl
    exact hne (List.length_eq_zero_iff.mp halike.length_eq.symm)
  have hall := halike.isWord hword
  rw [Text.any_head? hown behind hall] at hstart
  rw [Text.any_getLast? hown before hall] at hstop
  exact ⟨hown, hall, Bool.eq_false_iff.mpr hstart, Bool.eq_false_iff.mpr hstop.symm⟩

lemma mem_findAll_of_wordRun (hw : AllWords list) {own : Text} {r : Range} (hrun : text.WordRun own r) {w : String}
    (hmem : w ∈ list) (halike : Text.Alike ignoreCase own w.toList) :
    ⟨r.start, ⟨r.stop, []⟩⟩ ∈ (words list ignoreCase).findAll text := by
  obtain ⟨before, behind, rfl, hstart, hstop, hne, hall, hbefore, hbehind⟩ := hrun
  have hlist : list ≠ [] := List.ne_nil_of_mem hmem
  have hreads : ReadsWord list ignoreCase before own behind := by
    refine ⟨⟨w, hmem, halike⟩, ?_, ?_⟩
    · rw [hbefore, Text.any_head? hne behind hall]
      decide
    · rw [hbehind, Text.any_getLast? hne before hall]
      decide
  have hmatch : (words list ignoreCase).IsMatch (before ++ (own ++ behind)) ⟨r.start, ⟨r.stop, []⟩⟩ := by
    -- whichever word comes first in the list, a word that ends at a boundary has read the whole run
    obtain ⟨e, hrun⟩ := exists_run_of_readsWord hreads
    obtain ⟨own', rest, hcut, hreads', rfl⟩ := readsWord_of_run hlist hrun
    obtain ⟨-, hall', -, hrest⟩ := hreads'.run hw
    obtain rfl := Text.run_unique hcut hall hall' hbehind hrest
    rw [hstart, hstop] at hrun
    exact isMatch_iff.mpr ⟨before, own ++ behind, rfl, hstart, hrun⟩
  have hpos := Text.byteLength_pos hne
  refine mem_findAll_of_clear hmatch (by simp only; omega) fun n hn hlt => ?_
  by_contra hle
  obtain ⟨before', own', behind', htext, hstart', hstop', hreads'⟩ :=
    isMatch_readsWord (Nat.lt_trans hlt (Nat.not_le.mp hle)) hn
  have hend := Text.le_of_run htext.symm hbefore (hreads'.run hw).2.1 (by rwa [hstart', hstart])
  rw [hstart', hstop', hstart] at hend
  exact hle hend

end

end Pattern

namespace Rule

open Pattern

/-- Whole words are found: all that is found is one of the words with a word boundary at both ends, and if
they are words of word characters, what is found are all runs of such characters that are among them. -/
structure WholeWords (list : List String) (ignoreCase : Bool) (text : Text) (found : List Range) : Prop where
  whole : ∀ r ∈ found, r.start < r.stop ∧ text.WordBoundary r.start ∧ text.WordBoundary r.stop ∧
    ∃ own, text.slice? r.start r.stop = some own ∧ ∃ w ∈ list, Text.Alike ignoreCase own w.toList
  ordered : found.Pairwise fun a b => a.stop ≤ b.start
  runs : AllWords list → ∀ r, r ∈ found ↔
    ∃ own, text.WordRun own r ∧ ∃ w ∈ list, Text.Alike ignoreCase own w.toList

lemma wholeWords_ofWords (name : String) (list : List String) (kind : StyleClass) (ignoreCase : Bool)
    (text : Text) : WholeWords list ignoreCase text ((ofWords name list kind ignoreCase).ranges text) := by
  refine ⟨fun r hr => ?_, ranges_ordered _ text, fun hw r => ⟨fun hr => ?_, fun hr => ?_⟩⟩
  · obtain ⟨⟨m, hm, rfl⟩, hlt⟩ := (mem_ranges rfl).mp hr
    obtain ⟨before, own, behind, rfl, hstart, hstop, hwords, hbefore, hbehind⟩ :=
      isMatch_readsWord hlt (isMatch_of_mem_findAll hm)
    refine ⟨hlt, ⟨before, own ++ behind, rfl, hstart, hbefore⟩, ⟨before ++ own, behind, by simp, ?_, hbehind⟩,
      own, Text.slice?_eq_some.mpr ⟨before, behind, by simp, hstart, hstop⟩, hwords⟩
    rw [Text.byteLength_append, hstart]
    exact hstop
  · obtain ⟨⟨m, hm, rfl⟩, hlt⟩ := (mem_ranges rfl).mp hr
    obtain ⟨before, own, behind, rfl, hstart, hstop, hreads⟩ :=
      isMatch_readsWord hlt (isMatch_of_mem_findAll hm)
    exact ⟨own, ⟨before, behind, rfl, hstart, hstop, hreads.run hw⟩, hreads.1⟩
  · obtain ⟨own, hrun, w, hmem, halike⟩ := hr
    have hm := mem_findAll_of_wordRun hw hrun hmem halike
    obtain ⟨before, behind, -, -, hstop, hne, -⟩ := hrun
    have hpos := Text.byteLength_pos hne
    exact (mem_ranges rfl).mpr ⟨⟨_, hm, rfl⟩, by omega⟩

/-- The text made of any words is a pattern, which is refused only if it is too large. Its matches are whole
words. -/
theorem ofWordsText_finds_wholeWords (name : String) (list : List String) (kind : StyleClass) (ignoreCase : Bool) :
    ∃ e, Expression.parse (wordsText list ignoreCase) = .ok e ∧
      ofWordsText name list kind ignoreCase =
        (if maxFootprint < e.footprint then .error ⟨name, .tooLarge⟩ else .ok ⟨name, e.pattern, kind, none⟩) ∧
      ∀ text, WholeWords list ignoreCase text (ranges ⟨name, e.pattern, kind, none⟩ text) ∧
        ranges ⟨name, e.pattern, kind, none⟩ text = (ofWords name list kind ignoreCase).ranges text := by
  refine ⟨wordsExpression list ignoreCase, parse_wordsText list ignoreCase, ?_, fun text => ?_⟩
  · rw [ofWordsText, ofText, compile_wordsText]
    by_cases hlarge : maxFootprint < (wordsExpression list ignoreCase).footprint
    · rw [if_pos hlarge, if_pos hlarge]
      rfl
    · rw [if_neg hlarge, if_neg hlarge]
      rfl
  · have hranges : ranges ⟨name, (wordsExpression list ignoreCase).pattern, kind, none⟩ text =
        (ofWords name list kind ignoreCase).ranges text := by
      rw [ranges_eq rfl, ranges_eq rfl, findAll_wordsExpression]
      rfl
    rw [hranges]
    exact ⟨wholeWords_ofWords name list kind ignoreCase text, rfl⟩

/-- The Kelvin sign is a whole word that differs from `k` in letter case. -/
theorem finds_kelvin_sign : AllWords ["k", "in", "int"] ∧
    ∃ e, Expression.parse (wordsText ["k", "in", "int"] true) = .ok e ∧
      ⟨4, 7⟩ ∈ ranges ⟨"unit", e.pattern, .keyword, none⟩ "int \u212a in8".toList := by
  have hwords : AllWords ["k", "in", "int"] := by
    intro w hw
    simp only [List.mem_cons, List.not_mem_nil, or_false] at hw
    rcases hw with rfl | rfl | rfl <;> exact ⟨by decide, List.all_eq_true.mp (by decide)⟩
  obtain ⟨e, hparse, -, hfound⟩ := ofWordsText_finds_wholeWords "unit" ["k", "in", "int"] .keyword true
  have hrun : Text.WordRun "int \u212a in8".toList ['\u212a'] ⟨4, 7⟩ :=
    ⟨"int ".toList, " in8".toList, by decide, by decide, by decide, by decide,
      List.all_eq_true.mp (by decide +kernel), by decide, by decide⟩
  have halike : Text.Alike true ['\u212a'] "k".toList := by
    rw [Text.Alike, if_pos rfl]
    decide
  refine ⟨hwords, e, hparse, ((hfound _).1.runs hwords ⟨4, 7⟩).mpr ⟨_, hrun, "k", by simp, halike⟩⟩

example : (ofWords "keyword" ["in", "int"] .keyword false).ranges "int in int8".toList = [⟨0, 3⟩, ⟨4, 6⟩] := by
  decide +kernel

end Rule

end Highlighting
