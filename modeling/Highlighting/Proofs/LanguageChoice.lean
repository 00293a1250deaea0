import Highlighting.Highlighter
import Highlighting.Proofs.LanguageNames

/-! A highlighter whose language was chosen any number of times highlights by the last name alone, and counts
how often the language has changed. -/

namespace Highlighting.Highlighter

open Highlighting.Language Relation

inductive Given : List String → Highlighter → Prop
  | initial : Given [] initial
  | ofName (name : String) : Given [name] (ofName name)
  | choose {names : List String} {h : Highlighter} (name : String) : Given names h →
      Given (names ++ [name]) (h.choose name).1

def lastLanguage (names : List String) : Language :=
  names.getLast?.elim .text Language.ofName

def changes (current : Language) : List String → Nat
  | [] => 0
  | name :: names =>
    (if Language.ofName name = current then 0 else 1) + changes (Language.ofName name) names

section

variable {h : Highlighter} {name : String} {names : List String}

lemma choose_language : (h.choose name).1.language = Language.ofName name := by
  by_cases hsame : Language.ofName name = h.language
  · simp [choose, hsame]
  · simp [choose, hsame]

lemma choose_generation : (h.choose name).1.generation =
    h.generation + changes h.language [name] := by
  by_cases hsame : Language.ofName name = h.language
  · simp [choose, changes, hsame]
  · simp [choose, changes, hsame]

lemma choose_eq_false : (h.choose name).2 = false ↔ Language.ofName name = h.language := by
  by_cases hsame : Language.ofName name = h.language
  · simp [choose, hsame]
  · simp [choose, hsame]

lemma choose_of_false (hc : (h.choose name).2 = false) : (h.choose name).1 = h := by
  rw [choose, if_pos (choose_eq_false.mp hc)]

lemma lastLanguage_concat : lastLanguage (names ++ [name]) = Language.ofName name := by
  simp [lastLanguage]

lemma changes_concat (current : Language) : changes current (names ++ [name]) =
    changes current names + changes (names.getLast?.elim current Language.ofName) [name] := by
  induction names generalizing current with
  | nil => rw [List.nil_append, changes.eq_1, Nat.zero_add, List.getLast?_nil, Option.elim_none]
  | cons first names ih =>
    rw [List.cons_append, changes, changes, ih, Nat.add_assoc]
    cases names with
    | nil => rw [List.getLast?_nil, Option.elim_none, List.getLast?_singleton, Option.elim_some]
    | cons second names => rw [List.getLast?_cons_cons, List.getLast?_cons, Option.elim_some, Option.elim_some]

lemma Given.language_eq (hg : Given names h) : h.language = lastLanguage names := by
  cases hg with
  | initial => rfl
  | ofName name =>
    rw [Highlighter.ofName, choose_language, lastLanguage, List.getLast?_singleton, Option.elim_some]
  | choose name hg => rw [choose_language, lastLanguage_concat]

lemma Given.generation_eq (hg : Given names h) : h.generation = changes .text names := by
  induction hg with
  | initial => rfl
  | ofName name => rw [Highlighter.ofName, choose_generation, Highlighter.initial, Nat.zero_add]
  | choose name hg ih => rw [choose_generation, ih, changes_concat, hg.language_eq, lastLanguage]

lemma language_grammar (language : Language) : language.grammar.language = language := rfl

lemma highlight_eq (text : Text) (incoming : BlockState) :
    h.highlight text incoming = h.language.grammar.highlight text incoming := by
  rw [highlight, grammar_eq]

/-- A choice changes nothing if the last name is respelled, or if plain text is chosen and the name is
unknown. -/
lemma Given.choose_eq_false (hg : Given names h) : (h.choose name).2 = false ↔
    (∃ last, names.getLast? = some last ∧ EqvGen Respelled last name) ∨ (h.language = .text ∧ Unknown name) := by
  rw [Highlighter.choose_eq_false, eq_comm, hg.language_eq, lastLanguage, unknown_iff]
  cases names.getLast? with
  | none =>
    constructor
    · exact fun htext => Or.inr ⟨rfl, htext.symm⟩
    · rintro (⟨last, hlast, -⟩ | ⟨-, htext⟩)
      · cases hlast
      · exact htext.symm
  | some last =>
    have heq : Language.ofName last = Language.ofName name ↔ _ := ofName_eq_iff
    rw [unknown_iff, unknown_iff] at heq
    simp [heq]

end

/-- After any choices a highlighter does what the grammar of the last name does, whichever names came
before. A choice tells whether it changes the language; it changes nothing otherwise. -/
theorem highlighter_after_choices {names : List String} {h : Highlighter} (hg : Given names h) :
    h.language = lastLanguage names ∧ h.grammar.language = h.language ∧
      (∀ text incoming, h.highlight text incoming = (lastLanguage names).grammar.highlight text incoming) ∧
      (∀ names' other, Given names' other → other.language = h.language →
        ∀ text incoming, other.highlight text incoming = h.highlight text incoming) ∧
      h.generation = changes .text names ∧
      ∀ name, ((h.choose name).2 = true ↔ Language.ofName name ≠ h.language) ∧
        ((h.choose name).2 = false → (h.choose name).1 = h) ∧
        ((h.choose name).2 = false ↔
          (∃ last, names.getLast? = some last ∧ EqvGen Respelled last name) ∨
            (h.language = .text ∧ Unknown name)) := by
  have hlanguage := hg.language_eq
  refine ⟨hlanguage, ?_, fun text incoming => ?_, fun _ other _ hsame text incoming => ?_, hg.generation_eq,
    fun name => ⟨?_, choose_of_false, hg.choose_eq_false⟩⟩
  · rw [grammar_eq, language_grammar]
  · rw [highlight_eq, hlanguage]
  · rw [highlight_eq, highlight_eq, hsame]
  · rw [← Bool.not_eq_false, Ne, choose_eq_false]

theorem highlighter_after_two_choices : Given ["py", " SQL\n"] ((ofName "py").choose " SQL\n").1 ∧
    ((ofName "py").choose " SQL\n").1.language = .sql ∧ ((ofName "py").choose " SQL\n").1.generation = 2 ∧
      (((ofName "py").choose " SQL\n").1.choose "sQl").2 = false := by
  have hg : Given ["py", " SQL\n"] ((ofName "py").choose " SQL\n").1 := .choose " SQL\n" (.ofName "py")
  obtain ⟨hlanguage, -, -, -, hgeneration, hchoose⟩ := highlighter_after_choices hg
  have hblanks : Respelled " SQL\n" "SQL" :=
    @Respelled.blanks [' '] ['\n'] "SQL".toList (List.all_eq_true.mp (by decide))
      (List.all_eq_true.mp (by decide))
  have hletters : Respelled "SQL" "sQl" := .letterCase (by decide)
  refine ⟨hg, hlanguage, hgeneration, (hchoose "sQl").2.2.mpr (Or.inl ⟨" SQL\n", rfl, ?_⟩)⟩
  exact (EqvGen.rel _ _ hblanks).trans _ _ _ (EqvGen.rel _ _ hletters)

end Highlighting.Highlighter
