import Highlighting.Grammar.Edit
import Mathlib.Data.List.Basic

/-! Steps that fail on the way to a grammar. They change nothing, so that the grammar is made of the starting one and
of what the others ask for, rules and comments apart. -/

namespace Highlighting.Grammar

def Edit.pushed? : Edit → Option Rule
  | .rule name pattern kind group =>
    (Rule.ofText name pattern kind).toOption.map fun rule => { rule with group := group }
  | .words name list ignoreCase kind group =>
    (Rule.ofWordsText name list kind ignoreCase).toOption.map fun rule => { rule with group := group }
  | .lineComment _ => none
  | .blockComment _ _ => none

def Edit.lineComment? : Edit → Option Pattern
  | .lineComment pattern => (Pattern.compile "line_comment" pattern).toOption
  | _ => none

def Edit.blockComment? : Edit → Option Delimiters
  | .blockComment opening closing => (Delimiters.ofText opening closing).toOption
  | _ => none

def Edit.isPush : Edit → Bool
  | .rule .. => true
  | .words .. => true
  | _ => false

/-- The steps that succeed where the ones before them have left the grammar. -/
def successes : Grammar → List Edit → List Edit
  | _, [] => []
  | g, e :: rest =>
    match g.attempt e with
    | (.ok _, after) => e :: successes after rest
    | (.error _, after) => successes after rest

section Step

variable (g : Grammar) (e : Edit)

lemma run_ofExcept_bind {α : Type} (x : Except InvalidPattern α) (next : α → Editing Unit) :
    (MonadExcept.ofExcept x >>= next).run.run g =
      match x with
      | .ok a => (next a).run.run g
      | .error fault => (.error fault, g) := by
  cases x <;> rfl

def changed : Grammar :=
  { g with
    rules := g.rules ++ e.pushed?.toList
    lineComment := e.lineComment?.or g.lineComment
    blockComment := e.blockComment?.or g.blockComment }

/-- A step either does all that it asks for or stops before it has done anything. -/
lemma attempt_cases :
    g.attempt e = (.ok (), g.changed e) ∨ ∃ fault, g.attempt e = (.error fault, g) ∧
      e.pushed? = none ∧ e.lineComment? = none ∧ e.blockComment? = none := by
  cases e with
  | rule name pattern kind group =>
    rw [attempt, Edit.run, run_ofExcept_bind]
    cases hx : Rule.ofText name pattern kind with
    | error fault => exact .inr ⟨fault, rfl, by simp [Edit.pushed?, hx, Except.toOption], rfl, rfl⟩
    | ok rule => left; simp [changed, Edit.pushed?, Edit.lineComment?, Edit.blockComment?, hx]; rfl
  | words name list ignoreCase kind group =>
    rw [attempt, Edit.run, run_ofExcept_bind]
    cases hx : Rule.ofWordsText name list kind ignoreCase with
    | error fault => exact .inr ⟨fault, rfl, by simp [Edit.pushed?, hx, Except.toOption], rfl, rfl⟩
    | ok rule => left; simp [changed, Edit.pushed?, Edit.lineComment?, Edit.blockComment?, hx]; rfl
  | lineComment pattern =>
    rw [attempt, Edit.run, Editing.setLineComment, run_ofExcept_bind]
    cases hx : Pattern.compile "line_comment" pattern with
    | error fault => exact .inr ⟨fault, rfl, rfl, by simp [Edit.lineComment?, hx, Except.toOption], rfl⟩
    | ok line => left; simp [changed, Edit.pushed?, Edit.lineComment?, Edit.blockComment?, hx]; rfl
  | blockComment opening closing =>
    rw [attempt, Edit.run, Editing.setBlockComment, run_ofExcept_bind]
    cases hx : Delimiters.ofText opening closing with
    | error fault => exact .inr ⟨fault, rfl, rfl, rfl, by simp [Edit.blockComment?, hx, Except.toOption]⟩
    | ok delimiters => left; simp [changed, Edit.pushed?, Edit.lineComment?, Edit.blockComment?, hx]; rfl

lemma tryEdit_eq : g.tryEdit e = g.changed e := by
  rcases g.attempt_cases e with h | ⟨fault, h, hp, hl, hb⟩
  · simp only [tryEdit, h]
  · simp [tryEdit, h, changed, hp, hl, hb]

lemma edit_eq_ok (h : g.attempt e = (.ok (), g.changed e)) : g.edit e = .ok (g.changed e) := by
  simp [edit, h, Except.map]

lemma attempt_blockComment {opening closing : Text} {start : Pattern} {fault : InvalidPattern}
    (hs : Pattern.compile "block_comment_start" opening = .ok start)
    (he : Pattern.compile "block_comment_end" closing = .error fault) :
    g.attempt (.blockComment opening closing) = (.error fault, g) := by
  have hd : Delimiters.ofText opening closing = .error fault := by
    simp [Delimiters.ofText, hs, he, bind, Except.bind]
  rw [attempt, Edit.run, Editing.setBlockComment, run_ofExcept_bind, hd]

end Step

section Run

variable {α : Type} (g : Grammar) (e : Edit) (edits : List Edit)

lemma last_setting_cons (setting : Edit → Option α) (old : Option α) :
    ((e :: edits).filterMap setting).getLast?.or old =
      (edits.filterMap setting).getLast?.or ((setting e).or old) := by
  cases h : setting e with
  | none => simp [h]
  | some a => cases hl : (edits.filterMap setting).getLast? <;> simp [h, hl, List.getLast?_cons]

lemma tryEdits_eq :
    g.tryEdits edits =
      { g with
        rules := g.rules ++ edits.filterMap Edit.pushed?
        lineComment := (edits.filterMap Edit.lineComment?).getLast?.or g.lineComment
        blockComment := (edits.filterMap Edit.blockComment?).getLast?.or g.blockComment } := by
  induction edits generalizing g with
  | nil => simp [tryEdits]
  | cons e rest ih =>
    have hs : g.tryEdits (e :: rest) = (g.changed e).tryEdits rest := by
      rw [tryEdits, List.foldl_cons, tryEdit_eq, tryEdits]
    have hp : (e :: rest).filterMap Edit.pushed? = e.pushed?.toList ++ rest.filterMap Edit.pushed? := by
      cases h : e.pushed? <;> simp [h]
    rw [hs, ih, last_setting_cons, last_setting_cons, hp]
    simp only [changed, List.append_assoc]

lemma foldlM_successes : (successes g edits).foldlM edit g = .ok (g.tryEdits edits) := by
  induction edits generalizing g with
  | nil => rfl
  | cons e rest ih =>
    have hs : g.tryEdits (e :: rest) = (g.tryEdit e).tryEdits rest := rfl
    rcases g.attempt_cases e with h | ⟨fault, h, -⟩
    · rw [successes, h, List.foldlM_cons, edit_eq_ok g e h, hs, tryEdit_eq]
      exact ih (g.changed e)
    · rw [successes, h, hs, tryEdit, h]
      exact ih g

lemma tryEdits_successes : g.tryEdits (successes g edits) = g.tryEdits edits := by
  induction edits generalizing g with
  | nil => rfl
  | cons e rest ih =>
    have hs (l : List Edit) : g.tryEdits (e :: l) = (g.tryEdit e).tryEdits l := rfl
    rcases g.attempt_cases e with h | ⟨fault, h, -⟩
    · rw [successes, h, hs, hs, tryEdit_eq]
      exact ih (g.changed e)
    · rw [successes, h, hs, tryEdit, h]
      exact ih g

lemma filterMap_filter_of_none {asks : Edit → Option α} {kind : Edit → Bool}
    (h : ∀ e, kind e = false → asks e = none) : (edits.filter kind).filterMap asks = edits.filterMap asks := by
  rw [List.filterMap_filter]
  congr 1
  funext e
  cases hk : kind e with
  | true => simp
  | false => simp [h e hk]

/-- Only the order among the rules and the order among the comments count. -/
lemma tryEdits_congr {edits other : List Edit} (pushes : other.filter (·.isPush) = edits.filter (·.isPush))
    (settings : other.filter (!·.isPush) = edits.filter (!·.isPush)) : g.tryEdits other = g.tryEdits edits := by
  have hp (l : List Edit) : (l.filter (·.isPush)).filterMap Edit.pushed? = l.filterMap Edit.pushed? :=
    filterMap_filter_of_none l fun e he => by cases e <;> simp_all [Edit.isPush, Edit.pushed?]
  have hl (l : List Edit) : (l.filter (!·.isPush)).filterMap Edit.lineComment? = l.filterMap Edit.lineComment? :=
    filterMap_filter_of_none l fun e he => by cases e <;> simp_all [Edit.isPush, Edit.lineComment?]
  have hb (l : List Edit) :
      (l.filter (!·.isPush)).filterMap Edit.blockComment? = l.filterMap Edit.blockComment? :=
    filterMap_filter_of_none l fun e he => by cases e <;> simp_all [Edit.isPush, Edit.blockComment?]
  rw [tryEdits_eq, tryEdits_eq, ← hp other, ← hp edits, ← hl other, ← hl edits, ← hb other, ← hb edits,
    pushes, settings]

end Run

/-- The grammar is what the successful steps alone make of the starting one. -/
theorem failing_edits_leave_no_trace (g : Grammar) (edits other : List Edit)
    (pushes : other.filter (·.isPush) = edits.filter (·.isPush))
    (settings : other.filter (!·.isPush) = edits.filter (!·.isPush)) :
    (successes g edits).foldlM edit g = .ok (g.tryEdits edits) ∧
    (∀ e fault after, g.attempt e = (.error fault, after) →
      after = g ∧ ∀ text incoming, after.highlight text incoming = g.highlight text incoming) ∧
    (∀ opening closing start fault, Pattern.compile "block_comment_start" opening = .ok start →
      Pattern.compile "block_comment_end" closing = .error fault →
      g.attempt (.blockComment opening closing) = (.error fault, g)) ∧
    (g.tryEdits edits).language = g.language ∧
    (g.tryEdits edits).rules = g.rules ++ (successes g edits).filterMap Edit.pushed? ∧
    (g.tryEdits edits).lineComment =
      ((successes g edits).filterMap Edit.lineComment?).getLast?.or g.lineComment ∧
    (g.tryEdits edits).blockComment =
      ((successes g edits).filterMap Edit.blockComment?).getLast?.or g.blockComment ∧
    ∀ text incoming, (g.tryEdits other).highlight text incoming = (g.tryEdits edits).highlight text incoming := by
  have hs := (tryEdits_successes g edits).symm.trans (tryEdits_eq g _)
  refine ⟨foldlM_successes g edits, ?_, fun _ _ _ _ => attempt_blockComment g, by rw [hs],
    congrArg rules hs, congrArg lineComment hs, congrArg blockComment hs, ?_⟩
  · intro e fault after h
    have ha : after = g := by
      rcases g.attempt_cases e with h' | ⟨fault', h', -⟩ <;> simp_all
    exact ⟨ha, fun _ _ => by rw [ha]⟩
  · intro text incoming
    rw [tryEdits_congr g pushes settings]

theorem unclosed_group_leaves_comments_alone :
    let push := Edit.rule "edge" "\\b".toList .number (some 0)
    let line := Edit.lineComment "$".toList
    let group := Edit.blockComment "^".toList "(^".toList
    let edits := [line, group, .rule "class" "[a".toList .number none, push]
    let other := [.rule "class" "[a".toList .number none, push, line, group]
    (∃ fault, (empty .text).attempt group = (.error fault, empty .text)) ∧
      successes (empty .text) edits = [line, push] ∧
      (∃ rule, ((empty .text).tryEdits edits).rules = [rule]) ∧
      ((empty .text).tryEdits edits).blockComment = none ∧
      ∀ text incoming, ((empty .text).tryEdits other).highlight text incoming =
        ((empty .text).tryEdits edits).highlight text incoming := by
  intro push line group edits other
  have hs : successes (empty .text) edits = [line, push] := by decide +kernel
  have hstart : Pattern.compile "block_comment_start" "^".toList = .ok (.look .textStart) := by decide +kernel
  have hend : ∃ fault, Pattern.compile "block_comment_end" "(^".toList = .error fault := ⟨_, rfl⟩
  obtain ⟨fault, hend⟩ := hend
  obtain ⟨-, -, hg, -, hr, -, hb, ho⟩ :=
    failing_edits_leave_no_trace (empty .text) edits other (by decide +kernel) (by decide +kernel)
  rw [hs] at hr hb
  exact ⟨⟨fault, hg _ _ _ _ hstart hend⟩, hs, ⟨_, hr⟩, hb, ho⟩

end Highlighting.Grammar
