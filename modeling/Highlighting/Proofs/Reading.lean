import Highlighting.Proofs.CharacterTables
import Highlighting.Proofs.Spelling

/-! What a pattern reads of the text behind a cursor: characters of sets, literals with and without regard to
case, choices, and the longest run of a set. -/

namespace Highlighting

namespace Text

/-- The same text, up to simple case folding where case does not count. -/
def Alike (ignoreCase : Bool) (a b : Text) : Prop :=
  if ignoreCase then a.map (Unicode.foldCase ·.toNat) = b.map (Unicode.foldCase ·.toNat) else a = b

section

variable {ignoreCase : Bool} {a b : Text} {x y : Char}

lemma alike_nil : Alike ignoreCase a [] ↔ a = [] := by
  cases ignoreCase <;> simp [Alike]

lemma alike_cons : Alike ignoreCase a (y :: b) ↔
    ∃ x own, a = x :: own ∧ Alike ignoreCase [x] [y] ∧ Alike ignoreCase own b := by
  cases ignoreCase <;> simp [Alike, List.map_eq_cons_iff]

lemma Alike.length_eq (h : Alike ignoreCase a b) : a.length = b.length := by
  cases ignoreCase with
  | false =>
    obtain rfl : a = b := h
    rfl
  | true => simpa using congrArg List.length h

lemma Alike.isWord_eq (h : Alike ignoreCase a b) : a.map Unicode.isWord = b.map Unicode.isWord := by
  induction b generalizing a with
  | nil => rw [alike_nil.mp h]
  | cons y b ih =>
    obtain ⟨x, own, rfl, hxy, hown⟩ := alike_cons.mp h
    rw [List.map_cons, List.map_cons, ih hown]
    have hword : Unicode.isWord x = Unicode.isWord y := by
      cases ignoreCase with
      | false => rw [List.singleton_inj.mp hxy]
      | true => exact Unicode.isWord_eq_of_foldCase_eq (List.singleton_inj.mp hxy)
    rw [hword]

end

end Text

namespace Cursor

def between (before behind : Text) : Cursor := ⟨before.getLast?, Text.byteLength before, behind⟩

section

variable {before behind : Text} {x : Char}

lemma next?_between : (between before (x :: behind)).next? = some (between (before ++ [x]) behind) := by
  simp [next?, between]

lemma reaches_between (own : Text) :
    (between before (own ++ behind)).Reaches (between (before ++ own) behind) := by
  induction own generalizing before with
  | nil =>
    rw [List.nil_append, List.append_nil]
    exact .refl _
  | cons x own ih =>
    have hnext : (between (before ++ [x]) (own ++ behind)).Reaches (between (before ++ [x] ++ own) behind) := ih
    rw [List.append_assoc, List.singleton_append] at hnext
    exact .step next?_between hnext

lemma Reaches.eq_between {c d : Cursor} (h : Reaches c d) (hc : c = between before c.rest) :
    ∃ own, c.rest = own ++ d.rest ∧ d = between (before ++ own) d.rest := by
  induction h generalizing before with
  | refl c => exact ⟨[], rfl, by simpa using hc⟩
  | @step c d e hn _ ih =>
    cases hrest : c.rest with
    | nil =>
      rw [hc, hrest] at hn
      cases hn
    | cons x rest =>
      rw [hc, hrest, next?_between, Option.some.injEq] at hn
      have hd : d = between (before ++ [x]) d.rest := by
        rw [← hn]
        rfl
      obtain ⟨own, hown, he⟩ := ih hd
      refine ⟨x :: own, ?_, by simpa using he⟩
      rw [List.cons_append, ← hown, ← hn]
      rfl

lemma reaches_start_iff {text : Text} {c : Cursor} :
    (start text).Reaches c ↔ ∃ before, text = before ++ c.rest ∧ c = between before c.rest := by
  constructor
  · intro h
    have hstart : start text = between [] (start text).rest := rfl
    obtain ⟨own, hown, hc⟩ := h.eq_between hstart
    exact ⟨own, hown, hc⟩
  · rintro ⟨before, htext, hc⟩
    have hreaches : (between [] (before ++ c.rest)).Reaches (between ([] ++ before) c.rest) :=
      reaches_between before
    rwa [← htext, List.nil_append, ← hc] at hreaches

end

end Cursor

namespace Pattern

open Cursor

section

variable {p : Pattern} {text : Text} {m : Match}

lemma isMatch_iff : p.IsMatch text m ↔ ∃ before behind, text = before ++ behind ∧
    Text.byteLength before = m.start ∧ p.run done (between before behind) = some m.ending := by
  constructor
  · rintro ⟨c, hc, hstart, hrun⟩
    obtain ⟨before, htext, hcut⟩ := reaches_start_iff.mp hc
    rw [hcut] at hstart hrun
    exact ⟨before, c.rest, htext, hstart, hrun⟩
  · rintro ⟨before, behind, htext, hstart, hrun⟩
    exact ⟨between before behind, reaches_start_iff.mpr ⟨before, htext, rfl⟩, hstart, hrun⟩

end

section

variable {before behind : Text} {f : Follow} {e : Ending}

lemma run_set_nil (s : CharSet) : (set s).run f (between before []) = none := rfl

lemma run_set_cons (s : CharSet) (x : Char) (rest : Text) : (set s).run f (between before (x :: rest)) =
    if s.contains x then f (between (before ++ [x]) rest) else none := by
  simp [run, between]

lemma run_set_eq_some {s : CharSet} : (set s).run f (between before behind) = some e ↔
    ∃ x rest, behind = x :: rest ∧ s.contains x = true ∧ f (between (before ++ [x]) rest) = some e := by
  cases behind with
  | nil => simp [run_set_nil]
  | cons x rest => by_cases hx : s.contains x <;> simp [run_set_cons, hx]

lemma run_look_eq_some {l : Look} : (look l).run f (between before behind) = some e ↔
    l.holds before.getLast? behind.head? = true ∧ f (between before behind) = some e := by
  by_cases hl : l.holds before.getLast? behind.head? <;> simp [run, between, hl]

lemma contains_inLine {x : Char} : CharSet.inLine.contains x = true ↔ x ≠ '\n' := by
  rw [CharSet.inLine, CharSet.contains, Bool.not_eq_true', Bool.eq_false_iff, Ne, contains_single]

lemma contains_ofList {chars : List Char} {x : Char} :
    (CharSet.ofList chars).contains x = true ↔ x ∈ chars := by
  induction chars with
  | nil => simp [CharSet.ofList, CharSet.contains]
  | cons y chars ih =>
    cases chars with
    | nil => rw [CharSet.ofList, contains_single, List.mem_singleton]
    | cons z chars =>
      have hlist : CharSet.ofList (y :: z :: chars) =
          .union (.single y) (CharSet.ofList (z :: chars)) := rfl
      rw [hlist, CharSet.contains, Bool.or_eq_true, contains_single, ih, List.mem_cons (b := y)]

def alikeSet (y : Char) (ignoreCase : Bool) : CharSet :=
  if ignoreCase then .ofList (Unicode.caseVariants y) else .single y

lemma contains_alikeSet {x y : Char} {ignoreCase : Bool} :
    (alikeSet y ignoreCase).contains x = true ↔ Text.Alike ignoreCase [x] [y] := by
  cases ignoreCase with
  | false => simp [alikeSet, contains_single, Text.Alike]
  | true => simp [alikeSet, contains_ofList, Unicode.mem_caseVariants, Text.Alike]

lemma run_literal_cons (y : Char) (s : Text) (ignoreCase : Bool) (f : Follow) (c : Cursor) :
    (literal (y :: s) ignoreCase).run f c =
      (set (alikeSet y ignoreCase)).run ((literal s ignoreCase).run f) c := by
  rw [literal, List.map_cons, run_inOrder_cons]
  cases ignoreCase <;> rfl

lemma run_literal_eq_some {s : Text} {ignoreCase : Bool} :
    (literal s ignoreCase).run f (between before behind) = some e ↔
      ∃ own rest, behind = own ++ rest ∧ Text.Alike ignoreCase own s ∧
        f (between (before ++ own) rest) = some e := by
  induction s generalizing before behind with
  | nil => simp [literal, inOrder, run, Text.alike_nil]
  | cons y s ih =>
    rw [run_literal_cons, run_set_eq_some]
    constructor
    · rintro ⟨x, rest, rfl, hx, hrun⟩
      obtain ⟨own, rest, rfl, hown, hf⟩ := ih.mp hrun
      refine ⟨x :: own, rest, rfl, Text.alike_cons.mpr ⟨x, own, rfl, contains_alikeSet.mp hx, hown⟩, ?_⟩
      simpa using hf
    · rintro ⟨_, rest, rfl, halike, hf⟩
      obtain ⟨x, own, rfl, hx, hown⟩ := Text.alike_cons.mp halike
      exact ⟨x, own ++ rest, rfl, contains_alikeSet.mpr hx, ih.mpr ⟨own, rest, rfl, hown, by simpa using hf⟩⟩

lemma run_oneOf {ps : List Pattern} (h : ps ≠ []) (f : Follow) (c : Cursor) :
    (oneOf ps).run f c = ps.findSome? fun p => p.run f c := by
  induction ps with
  | nil => exact (h rfl).elim
  | cons p ps ih =>
    cases ps with
    | nil =>
      rw [oneOf, List.findSome?_cons, List.findSome?_nil]
      cases p.run f c <;> rfl
    | cons q ps =>
      have hchoice : (oneOf (p :: q :: ps)).run f c = (p.run f c <|> (oneOf (q :: ps)).run f c) := rfl
      rw [hchoice, ih (List.cons_ne_nil q ps), List.findSome?_cons (a := p)]
      cases p.run f c <;> rfl

/-- Reads a character at least, so that what follows counts only further on. -/
def Advances (a : Pattern) : Prop :=
  ∀ (f g : Follow) (c : Cursor), (∀ d, c.Reaches d → d.rest.length < c.rest.length → f d = g d) →
    a.run f c = a.run g c

lemma advances_set (s : CharSet) : (set s).Advances := by
  intro f g c h
  obtain ⟨previous, offset, rest⟩ := c
  cases rest with
  | nil => rfl
  | cons x rest =>
    have hnext := h ⟨some x, offset + x.utf8Size, rest⟩ (.step rfl (.refl _)) (Nat.lt_succ_self _)
    simp only [run, hnext]

lemma Advances.seq {a : Pattern} (ha : a.Advances) (b : Pattern) : (Pattern.seq a b).Advances := by
  intro f g c h
  refine ha _ _ c fun d hd hlt => local_run b d f g fun e he => h e (hd.trans he) ?_
  rcases he.eq_or_lt with rfl | hlt'
  · exact hlt
  · exact Nat.lt_trans hlt' hlt

lemma Advances.alt {a b : Pattern} (ha : a.Advances) (hb : b.Advances) : (Pattern.alt a b).Advances := by
  intro f g c h
  simp only [run, ha f g c h, hb f g c h]

section

variable {a : Pattern} (ha : a.Advances)

include ha

lemma Advances.rounds_eq (f : Follow) (c : Cursor) :
    a.rounds true f c = (a.run (a.rounds true f) c <|> f c) := by
  have hround : a.run (fun d => if d.rest.length < c.rest.length then a.rounds true f d else none) c =
      a.run (a.rounds true f) c := ha _ _ c fun d _ hlt => if_pos hlt
  rw [Pattern.rounds_eq, hround]
  rfl

lemma Advances.run_loop (f : Follow) (c : Cursor) : (loop a true).run f c = a.run (a.rounds true f) c := by
  rw [Pattern.run_loop]
  exact ha _ _ c fun d _ hlt => if_pos hlt

lemma Advances.run_star (f : Follow) (c : Cursor) : (star a true).run f c = a.rounds true f c := by
  rw [ha.rounds_eq, ← ha.run_loop]
  rfl

end

lemma run_star_set {s : CharSet} {own : Text} (hown : ∀ x ∈ own, s.contains x = true)
    (hbehind : ∀ x ∈ behind.head?, s.contains x = false)
    (hf : f (between (before ++ own) behind) = some e) :
    (star (set s) true).run f (between before (own ++ behind)) = some e := by
  rw [(advances_set s).run_star]
  induction own generalizing before with
  | nil =>
    rw [List.append_nil] at hf
    have hnone : (set s).run ((set s).rounds true f) (between before behind) = none := by
      rw [Option.eq_none_iff_forall_ne_some]
      intro e' hrun
      obtain ⟨x, rest, rfl, hx, -⟩ := run_set_eq_some.mp hrun
      rw [hbehind x rfl] at hx
      cases hx
    rw [List.nil_append, (advances_set s).rounds_eq, hnone, hf]
    rfl
  | cons x own ih =>
    have hnext : (set s).rounds true f (between (before ++ [x]) (own ++ behind)) = some e :=
      ih (fun y hy => hown y (List.mem_cons_of_mem x hy)) (by simpa using hf)
    have hstep : (set s).run ((set s).rounds true f) (between before (x :: own ++ behind)) = some e :=
      run_set_eq_some.mpr ⟨x, own ++ behind, rfl, hown x List.mem_cons_self, hnext⟩
    rw [(advances_set s).rounds_eq, hstep]
    rfl

section

variable {p : Pattern} {s : CharSet} {own text : Text}

lemma exists_follow_of_run (h : p.run f (between before text) = some e) :
    ∃ own rest e', text = own ++ rest ∧ f (between (before ++ own) rest) = some e' := by
  obtain ⟨d, ms, e', hpath, hf, -⟩ := leads_run p _ f e h
  have hstart : between before text = between before (between before text).rest := rfl
  obtain ⟨own, hown, hd⟩ := hpath.reaches.eq_between hstart
  exact ⟨own, d.rest, e', hown, hd ▸ hf⟩

lemma run_atMost_succ (p : Pattern) (n : Nat) (f : Follow) (c : Cursor) :
    (atMost p true (n + 1)).run f c = (p.run ((atMost p true n).run f) c <|> f c) := by
  cases n with
  | zero => rfl
  | succ n => rfl

lemma run_atMost_set (hown : ∀ x ∈ own, s.contains x = true)
    (hbehind : ∀ x ∈ behind.head?, s.contains x = false) {n : Nat} (hn : own.length ≤ n)
    (hf : f (between (before ++ own) behind) = some e) :
    (atMost (set s) true n).run f (between before (own ++ behind)) = some e := by
  induction n generalizing before own with
  | zero =>
    obtain rfl := List.length_eq_zero_iff.mp (Nat.le_zero.mp hn)
    rwa [List.append_nil] at hf
  | succ n ih =>
    rw [run_atMost_succ]
    cases own with
    | nil =>
      rw [List.append_nil] at hf
      cases behind with
      | nil => simpa [run_set_nil] using hf
      | cons x behind => simpa [run_set_cons, hbehind x rfl] using hf
    | cons x own =>
      have hrest : (atMost (set s) true n).run f (between (before ++ [x]) (own ++ behind)) = some e :=
        ih (fun y hy => hown y (List.mem_cons_of_mem x hy)) (Nat.le_of_succ_le_succ hn) (by simpa using hf)
      rw [List.cons_append, run_set_cons, if_pos (hown x List.mem_cons_self), hrest]
      rfl

lemma run_exactly_atMost (hown : ∀ x ∈ own, s.contains x = true)
    (hbehind : ∀ x ∈ behind.head?, s.contains x = false) {k n : Nat} (hmin : k ≤ own.length)
    (hmax : own.length ≤ k + n) (hf : f (between (before ++ own) behind) = some e) :
    (exactly (set s) k).run ((atMost (set s) true n).run f) (between before (own ++ behind)) = some e := by
  induction k generalizing before own with
  | zero => exact run_atMost_set hown hbehind (by omega) hf
  | succ k ih =>
    cases own with
    | nil => exact (Nat.not_succ_le_zero k hmin).elim
    | cons x own =>
      rw [List.length_cons] at hmin hmax
      rw [exactly, List.replicate_succ, run_inOrder_cons, List.cons_append, run_set_cons,
        if_pos (hown x List.mem_cons_self), ← exactly]
      exact ih (fun y hy => hown y (List.mem_cons_of_mem x hy)) (by omega) (by omega) (by simpa using hf)

lemma run_loop_set (hne : own ≠ []) (hown : ∀ x ∈ own, s.contains x = true)
    (hbehind : ∀ x ∈ behind.head?, s.contains x = false)
    (hf : f (between (before ++ own) behind) = some e) :
    (loop (set s) true).run f (between before (own ++ behind)) = some e := by
  obtain ⟨x, own, rfl⟩ := List.exists_cons_of_ne_nil hne
  have hrest : (star (set s) true).run f (between (before ++ [x]) (own ++ behind)) = some e :=
    run_star_set (fun y hy => hown y (List.mem_cons_of_mem x hy)) hbehind (by simpa using hf)
  rw [(advances_set s).run_star] at hrest
  rw [(advances_set s).run_loop, List.cons_append, run_set_cons, if_pos (hown x List.mem_cons_self), hrest]

end

end

end Pattern

end Highlighting
