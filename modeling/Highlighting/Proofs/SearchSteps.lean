import Highlighting.Proofs.Reading
import Highlighting.Proofs.Succession

/-! A search place by place: where nothing matches it goes on behind the next character, and where something
matches it goes on behind the match. -/

namespace Highlighting

namespace Pattern

open Cursor

namespace Table

lemma allFrom_some_eq {table : Table} {stop : Nat}
    (h : ∀ start ending, (start, some ending) ∈ table → stop ≤ start ∧ start < ending.stop) :
    allFrom (some stop) table = allFrom none table := by
  induction table with
  | nil => rfl
  | cons entry rest ih =>
    have hrest := ih fun start ending hmem => h start ending (List.mem_cons_of_mem entry hmem)
    obtain ⟨start, _ | ending⟩ := entry
    · exact hrest
    · obtain ⟨hle, hlt⟩ := h start ending List.mem_cons_self
      have hbehind : ¬ ((some stop).any (start < ·) ∨ (ending.stop = start ∧ some stop = some start)) := by
        simp only [Option.any_some, decide_eq_true_eq]
        omega
      rw [allFrom, if_neg hbehind, allFrom, if_neg (by simp)]

end Table

def tableBehind (p : Pattern) (c : Cursor) : Table :=
  (Cursor.all c.previous c.offset c.rest).map fun d => (d.offset, p.run done d)

def matchesFrom (p : Pattern) (c : Cursor) : List Match := Table.allFrom none (p.tableBehind c)

section

variable {p : Pattern} {before behind own : Text} {x : Char} {e : Ending}

lemma findAll_eq (p : Pattern) (text : Text) : p.findAll text = p.matchesFrom (between [] text) := by
  rw [findAll, table_eq]
  rfl

lemma tableBehind_cons : p.tableBehind (between before (x :: behind)) =
    (Text.byteLength before, p.run done (between before (x :: behind))) ::
      p.tableBehind (between (before ++ [x]) behind) := by
  simp [tableBehind, between, Cursor.all]

lemma mem_tableBehind {start : Nat} {ending : Ending}
    (h : (start, some ending) ∈ p.tableBehind (between before behind)) :
    Text.byteLength before ≤ start ∧ p.IsMatch (before ++ behind) ⟨start, ending⟩ := by
  simp only [tableBehind, List.mem_map, Cursor.mem_all, Prod.mk.injEq] at h
  obtain ⟨c, hc, rfl, hrun⟩ := h
  have hstart : (start (before ++ behind)).Reaches (between before behind) :=
    reaches_start_iff.mpr ⟨before, rfl, rfl⟩
  exact ⟨hc.offset_le, c, hstart.trans hc, rfl, hrun⟩

lemma matchesFrom_nil (h : p.run done (between before []) = none) : p.matchesFrom (between before []) = [] := by
  have hentry : p.tableBehind (between before []) = [(Text.byteLength before, none)] := by
    simp only [between] at h
    simp [tableBehind, between, Cursor.all, h]
  rw [matchesFrom, hentry]
  rfl

lemma matchesFrom_skip (h : p.run done (between before (x :: behind)) = none) :
    p.matchesFrom (between before (x :: behind)) = p.matchesFrom (between (before ++ [x]) behind) := by
  rw [matchesFrom, tableBehind_cons, h]
  rfl

lemma allFrom_tableBehind (p : Pattern) (before own behind : Text) :
    Table.allFrom (some (Text.byteLength (before ++ own))) (p.tableBehind (between before (own ++ behind))) =
      Table.allFrom (some (Text.byteLength (before ++ own))) (p.tableBehind (between (before ++ own) behind)) := by
  induction own generalizing before with
  | nil => simp
  | cons x own ih =>
    have hrest := ih (before ++ [x])
    rw [List.append_assoc, List.singleton_append] at hrest
    rw [List.cons_append, tableBehind_cons, ← hrest]
    cases p.run done (between before (x :: (own ++ behind))) with
    | none => rfl
    | some ending =>
      -- this match begins in front of the place where the search may go on
      have hpos := x.utf8Size_pos
      have hinside : (some (Text.byteLength (before ++ x :: own))).any (Text.byteLength before < ·) = true := by
        simp only [Option.any_some, decide_eq_true_eq, Text.byteLength_append, Text.byteLength_cons]
        omega
      rw [Table.allFrom, if_pos (Or.inl hinside)]

lemma matchesFrom_match (hp : p.NeverEmpty) (hrun : p.run done (between before (own ++ behind)) = some e)
    (hstop : e.stop = Text.byteLength (before ++ own)) :
    p.matchesFrom (between before (own ++ behind)) =
      ⟨Text.byteLength before, e⟩ :: p.matchesFrom (between (before ++ own) behind) := by
  have hmatch : p.IsMatch (before ++ (own ++ behind)) ⟨Text.byteLength before, e⟩ :=
    isMatch_iff.mpr ⟨before, own ++ behind, rfl, rfl, hrun⟩
  have hlt := hp _ _ hmatch
  cases own with
  | nil =>
    rw [hstop, List.append_nil] at hlt
    exact (Nat.lt_irrefl _ hlt).elim
  | cons x own =>
    have hrest : Table.allFrom (some e.stop) (p.tableBehind (between (before ++ [x]) (own ++ behind))) =
        p.matchesFrom (between (before ++ x :: own) behind) := by
      have hskip := allFrom_tableBehind p (before ++ [x]) own behind
      rw [List.append_assoc, List.singleton_append] at hskip
      rw [hstop, hskip, matchesFrom]
      refine Table.allFrom_some_eq fun start ending hmem => ?_
      obtain ⟨hle, hm⟩ := mem_tableBehind hmem
      exact ⟨hle, hp _ _ hm⟩
    rw [List.cons_append] at hrun ⊢
    rw [matchesFrom, tableBehind_cons, hrun, ← hrest, Table.allFrom, if_neg (by simp)]

end

end Pattern

end Highlighting
