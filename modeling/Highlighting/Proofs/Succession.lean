import Highlighting.Proofs.Matching
import Mathlib.Data.List.Pairwise

/-! Matches one after another. Each begins where the one before has ended or later, and whatever matches begins
inside one that is found. -/

namespace Highlighting

def Match.Apart (m n : Match) : Prop := m.ending.stop ≤ n.start ∨ n.ending.stop ≤ m.start

instance : Std.Symm Match.Apart := ⟨fun _ _ h => h.symm⟩

namespace Pattern

section

variable {p : Pattern} {text : Text} {m n : Match}

namespace Table

variable {table : Table} {last : Option Nat}

def Sorted (table : Table) : Prop := table.Pairwise fun a b => a.1 < b.1

lemma Sorted.lt_of_mem {entry : Nat × Option Ending} {rest : Table} (h : Sorted (entry :: rest))
    (hm : m ∈ allFrom last rest) : entry.1 < m.start :=
  (List.pairwise_cons.mp h).1 _ (mem_allFrom hm)

lemma Sorted.tail {entry : Nat × Option Ending} {rest : Table} (h : Sorted (entry :: rest)) :
    Sorted rest :=
  (List.pairwise_cons.mp h).2

lemma le_start_of_mem_allFrom (hs : Sorted table) (hm : m ∈ allFrom last table) :
    ∀ stop ∈ last, stop ≤ m.start := by
  fun_induction allFrom last table with
  | case1 => simp at hm
  | case2 last start rest ih => exact ih hs.tail hm
  | case3 last start ending rest _ ih => exact ih hs.tail hm
  | case4 last start ending rest hskip ih =>
    intro stop hstop
    obtain rfl := Option.mem_def.mp hstop
    have hle : stop ≤ start := by simpa using (not_or.mp hskip).1
    rcases List.mem_cons.mp hm with rfl | hm
    · exact hle
    · exact Nat.le_of_lt (Nat.lt_of_le_of_lt hle (hs.lt_of_mem hm))

lemma allFrom_pairwise (hs : Sorted table) :
    (allFrom last table).Pairwise fun m n => m.start < n.start ∧ m.ending.stop ≤ n.start := by
  fun_induction allFrom last table with
  | case1 => exact List.Pairwise.nil
  | case2 last start rest ih => exact ih hs.tail
  | case3 last start ending rest _ ih => exact ih hs.tail
  | case4 last start ending rest _ ih =>
    refine List.pairwise_cons.mpr ⟨fun n hn => ⟨hs.lt_of_mem hn, ?_⟩, ih hs.tail⟩
    exact le_start_of_mem_allFrom hs.tail hn _ rfl

/-- A match that is not found begins inside one that is. -/
lemma exists_mem_allFrom (hs : Sorted table) (hm : (m.start, some m.ending) ∈ table)
    (hlt : m.start < m.ending.stop) (hlast : ∀ stop ∈ last, stop ≤ m.start) :
    ∃ n ∈ allFrom last table, n.start ≤ m.start ∧ m.start < n.ending.stop := by
  fun_induction allFrom last table with
  | case1 => simp at hm
  | case2 last start rest ih =>
    rcases List.mem_cons.mp hm with hm | hm
    · cases hm
    · exact ih hs.tail hm hlast
  | case3 last start ending rest hskip ih =>
    rcases List.mem_cons.mp hm with hm | hm
    · -- an entry is skipped only behind the last match, or if it is empty
      obtain ⟨rfl, rfl⟩ : m.start = start ∧ m.ending = ending := by simpa using hm
      rcases hskip with hskip | ⟨hempty, -⟩
      · obtain ⟨stop, rfl, hstop⟩ := (Option.any_eq_true _ _).mp hskip
        have hle := hlast stop rfl
        simp only [decide_eq_true_eq] at hstop
        omega
      · omega
    · exact ih hs.tail hm hlast
  | case4 last start ending rest _ ih =>
    rcases List.mem_cons.mp hm with hm' | hm'
    · obtain ⟨rfl, rfl⟩ : m.start = start ∧ m.ending = ending := by simpa using hm'
      exact ⟨m, List.mem_cons_self, Nat.le_refl _, hlt⟩
    · have hstart : start < m.start := (List.pairwise_cons.mp hs).1 _ hm'
      by_cases hover : m.start < ending.stop
      · exact ⟨⟨start, ending⟩, List.mem_cons_self, Nat.le_of_lt hstart, hover⟩
      · obtain ⟨n, hn, hover⟩ := ih hs.tail hm' fun stop hstop => by
          rw [← Option.some.inj hstop]
          exact Nat.not_lt.mp hover
        exact ⟨n, List.mem_cons_of_mem _ hn, hover⟩

end Table

lemma sorted_table (p : Pattern) (text : Text) : (p.table text).Sorted := by
  rw [table_eq, Table.Sorted, List.pairwise_map]
  exact Cursor.all_pairwise none 0 text

lemma findAll_pairwise (p : Pattern) (text : Text) :
    (p.findAll text).Pairwise fun m n => m.start < n.start ∧ m.ending.stop ≤ n.start :=
  Table.allFrom_pairwise (sorted_table p text)

lemma exists_mem_findAll (hm : p.IsMatch text m) (hlt : m.start < m.ending.stop) :
    ∃ n ∈ p.findAll text, n.start ≤ m.start ∧ m.start < n.ending.stop :=
  Table.exists_mem_allFrom (sorted_table p text) (mem_table.mpr hm) hlt (by simp)

lemma mem_findAll_of_clear (hm : p.IsMatch text m) (hlt : m.start < m.ending.stop)
    (hclear : ∀ n, p.IsMatch text n → n.start < m.start → n.ending.stop ≤ m.start) :
    m ∈ p.findAll text := by
  obtain ⟨n, hn, hle, hover⟩ := exists_mem_findAll hm hlt
  have hmatch := isMatch_of_mem_findAll hn
  rcases Nat.eq_or_lt_of_le hle with heq | hbefore
  · rwa [← hmatch.eq_of_start hm heq]
  · exact (Nat.not_lt.mpr (hclear n hmatch hbefore) hover).elim

lemma eq_of_mem_findAll (hm : m ∈ p.findAll text) (hn : n ∈ p.findAll text) {i : Nat}
    (him : m.start ≤ i ∧ i < m.ending.stop) (hin : n.start ≤ i ∧ i < n.ending.stop) : m = n := by
  have hapart : (p.findAll text).Pairwise Match.Apart := (findAll_pairwise p text).imp fun h => Or.inl h.2
  by_contra hne
  rcases hapart.forall hm hn hne with h | h <;> omega

lemma stop_le_of_start_lt (hm : m ∈ p.findAll text) (hn : n ∈ p.findAll text) (hlt : m.start < n.start)
    (hne : n.start < n.ending.stop) : m.ending.stop ≤ n.start := by
  by_contra hle
  obtain rfl := eq_of_mem_findAll hm hn ⟨Nat.le_of_lt hlt, Nat.not_le.mp hle⟩ ⟨Nat.le_refl _, hne⟩
  exact Nat.lt_irrefl _ hlt

end

end Pattern

end Highlighting
