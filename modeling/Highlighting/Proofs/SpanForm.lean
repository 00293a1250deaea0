import Highlighting.Coloring
import Mathlib.Data.List.Basic

/-! Spans and the classes of single bytes. The spans of a coloring show what the coloring holds, and they
are the only spans in canonical form that do. -/

namespace Highlighting

namespace Span

def Shows (spans : List Span) (i : Nat) (kind : StyleClass) : Prop :=
  ∃ s ∈ spans, s.contains i = true ∧ s.kind = kind

/-- Spans that are not empty, in order and without overlap, such that two of them that touch differ in
class. -/
def Canonical (spans : List Span) : Prop :=
  (∀ s ∈ spans, 1 ≤ s.length) ∧
    spans.Pairwise fun s t => s.stop ≤ t.start ∧ (s.stop = t.start → s.kind ≠ t.kind)

lemma contains_iff {s : Span} {i : Nat} : s.contains i = true ↔ s.start ≤ i ∧ i < s.stop := by
  simp [contains]

lemma shows_nil {i : Nat} {kind : StyleClass} : ¬ Shows [] i kind := by
  rintro ⟨s, hs, -⟩
  simp at hs

lemma shows_cons {s : Span} {spans : List Span} {i : Nat} {kind : StyleClass} :
    Shows (s :: spans) i kind ↔ (s.contains i = true ∧ s.kind = kind) ∨ Shows spans i kind := by
  simp [Shows]

lemma shows_start {s : Span} (h : 1 ≤ s.length) (spans : List Span) :
    Shows (s :: spans) s.start s.kind :=
  shows_cons.mpr (Or.inl ⟨contains_iff.mpr ⟨Nat.le_refl _, by simp only [stop]; omega⟩, rfl⟩)

section

variable {s t : Span} {xs ys : List Span}

lemma Canonical.tail (h : Canonical (s :: xs)) : Canonical xs :=
  ⟨fun u hu => h.1 u (List.mem_cons_of_mem s hu), (List.pairwise_cons.mp h.2).2⟩

lemma Canonical.head (h : Canonical (s :: xs)) {u : Span} (hu : u ∈ xs) :
    s.stop ≤ u.start ∧ (s.stop = u.start → s.kind ≠ u.kind) :=
  (List.pairwise_cons.mp h.2).1 u hu

lemma Canonical.start_lt_stop (h : Canonical xs) (hs : s ∈ xs) : s.start < s.stop :=
  Nat.lt_add_of_pos_right (h.1 s hs)

lemma Canonical.shows_start_of_mem (h : Canonical xs) (hs : s ∈ xs) : Shows xs s.start s.kind :=
  ⟨s, hs, contains_iff.mpr ⟨Nat.le_refl _, h.start_lt_stop hs⟩, rfl⟩

lemma Canonical.start_le (h : Canonical (s :: xs)) {i : Nat} {kind : StyleClass}
    (hi : Shows (s :: xs) i kind) : s.start ≤ i := by
  obtain ⟨u, hu, hc, -⟩ := hi
  have hc := contains_iff.mp hc
  rcases List.mem_cons.mp hu with rfl | hu
  · exact hc.1
  · have hle := (h.head hu).1
    simp only [stop] at hle
    omega

lemma Canonical.stop_le (h : Canonical (s :: xs)) {i : Nat} {kind : StyleClass} (hi : Shows xs i kind) :
    s.stop ≤ i := by
  obtain ⟨u, hu, hc, -⟩ := hi
  exact Nat.le_trans (h.head hu).1 (contains_iff.mp hc).1

lemma Canonical.kind_eq (h : Canonical (s :: xs)) {i : Nat} {kind : StyleClass}
    (hi : Shows (s :: xs) i kind) (hlt : i < s.stop) : kind = s.kind := by
  rcases shows_cons.mp hi with ⟨-, rfl⟩ | hi
  · rfl
  · have hle := h.stop_le hi
    omega

lemma Canonical.separated (h : Canonical xs) (hs : s ∈ xs) (ht : t ∈ xs) : s = t ∨
    (s.stop ≤ t.start ∧ (s.stop = t.start → s.kind ≠ t.kind)) ∨
      (t.stop ≤ s.start ∧ (t.stop = s.start → t.kind ≠ s.kind)) := by
  induction xs with
  | nil => simp at hs
  | cons u xs ih =>
    rcases List.mem_cons.mp hs with rfl | hs'
    · rcases List.mem_cons.mp ht with rfl | ht'
      · exact Or.inl rfl
      · exact Or.inr (Or.inl (h.head ht'))
    · rcases List.mem_cons.mp ht with rfl | ht'
      · exact Or.inr (Or.inr (h.head hs'))
      · exact ih h.tail hs' ht'

lemma Canonical.not_shows_before (h : Canonical xs) (hs : s ∈ xs) {i : Nat} (hi : i + 1 = s.start) :
    ¬ Shows xs i s.kind := by
  rintro ⟨t, ht, hc, hkind⟩
  have hc := contains_iff.mp hc
  have hlength := h.1 s hs
  rcases h.separated hs ht with rfl | ⟨hle, -⟩ | ⟨hle, hne⟩
  · omega
  · simp only [stop] at hle
    omega
  · exact hne (by omega) hkind

lemma Canonical.not_shows_behind (h : Canonical xs) (hs : s ∈ xs) : ¬ Shows xs s.stop s.kind := by
  rintro ⟨t, ht, hc, hkind⟩
  have hc := contains_iff.mp hc
  rcases h.separated hs ht with rfl | ⟨hle, hne⟩ | ⟨hle, -⟩
  · omega
  · exact hne (by omega) hkind.symm
  · simp only [stop] at hc hle
    omega

lemma Canonical.stop_le_of_shows (hx : Canonical (s :: xs))
    (h : ∀ i kind, Shows (s :: xs) i kind ↔ Shows (t :: ys) i kind) (hstart : s.start = t.start)
    (hkind : s.kind = t.kind) : t.stop ≤ s.stop := by
  by_contra hlt
  have hc : t.contains s.stop = true := contains_iff.mpr ⟨by simp only [stop]; omega, by omega⟩
  exact hx.not_shows_behind List.mem_cons_self ((h _ _).mpr (shows_cons.mpr (Or.inl ⟨hc, hkind.symm⟩)))

lemma Canonical.head_eq (hx : Canonical (s :: xs)) (hy : Canonical (t :: ys))
    (h : ∀ i kind, Shows (s :: xs) i kind ↔ Shows (t :: ys) i kind) : s = t := by
  have hs := (h _ _).mp (shows_start (hx.1 s List.mem_cons_self) xs)
  have ht := (h _ _).mpr (shows_start (hy.1 t List.mem_cons_self) ys)
  have hstart : s.start = t.start := Nat.le_antisymm (hx.start_le ht) (hy.start_le hs)
  have hlength := hx.1 s List.mem_cons_self
  have hlength' := hy.1 t List.mem_cons_self
  have hkind : s.kind = t.kind := hy.kind_eq hs (by simp only [stop]; omega)
  have hle := hx.stop_le_of_shows h hstart hkind
  have hge := hy.stop_le_of_shows (fun i kind => (h i kind).symm) hstart.symm hkind.symm
  cases s
  cases t
  simp only [stop, Span.mk.injEq] at *
  exact ⟨hstart, by omega, hkind⟩

lemma Canonical.eq_of_shows (hx : Canonical xs) (hy : Canonical ys)
    (h : ∀ i kind, Shows xs i kind ↔ Shows ys i kind) : xs = ys := by
  induction xs generalizing ys with
  | nil =>
    cases ys with
    | nil => rfl
    | cons t ys => exact (shows_nil ((h _ _).mpr (shows_start (hy.1 t List.mem_cons_self) ys))).elim
  | cons s xs ih =>
    cases ys with
    | nil => exact (shows_nil ((h _ _).mp (shows_start (hx.1 s List.mem_cons_self) xs))).elim
    | cons t ys =>
      obtain rfl := hx.head_eq hy h
      rw [ih hx.tail hy.tail fun i kind => ?_]
      constructor
      · intro hi
        rcases shows_cons.mp ((h i kind).mp (shows_cons.mpr (Or.inr hi))) with ⟨hc, -⟩ | hi'
        · have hle := hx.stop_le hi
          have hlt := (contains_iff.mp hc).2
          omega
        · exact hi'
      · intro hi
        rcases shows_cons.mp ((h i kind).mpr (shows_cons.mpr (Or.inr hi))) with ⟨hc, -⟩ | hi'
        · have hle := hy.stop_le hi
          have hlt := (contains_iff.mp hc).2
          omega
        · exact hi'

end

end Span

namespace Coloring

open Highlighting.Span

section

variable {offset : Nat} {kind : StyleClass} {spans : List Span}

lemma shows_extend (h : ∀ s ∈ spans, offset + 1 ≤ s.start) (i : Nat) (k : StyleClass) :
    Shows (extend offset kind spans) i k ↔ (i = offset ∧ k = kind) ∨ Shows spans i k := by
  cases spans with
  | nil =>
    simp only [extend, shows_cons, contains_iff, stop]
    constructor
    · rintro (⟨hi, rfl⟩ | hi)
      · exact Or.inl ⟨by omega, rfl⟩
      · exact Or.inr hi
    · rintro (⟨rfl, rfl⟩ | hi)
      · exact Or.inl ⟨by omega, rfl⟩
      · exact Or.inr hi
  | cons s rest =>
    have hs := h s List.mem_cons_self
    by_cases hmerge : s.start = offset + 1 ∧ s.kind = kind
    · obtain ⟨hstart, rfl⟩ := hmerge
      simp only [extend, hstart, and_self, if_true, shows_cons, contains_iff, stop]
      constructor
      · rintro (⟨hi, rfl⟩ | hi)
        · rcases Nat.eq_or_lt_of_le hi.1 with rfl | hlt
          · exact Or.inl ⟨rfl, rfl⟩
          · exact Or.inr (Or.inl ⟨by omega, rfl⟩)
        · exact Or.inr (Or.inr hi)
      · rintro (⟨rfl, rfl⟩ | ⟨hi, rfl⟩ | hi)
        · exact Or.inl ⟨by omega, rfl⟩
        · exact Or.inl ⟨by omega, rfl⟩
        · exact Or.inr hi
    · rw [extend, if_neg hmerge, shows_cons, contains_iff]
      simp only [stop]
      constructor
      · rintro (⟨hi, rfl⟩ | hi)
        · exact Or.inl ⟨by omega, rfl⟩
        · exact Or.inr hi
      · rintro (⟨rfl, rfl⟩ | hi)
        · exact Or.inl ⟨by omega, rfl⟩
        · exact Or.inr hi

lemma start_extend (h : ∀ s ∈ spans, offset + 1 ≤ s.start) :
    ∀ s ∈ extend offset kind spans, offset ≤ s.start := by
  intro s hs
  cases spans with
  | nil =>
    obtain rfl := List.mem_singleton.mp hs
    exact Nat.le_refl _
  | cons t rest =>
    by_cases hmerge : t.start = offset + 1 ∧ t.kind = kind
    · rw [extend, if_pos hmerge] at hs
      rcases List.mem_cons.mp hs with rfl | hs
      · exact Nat.le_refl _
      · exact Nat.le_of_succ_le (h s (List.mem_cons_of_mem t hs))
    · rw [extend, if_neg hmerge] at hs
      rcases List.mem_cons.mp hs with rfl | hs
      · exact Nat.le_refl _
      · exact Nat.le_of_succ_le (h s hs)

lemma canonical_extend (hc : Canonical spans) (h : ∀ s ∈ spans, offset + 1 ≤ s.start) :
    Canonical (extend offset kind spans) := by
  cases spans with
  | nil => exact ⟨by simp [extend], by simp [extend]⟩
  | cons t rest =>
    by_cases hmerge : t.start = offset + 1 ∧ t.kind = kind
    · obtain ⟨hstart, rfl⟩ := hmerge
      rw [extend, if_pos ⟨hstart, rfl⟩]
      have hstop : offset + (t.length + 1) = t.stop := by
        simp only [stop]
        omega
      refine ⟨?_, List.pairwise_cons.mpr ⟨?_, (List.pairwise_cons.mp hc.2).2⟩⟩
      · intro s hs
        rcases List.mem_cons.mp hs with rfl | hs
        · exact Nat.le_add_left 1 _
        · exact hc.1 s (List.mem_cons_of_mem t hs)
      · intro s hs
        simpa only [stop, hstop] using hc.head hs
    · rw [extend, if_neg hmerge]
      refine ⟨?_, List.pairwise_cons.mpr ⟨?_, hc.2⟩⟩
      · intro s hs
        rcases List.mem_cons.mp hs with rfl | hs
        · exact Nat.le_refl 1
        · exact hc.1 s hs
      · intro s hs
        refine ⟨h s hs, ?_⟩
        rcases List.mem_cons.mp hs with rfl | hs'
        · intro hstart hkind
          exact hmerge ⟨hstart.symm, hkind.symm⟩
        · -- a later span begins behind the first one, which is not empty
          intro hstart
          have hfirst := h t List.mem_cons_self
          have hlength := hc.1 t List.mem_cons_self
          have hle := (hc.head hs').1
          simp only [stop] at hle hstart
          omega

end

lemma spansFrom_start (offset : Nat) (coloring : Coloring) :
    ∀ s ∈ spansFrom offset coloring, offset ≤ s.start := by
  induction coloring generalizing offset with
  | nil => simp [spansFrom]
  | cons head rest ih =>
    cases head with
    | none => exact fun s hs => Nat.le_of_succ_le (ih (offset + 1) s hs)
    | some kind => exact start_extend (ih (offset + 1))

lemma canonical_spansFrom (offset : Nat) (coloring : Coloring) : Canonical (spansFrom offset coloring) := by
  induction coloring generalizing offset with
  | nil => exact ⟨by simp [spansFrom], by simp [spansFrom]⟩
  | cons head rest ih =>
    cases head with
    | none => exact ih (offset + 1)
    | some kind => exact canonical_extend (ih (offset + 1)) (spansFrom_start (offset + 1) rest)

lemma shows_spansFrom (offset : Nat) (coloring : Coloring) (i : Nat) (kind : StyleClass) :
    Shows (spansFrom offset coloring) (offset + i) kind ↔ coloring[i]? = some (some kind) := by
  induction coloring generalizing offset i with
  | nil => simp [spansFrom, shows_nil]
  | cons head rest ih =>
    have hbefore : ¬ Shows (spansFrom (offset + 1) rest) offset kind := by
      rintro ⟨s, hs, hc, -⟩
      have hstart := spansFrom_start (offset + 1) rest s hs
      have hle := (contains_iff.mp hc).1
      omega
    have hlater (j : Nat) :
        Shows (spansFrom (offset + 1) rest) (offset + (j + 1)) kind ↔ rest[j]? = some (some kind) := by
      rw [← ih (offset + 1) j, Nat.add_right_comm, Nat.add_assoc]
    cases head with
    | none =>
      cases i with
      | zero => simpa [spansFrom] using hbefore
      | succ j => rw [spansFrom, hlater, List.getElem?_cons_succ]
    | some k =>
      rw [spansFrom, shows_extend (spansFrom_start (offset + 1) rest)]
      cases i with
      | zero => simp [hbefore, eq_comm]
      | succ j =>
        rw [hlater, List.getElem?_cons_succ]
        simp only [or_iff_right_iff_imp]
        omega

lemma canonical_spans (coloring : Coloring) : Canonical coloring.spans := canonical_spansFrom 0 coloring

lemma shows_spans {coloring : Coloring} {i : Nat} {kind : StyleClass} :
    Shows coloring.spans i kind ↔ coloring[i]? = some (some kind) := by
  simpa [spans] using shows_spansFrom 0 coloring i kind

end Coloring

end Highlighting
