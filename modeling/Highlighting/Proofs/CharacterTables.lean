import Highlighting.CharSet.Basic
import Mathlib.Algebra.Group.Nat.Defs
import Mathlib.Data.List.Chain

/-! The tables of Unicode data as sets and relations of characters: bisection finds what a sorted table holds,
the case variants of a character are those with its folded form, and folding makes no other character of a
word character. -/

namespace Highlighting.Unicode

namespace Ranges

def Before (a b : Nat × Nat) : Prop := a.1 ≤ a.2 ∧ a.2 < b.1

instance (a b : Nat × Nat) : Decidable (Before a b) := inferInstanceAs (Decidable (_ ∧ _))

instance : IsTrans (Nat × Nat) Before :=
  ⟨fun _ _ _ hab hbc => ⟨hab.1, Nat.lt_trans (Nat.lt_of_lt_of_le hab.2 hbc.1) hbc.2⟩⟩

def Sorted (table : Ranges) : Prop :=
  ∀ i j (hi : i < table.size) (hj : j < table.size), i < j → Before table[i] table[j]

lemma sorted_of_isChain {table : Ranges} (h : table.toList.IsChain Before) : table.Sorted := by
  intro i j hi hj hij
  have hpairwise := List.isChain_iff_pairwise.mp h
  exact List.pairwise_iff_getElem.mp hpairwise i j hi hj hij

/-- Each round halves the stretch that the range of `n` lies in. -/
lemma search_of_mem {table : Ranges} (hs : table.Sorted) {n i : Nat} (hi : i < table.size)
    (hfirst : table[i].1 ≤ n) (hlast : n ≤ table[i].2) {rounds lo hi' : Nat} (hlo : lo ≤ i) (hlt : i < hi')
    (hsize : hi' ≤ table.size) (hrounds : hi' - lo < 2 ^ rounds) : table.search n rounds lo hi' = true := by
  induction rounds generalizing lo hi' with
  | zero =>
    rw [Nat.pow_zero] at hrounds
    omega
  | succ rounds ih =>
    rw [Nat.pow_succ] at hrounds
    have hmiddle : (lo + hi') / 2 < table.size := by omega
    rw [search, Array.getElem?_eq_getElem hmiddle]
    simp only [Nat.not_le.mpr (Nat.lt_of_le_of_lt hlo hlt), if_false]
    rcases Nat.lt_trichotomy ((lo + hi') / 2) i with hlower | heq | hupper
    · have hbefore := hs _ _ hmiddle hi hlower
      rw [Before] at hbefore
      rw [if_neg (by omega), if_pos (by omega)]
      exact ih (by omega) hlt hsize (by omega)
    · simp only [heq]
      rw [if_neg (by omega), if_neg (by omega)]
    · have hbefore := hs _ _ hi hmiddle hupper
      rw [Before] at hbefore
      rw [if_pos (by omega)]
      exact ih hlo hupper (by omega) (by omega)

lemma contains_of_mem {table : Ranges} (hs : table.Sorted) {r : Nat × Nat} (hr : r ∈ table) {n : Nat}
    (hfirst : r.1 ≤ n) (hlast : n ≤ r.2) : table.contains n = true := by
  obtain ⟨i, hi, rfl⟩ := Array.mem_iff_getElem.mp hr
  exact search_of_mem hs hi hfirst hlast (Nat.zero_le i) hi (Nat.le_refl _) Nat.lt_log2_self

lemma exists_of_search {table : Ranges} {n rounds lo hi : Nat} (h : table.search n rounds lo hi = true) :
    ∃ r ∈ table, r.1 ≤ n ∧ n ≤ r.2 := by
  induction rounds generalizing lo hi with
  | zero => cases h
  | succ rounds ih =>
    rw [search] at h
    split at h
    · cases h
    · next first last hmiddle =>
      split_ifs at h with hempty hlower hupper
      · exact ih h
      · exact ih h
      · exact ⟨(first, last), Array.mem_of_getElem? hmiddle, Nat.not_lt.mp hlower, Nat.not_lt.mp hupper⟩

end Ranges

namespace FoldRun

variable {r s : FoldRun} {n k : Nat}

lemma image?_eq_some : r.image? n = some k ↔
    (r.first ≤ n ∧ n ≤ r.last ∧ (n - r.first) % r.step = 0) ∧ r.target + (n - r.first) = k := by
  simp [image?]

lemma preimage?_eq_some (hr : r.first ≤ r.last) : r.preimage? k = some n ↔ r.image? n = some k := by
  rw [image?_eq_some]
  simp only [preimage?, Option.ite_none_right_eq_some, Option.some.injEq]
  constructor
  · rintro ⟨⟨htarget, hlast, hstep⟩, rfl⟩
    rw [Nat.add_sub_cancel_left]
    exact ⟨⟨by omega, by omega, hstep⟩, by omega⟩
  · rintro ⟨⟨hfirst, hlast, hstep⟩, rfl⟩
    rw [Nat.add_sub_cancel_left]
    exact ⟨⟨by omega, by omega, hstep⟩, by omega⟩

def Valid (r : FoldRun) : Bool :=
  r.first.ble r.last && (r.last.blt 0xD800 || (Nat.blt 0xDFFF r.first && r.last.blt 0x110000)) &&
    ((r.target + (r.last - r.first)).blt 0xD800 ||
      (Nat.blt 0xDFFF r.target && (r.target + (r.last - r.first)).blt 0x110000))

def Lettered (r : FoldRun) : Bool :=
  (Nat.ble 0x80 r.first || (Nat.ble 0x41 r.first && r.last.ble 0x5A)) &&
    (Nat.ble 0x80 r.target || (Nat.ble 0x61 r.target && (r.target + (r.last - r.first)).ble 0x7A))

/-- What one run maps to is not mapped by another: their intervals do not meet, or even numbers are on
one side and odd ones on the other. -/
def Apart (r s : FoldRun) : Bool :=
  (r.target + (r.last - r.first)).blt s.first || s.last.blt r.target ||
    (s.step.beq 2 && (r.step.beq 2 || r.first.beq r.last) && ((r.target + s.first) % 2).beq 1)

lemma Apart.image?_eq_none (h : r.Apart s = true) (hk : r.image? n = some k) : s.image? k = none := by
  obtain ⟨⟨hfirst, hlast, hstep⟩, rfl⟩ := image?_eq_some.mp hk
  rw [Option.eq_none_iff_forall_not_mem]
  intro j hj
  obtain ⟨⟨hfirst', hlast', hstep'⟩, -⟩ := image?_eq_some.mp hj
  simp only [Apart, Bool.or_eq_true, Bool.and_eq_true, Nat.blt_eq, Nat.beq_eq] at h
  rcases h with (h | h) | ⟨⟨htwo, hr⟩, hodd⟩
  · omega
  · omega
  · rw [htwo] at hstep'
    rcases hr with hr | hr
    · rw [hr] at hstep
      omega
    · omega

end FoldRun

def wordsBetween (first last : Nat) : Bool :=
  (wordRanges.toList.find? fun x => first.ble x.2).any fun x => x.1.ble first && last.ble x.2

theorem wordRanges_increasing : wordRanges.toList.IsChain Ranges.Before := by decide +kernel

theorem wordsBetween_digits : (digitRanges.toList.all fun r => wordsBetween r.1 r.2) = true := by
  decide +kernel

structure WellFolded (runs : List FoldRun) : Prop where
  increasing : runs.IsChain fun r s => r.first ≤ r.last ∧ r.last < s.first
  valid : runs.all (·.Valid) = true
  lettered : runs.all (·.Lettered) = true
  apart : (runs.all fun r => runs.all r.Apart) = true
  targets : (runs.all fun r => wordsBetween r.target (r.target + (r.last - r.first))) = true
  sources : (runs.all fun r => wordsBetween r.first r.last ||
    (List.range (r.last - r.first + 1)).all fun i =>
      Nat.blt 0 (i % r.step) || wordsBetween (r.first + i) (r.first + i)) = true

theorem wellFolded_foldRuns : WellFolded foldRuns where
  increasing := by decide +kernel
  valid := by decide +kernel
  lettered := by decide +kernel
  apart := by decide +kernel
  targets := by decide +kernel
  sources := by decide +kernel

section

variable {r : FoldRun} {n k : Nat}

lemma valid_of_image? (hr : r ∈ foldRuns) (h : r.image? n = some k) : n.isValidChar ∧ k.isValidChar := by
  obtain ⟨⟨hfirst, hlast, -⟩, rfl⟩ := FoldRun.image?_eq_some.mp h
  have hvalid := List.all_eq_true.mp wellFolded_foldRuns.valid r hr
  simp only [FoldRun.Valid, Bool.or_eq_true, Bool.and_eq_true, Nat.blt_eq, Nat.ble_eq] at hvalid
  simp only [Nat.isValidChar]
  omega

lemma first_le_last (hr : r ∈ foldRuns) : r.first ≤ r.last := by
  have hvalid := List.all_eq_true.mp wellFolded_foldRuns.valid r hr
  simp only [FoldRun.Valid, Bool.and_eq_true, Nat.ble_eq] at hvalid
  exact hvalid.1.1

lemma lettered_of_image? (hr : r ∈ foldRuns) (h : r.image? n = some k) :
    (n < 0x80 → 0x41 ≤ n ∧ n ≤ 0x5A) ∧ (k < 0x80 → 0x61 ≤ k ∧ k ≤ 0x7A) := by
  obtain ⟨⟨hfirst, hlast, -⟩, rfl⟩ := FoldRun.image?_eq_some.mp h
  have hlettered := List.all_eq_true.mp wellFolded_foldRuns.lettered r hr
  simp only [FoldRun.Lettered, Bool.or_eq_true, Bool.and_eq_true, Nat.ble_eq] at hlettered
  omega

lemma image?_unique {s : FoldRun} {j : Nat} (hr : r ∈ foldRuns) (hs : s ∈ foldRuns)
    (hk : r.image? n = some k) (hj : s.image? n = some j) : j = k := by
  have htrans : IsTrans FoldRun fun r s => r.first ≤ r.last ∧ r.last < s.first :=
    ⟨fun a b c hab hbc => by omega⟩
  have hmeet {a b : FoldRun} {x y : Nat} (ha : a.image? n = some x) (hb : b.image? n = some y) :
      ¬ (a.first ≤ a.last ∧ a.last < b.first) := by
    have hna := (FoldRun.image?_eq_some.mp ha).1
    have hnb := (FoldRun.image?_eq_some.mp hb).1
    omega
  obtain ⟨i, hi, rfl⟩ := List.mem_iff_getElem.mp hr
  obtain ⟨i', hi', rfl⟩ := List.mem_iff_getElem.mp hs
  have hpairwise := List.pairwise_iff_getElem.mp (List.isChain_iff_pairwise.mp wellFolded_foldRuns.increasing)
  rcases Nat.lt_trichotomy i i' with hlt | rfl | hlt
  · exact (hmeet hk hj (hpairwise i i' hi hi' hlt)).elim
  · exact Option.some.inj (hj.symm.trans hk)
  · exact (hmeet hj hk (hpairwise i' i hi' hi hlt)).elim

lemma foldCase_of_image? (hr : r ∈ foldRuns) (h : r.image? n = some k) : foldCase n = k := by
  rw [foldCase]
  cases hfound : foldRuns.findSome? (·.image? n) with
  | none =>
    rw [List.findSome?_eq_none_iff] at hfound
    rw [hfound r hr] at h
    cases h
  | some j =>
    obtain ⟨s, hs, hj⟩ := List.exists_of_findSome?_eq_some hfound
    exact image?_unique hr hs h hj

lemma foldCase_of_none (h : ∀ r ∈ foldRuns, r.image? n = none) : foldCase n = n := by
  rw [foldCase, List.findSome?_eq_none_iff.mpr h, Option.getD_none]

lemma foldCase_cases (n : Nat) : (∃ r ∈ foldRuns, r.image? n = some (foldCase n)) ∨ foldCase n = n := by
  by_cases h : ∀ r ∈ foldRuns, r.image? n = none
  · exact Or.inr (foldCase_of_none h)
  · simp only [not_forall, ← Option.isSome_iff_ne_none] at h
    obtain ⟨r, hr, hsome⟩ := h
    obtain ⟨k, hk⟩ := Option.isSome_iff_exists.mp hsome
    exact Or.inl ⟨r, hr, by rw [hk, foldCase_of_image? hr hk]⟩

lemma foldCase_foldCase (n : Nat) : foldCase (foldCase n) = foldCase n := by
  rcases foldCase_cases n with ⟨r, hr, hk⟩ | h
  · refine foldCase_of_none fun s hs => ?_
    have hapart := List.all_eq_true.mp (List.all_eq_true.mp wellFolded_foldRuns.apart r hr) s hs
    exact FoldRun.Apart.image?_eq_none hapart hk
  · rw [h, h]

lemma foldCase_eq_iff {m : Nat} :
    foldCase m = foldCase n ↔ m = foldCase n ∨ ∃ r ∈ foldRuns, r.image? m = some (foldCase n) := by
  constructor
  · intro h
    rcases foldCase_cases m with ⟨r, hr, hk⟩ | hm
    · exact Or.inr ⟨r, hr, by rw [hk, h]⟩
    · exact Or.inl (hm.symm.trans h)
  · rintro (rfl | ⟨r, hr, hk⟩)
    · exact foldCase_foldCase n
    · exact foldCase_of_image? hr hk

end

lemma isAlpha_iff {c : Char} : c.isAlpha = true ↔
    (0x41 ≤ c.toNat ∧ c.toNat ≤ 0x5A) ∨ (0x61 ≤ c.toNat ∧ c.toNat ≤ 0x7A) := by
  have hval : c.val.toNat = c.toNat := rfl
  have hletters : 'A'.val.toNat = 0x41 ∧ 'Z'.val.toNat = 0x5A ∧ 'a'.val.toNat = 0x61 ∧
      'z'.val.toNat = 0x7A := by decide
  unfold Char.isAlpha Char.isUpper Char.isLower
  simp only [Bool.or_eq_true, Bool.and_eq_true, decide_eq_true_eq, UInt32.le_iff_toNat_le, ge_iff_le]
  omega

lemma foldCase_eq_iff_of_ascii {c d : Char} (hascii : c.toNat < 0x80) (hletter : c.isAlpha = false) :
    foldCase d.toNat = foldCase c.toNat ↔ d = c := by
  have hcode : ¬ (0x41 ≤ c.toNat ∧ c.toNat ≤ 0x5A) ∧ ¬ (0x61 ≤ c.toNat ∧ c.toNat ≤ 0x7A) := by
    rw [← not_or, ← isAlpha_iff, hletter]
    decide
  have hself : foldCase c.toNat = c.toNat := by
    rcases foldCase_cases c.toNat with ⟨r, hr, hk⟩ | h
    · exact (hcode.1 ((lettered_of_image? hr hk).1 hascii)).elim
    · exact h
  rw [foldCase_eq_iff, hself]
  constructor
  · rintro (h | ⟨r, hr, hk⟩)
    · exact Char.toNat_inj.mp h
    · exact (hcode.2 ((lettered_of_image? hr hk).2 hascii)).elim
  · rintro rfl
    exact Or.inl rfl

lemma toNat_ofNat {n : Nat} (h : n.isValidChar) : (Char.ofNat n).toNat = n := by
  rw [Char.ofNat, dif_pos h]
  rfl

lemma mem_caseVariants {c d : Char} : d ∈ caseVariants c ↔ foldCase d.toNat = foldCase c.toNat := by
  rw [caseVariants]
  by_cases hplain : (c.toNat < 0x80 && !c.isAlpha) = true
  · rw [if_pos hplain, List.mem_singleton]
    simp only [Bool.and_eq_true, decide_eq_true_eq, Bool.not_eq_true'] at hplain
    exact (foldCase_eq_iff_of_ascii hplain.1 hplain.2).symm
  · rw [if_neg hplain, foldCase_eq_iff, List.mem_cons, List.mem_map]
    have hvalid : (foldCase c.toNat).isValidChar := by
      rcases foldCase_cases c.toNat with ⟨r, hr, hk⟩ | h
      · exact (valid_of_image? hr hk).2
      · rw [h]
        exact c.valid
    refine or_congr ?_ ?_
    · rw [← Char.toNat_inj, toNat_ofNat hvalid]
    · constructor
      · rintro ⟨n, hn, rfl⟩
        obtain ⟨r, hr, hpre⟩ := List.mem_filterMap.mp hn
        have hk := (FoldRun.preimage?_eq_some (first_le_last hr)).mp hpre
        exact ⟨r, hr, by rw [toNat_ofNat (valid_of_image? hr hk).1, hk]⟩
      · rintro ⟨r, hr, hk⟩
        refine ⟨d.toNat, List.mem_filterMap.mpr ⟨r, hr, ?_⟩, Char.ofNat_toNat d⟩
        exact (FoldRun.preimage?_eq_some (first_le_last hr)).mpr hk

section

variable {c d : Char} {r : FoldRun} {n k : Nat}

lemma isWord_of_letter (hascii : c.toNat < 0x80)
    (h : (0x41 ≤ c.toNat ∧ c.toNat ≤ 0x5A) ∨ (0x61 ≤ c.toNat ∧ c.toNat ≤ 0x7A)) : isWord c = true := by
  simp only [isWord, hascii, if_true, Char.isAlphanum, isAlpha_iff.mpr h, Bool.true_or]

lemma isWord_of_wordsBetween {first last : Nat} (h : wordsBetween first last = true)
    (hfirst : first ≤ c.toNat) (hlast : c.toNat ≤ last) (hascii : ¬ c.toNat < 0x80) : isWord c = true := by
  obtain ⟨x, hx, hbetween⟩ := (Option.any_eq_true _ _).mp h
  have hmem : x ∈ wordRanges := by simpa using List.mem_of_find?_eq_some hx
  simp only [Bool.and_eq_true, Nat.ble_eq] at hbetween
  rw [isWord, if_neg hascii]
  exact Ranges.contains_of_mem (Ranges.sorted_of_isChain wordRanges_increasing) hmem (by omega) (by omega)

lemma isWord_of_isDigit (h : isDigit c = true) : isWord c = true := by
  by_cases hascii : c.toNat < 0x80
  · rw [isDigit, if_pos hascii] at h
    simp only [isWord, hascii, if_true, Char.isAlphanum, h, Bool.or_true, Bool.true_or]
  · rw [isDigit, if_neg hascii] at h
    obtain ⟨x, hx, hfirst, hlast⟩ := Ranges.exists_of_search h
    have hwords := List.all_eq_true.mp wordsBetween_digits x (by simpa using hx)
    exact isWord_of_wordsBetween hwords hfirst hlast hascii

lemma isWord_of_source (hr : r ∈ foldRuns) (h : r.image? c.toNat = some k) : isWord c = true := by
  by_cases hascii : c.toNat < 0x80
  · exact isWord_of_letter hascii (Or.inl ((lettered_of_image? hr h).1 hascii))
  · obtain ⟨⟨hfirst, hlast, hstep⟩, -⟩ := FoldRun.image?_eq_some.mp h
    have hwords := List.all_eq_true.mp wellFolded_foldRuns.sources r hr
    rw [Bool.or_eq_true, List.all_eq_true] at hwords
    rcases hwords with hwords | hwords
    · exact isWord_of_wordsBetween hwords hfirst hlast hascii
    · have hpoint := hwords (c.toNat - r.first) (List.mem_range.mpr (by omega))
      rw [hstep, Nat.add_sub_cancel' hfirst] at hpoint
      exact isWord_of_wordsBetween hpoint (Nat.le_refl _) (Nat.le_refl _) hascii

lemma isWord_of_target (hr : r ∈ foldRuns) (h : r.image? n = some c.toNat) : isWord c = true := by
  by_cases hascii : c.toNat < 0x80
  · exact isWord_of_letter hascii (Or.inr ((lettered_of_image? hr h).2 hascii))
  · obtain ⟨⟨hfirst, hlast, -⟩, hc⟩ := FoldRun.image?_eq_some.mp h
    have hwords := List.all_eq_true.mp wellFolded_foldRuns.targets r hr
    exact isWord_of_wordsBetween hwords (by omega) (by omega) hascii

lemma isWord_eq_of_foldCase_eq (h : foldCase c.toNat = foldCase d.toNat) : isWord c = isWord d := by
  rcases foldCase_cases c.toNat with ⟨r, hr, hc⟩ | hc
  · have hword := isWord_of_source hr hc
    rcases foldCase_cases d.toNat with ⟨s, hs, hd⟩ | hd
    · rw [hword, isWord_of_source hs hd]
    · rw [h, hd] at hc
      rw [hword, isWord_of_target hr hc]
  · rcases foldCase_cases d.toNat with ⟨s, hs, hd⟩ | hd
    · rw [← h, hc] at hd
      rw [isWord_of_target hs hd, isWord_of_source hs (by rw [hd])]
    · rw [Char.toNat_inj.mp (hc.symm.trans (h.trans hd))]

end

end Highlighting.Unicode
