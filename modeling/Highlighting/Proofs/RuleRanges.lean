import Highlighting.Rule
import Highlighting.Proofs.Succession
import Mathlib.Data.List.Forall2

/-! The ranges that a rule paints. Each comes from a match of its own and lies inside of it, so that they follow one
another as the matches do. -/

namespace Highlighting

lemma Ending.openedAt?_eq_none {i : Nat} {e : Ending} :
    e.openedAt? i = none ↔ ∀ offset, Mark.opened i offset ∉ e.marks := by
  simp only [openedAt?, List.findSome?_eq_none_iff, List.mem_reverse]
  constructor
  · intro h offset hm
    simpa using h _ hm
  · intro h mark hm
    cases mark with
    | opened j offset =>
      have hj : j ≠ i := by
        rintro rfl
        exact h offset hm
      simp [hj]
    | closed j offset => rfl

def Match.Enters (m : Match) (i : Nat) : Prop := i = 0 ∨ ∃ offset, Mark.opened i offset ∈ m.ending.marks

namespace Pattern

section

variable {p : Pattern} {text : Text} {m : Match} {i : Nat}

lemma IsMatch.group?_eq_none (h : p.IsMatch text m) : m.group? i = none ↔ ¬ m.Enters i := by
  by_cases hi : i = 0
  · simp [Match.group?, Match.Enters, hi]
  · obtain ⟨c, d, -, hp, -⟩ := h.path
    have henters : m.ending.openedAt? i = none ↔ ¬ m.Enters i := by
      rw [Ending.openedAt?_eq_none, Match.Enters, or_iff_right hi, not_exists]
    rw [← henters, Match.group?, if_neg hi]
    -- a group that is opened on the way is closed as well
    rcases hp.group_cursors i m.ending.stop with ⟨ho, -⟩ | ⟨x, y, -, -, -, ho, hc⟩
    · simp [ho]
    · simp [ho, hc]

lemma IsMatch.eq_zero_or_mem_groups (h : p.IsMatch text m) (hi : m.Enters i) : i = 0 ∨ i ∈ p.groups := by
  obtain ⟨c, d, -, hp, -⟩ := h.path
  exact hi.imp_right fun ⟨_, hm⟩ => hp.mem_of_opened hm

end

end Pattern

namespace Rule

open Pattern

section

variable {rule : Rule} {text : Text} {r : Range}

lemma ranges_eq (hrule : rule.group = none) (text : Text) :
    rule.ranges text = ((rule.pattern.findAll text).map (·.range)).filter (!·.isEmpty) := by
  rw [ranges, hrule]

lemma mem_ranges (hrule : rule.group = none) :
    r ∈ rule.ranges text ↔ (∃ m ∈ rule.pattern.findAll text, m.range = r) ∧ r.start < r.stop := by
  rw [ranges_eq hrule, List.mem_filter, List.mem_map]
  simp [Range.isEmpty]

lemma ranges_eq_filterMap (rule : Rule) (text : Text) : rule.ranges text =
    (rule.pattern.findAll text).filterMap fun m => (m.group? (rule.group.getD 0)).filter (!·.isEmpty) := by
  rw [← List.filter_filterMap, ranges]
  cases rule.group with
  | none => rw [← List.filterMap_eq_map]; rfl
  | some i => rfl

lemma mem_ranges_iff : r ∈ rule.ranges text ↔
    ∃ m ∈ rule.pattern.findAll text, m.group? (rule.group.getD 0) = some r ∧ r.start < r.stop := by
  simp [ranges_eq_filterMap, Range.isEmpty]

lemma fits_of_mem_ranges (h : r ∈ rule.ranges text) : r.Fits text := by
  obtain ⟨m, hm, hgroup, -⟩ := mem_ranges_iff.mp h
  exact ((isMatch_of_mem_findAll hm).group_fits hgroup).1

lemma ranges_ordered (rule : Rule) (text : Text) :
    (rule.ranges text).Pairwise fun a b => a.stop ≤ b.start := by
  rw [ranges_eq_filterMap, List.pairwise_filterMap]
  refine (findAll_pairwise rule.pattern text).imp_of_mem fun {m n} hm hn hmn a ha b hb => ?_
  have ha := ((isMatch_of_mem_findAll hm).group_fits (Option.filter_eq_some_iff.mp ha).1).2.2
  have hb := ((isMatch_of_mem_findAll hn).group_fits (Option.filter_eq_some_iff.mp hb).1).2.1
  exact Nat.le_trans ha (Nat.le_trans hmn.2 hb)

/-- Some of the matches that a search has found, each with the part of it that a group has matched. -/
structure Parts (i : Nat) (found ms : List Match) (ranges : List Range) : Prop where
  sublist : ms.Sublist found
  ordered : ms.Pairwise fun m n => m.start < n.start ∧ m.ending.stop ≤ n.start
  within : List.Forall₂ (fun m r => m.group? i = some r ∧ m.start ≤ r.start ∧ r.stop ≤ m.ending.stop) ms ranges
  leftOut : ∀ m ∈ found, m ∉ ms ↔ ¬ m.Enters i ∨ ∃ offset, m.group? i = some ⟨offset, offset⟩

lemma forall₂_filterMap {α β : Type} {related : α → β → Prop} {f : α → Option β} {l : List α}
    (h : ∀ a ∈ l, ∀ b, f a = some b → related a b) :
    List.Forall₂ related (l.filter fun a => (f a).isSome) (l.filterMap f) := by
  induction l with
  | nil => exact .nil
  | cons a l ih =>
    obtain ⟨ha, hl⟩ := List.forall_mem_cons.mp h
    cases hf : f a with
    | none => simpa [hf] using ih hl
    | some b => simpa [hf] using ⟨ha b hf, ih hl⟩

lemma group?_filter_eq_none {p : Pattern} {m : Match} {i : Nat} (h : p.IsMatch text m) :
    (m.group? i).filter (!·.isEmpty) = none ↔ ¬ m.Enters i ∨ ∃ offset, m.group? i = some ⟨offset, offset⟩ := by
  rw [← h.group?_eq_none]
  cases hr : m.group? i with
  | none => simp
  | some r =>
    obtain ⟨start, stop⟩ := r
    have hle : start ≤ stop := (h.group_fits hr).1.1
    have hempty : Range.isEmpty ⟨start, stop⟩ = true ↔ start = stop := by
      simp only [Range.isEmpty, decide_eq_true_eq]
      omega
    simpa [hempty] using eq_comm

lemma parts_ranges (rule : Rule) (i : Nat) (text : Text) :
    ∃ ms, Parts i (rule.pattern.findAll text) ms ((rule.withGroup i).ranges text) := by
  let part (m : Match) : Option Range := (m.group? i).filter (!·.isEmpty)
  have hranges : (rule.withGroup i).ranges text = (rule.pattern.findAll text).filterMap part :=
    ranges_eq_filterMap _ text
  have hsublist := List.filter_sublist (p := fun m => (part m).isSome) (l := rule.pattern.findAll text)
  refine ⟨_, hsublist, (findAll_pairwise rule.pattern text).sublist hsublist, ?_, fun m hm => ?_⟩
  · rw [hranges]
    refine forall₂_filterMap fun m hm r hr => ?_
    have hgroup : m.group? i = some r := (Option.filter_eq_some_iff.mp hr).1
    exact ⟨hgroup, ((isMatch_of_mem_findAll hm).group_fits hgroup).2⟩
  · rw [List.mem_filter, not_and, imp_iff_right hm, Option.not_isSome_iff_eq_none]
    exact group?_filter_eq_none (isMatch_of_mem_findAll hm)

lemma ranges_withGroup_zero (rule : Rule) (text : Text) :
    (rule.withGroup 0).ranges text = ranges { rule with group := none } text := by
  rw [ranges_eq_filterMap, ranges_eq_filterMap]
  rfl

lemma ranges_withGroup_eq_nil {i : Nat} (hi : i ≠ 0) (hgroup : i ∉ rule.pattern.groups) (text : Text) :
    (rule.withGroup i).ranges text = [] := by
  refine List.eq_nil_iff_forall_not_mem.mpr fun r hr => ?_
  obtain ⟨m, hm, hr, -⟩ := mem_ranges_iff.mp hr
  have hmatch := isMatch_of_mem_findAll hm
  have henters : m.Enters i := by
    by_contra h
    have hnone : m.group? i = none := hmatch.group?_eq_none.mpr h
    exact Option.some_ne_none r (hr.symm.trans hnone)
  exact (hmatch.eq_zero_or_mem_groups henters).elim hi hgroup

end

/-- A rule paints ranges that are not empty, lie between characters and follow one another. With a group they are
its parts of some of the matches, all of which count for group 0 and none for a group that the pattern lacks. -/
theorem ranges_within_matches (rule : Rule) (text : Text) :
    (∀ r ∈ rule.ranges text, r.start < r.stop ∧ r.Fits text) ∧
    ((rule.ranges text).Pairwise fun a b => a.start < b.start ∧ a.stop ≤ b.start) ∧
    (∀ i, ∃ ms, Parts i (rule.pattern.findAll text) ms ((rule.withGroup i).ranges text)) ∧
    (rule.withGroup 0).ranges text = ranges { rule with group := none } text ∧
    ∀ i, i ≠ 0 → i ∉ rule.pattern.groups → (rule.withGroup i).ranges text = [] := by
  have hlt {r : Range} (hr : r ∈ rule.ranges text) : r.start < r.stop := by
    obtain ⟨m, -, -, hlt⟩ := mem_ranges_iff.mp hr
    exact hlt
  refine ⟨fun r hr => ⟨hlt hr, fits_of_mem_ranges hr⟩, ?_, fun i => parts_ranges rule i text,
    ranges_withGroup_zero rule text, fun i hi hgroup => ranges_withGroup_eq_nil hi hgroup text⟩
  exact (ranges_ordered rule text).imp_of_mem fun ha _ hab => ⟨Nat.lt_of_lt_of_le (hlt ha) hab, hab⟩

theorem ranges_of_one_part : ∃ rule, ofText "part" "(a*)b|c".toList .keyword = .ok rule ∧
    (rule.withGroup 0).ranges "b c aab".toList = [⟨0, 1⟩, ⟨2, 3⟩, ⟨4, 7⟩] ∧
    (rule.withGroup 1).ranges "b c aab".toList = [⟨4, 6⟩] ∧
    (rule.withGroup 2).ranges "b c aab".toList = [] := by
  have hrule : ofText "part" "(a*)b|c".toList .keyword =
      .ok ⟨"part", .alt (.seq (.group 1 (.star (.char 'a') true)) (.char 'b')) (.char 'c'), .keyword, none⟩ := by
    decide +kernel
  obtain ⟨-, -, -, hzero, habsent⟩ := ranges_within_matches
    ⟨"part", .alt (.seq (.group 1 (.star (.char 'a') true)) (.char 'b')) (.char 'c'), .keyword, none⟩ "b c aab".toList
  refine ⟨_, hrule, ?_, by decide +kernel, habsent 2 (by decide) (by decide)⟩
  rw [hzero]
  decide +kernel

end Rule

end Highlighting
