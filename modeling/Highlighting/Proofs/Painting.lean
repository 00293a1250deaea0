import Highlighting.Grammar.Basic
import Highlighting.Proofs.RuleRanges
import Mathlib.Data.List.Induction

/-! Painting a coloring, byte by byte: what was painted last shows. Ranges that lie between characters
leave all bytes of a character in one class. -/

namespace Highlighting

namespace Coloring

def Covered (ranges : List Range) (i : Nat) : Prop := ∃ r ∈ ranges, r.contains i = true

@[simp] lemma length_blank (size : Nat) : (blank size).length = size := by simp [blank]

@[simp] lemma length_paint (coloring : Coloring) (ranges : List Range) (kind : StyleClass) :
    (coloring.paint ranges kind).length = coloring.length := by simp [paint]

section

variable {coloring : Coloring} {ranges : List Range} {i : Nat} {kind : StyleClass}

lemma any_contains : ranges.any (·.contains i) = true ↔ Covered ranges i := by
  simp [Covered]

lemma paint_of_covered (h : Covered ranges i) (hi : i < coloring.length) :
    (coloring.paint ranges kind)[i]? = some (some kind) := by
  rw [paint, List.getElem?_mapIdx, List.getElem?_eq_getElem hi, Option.map_some,
    if_pos (any_contains.mpr h)]

lemma paint_of_not_covered (h : ¬ Covered ranges i) :
    (coloring.paint ranges kind)[i]? = coloring[i]? := by
  rw [paint, List.getElem?_mapIdx]
  cases coloring[i]? with
  | none => rfl
  | some old => rw [Option.map_some, if_neg (mt any_contains.mp h)]

lemma getElem?_paint {text : Text} (hr : ∀ r ∈ ranges, r.Fits text)
    (hl : coloring.length = Text.byteLength text) {k : StyleClass} :
    (coloring.paint ranges kind)[i]? = some (some k) ↔
      (Covered ranges i ∧ kind = k) ∨ (¬ Covered ranges i ∧ coloring[i]? = some (some k)) := by
  by_cases h : Covered ranges i
  · have hi : i < coloring.length := by
      obtain ⟨r, hmem, hc⟩ := h
      have hle := (hr r hmem).stop_le
      have hlt := (Range.contains_iff.mp hc).2
      omega
    rw [paint_of_covered h hi]
    simp [h]
  · rw [paint_of_not_covered h]
    simp [h]

lemma not_blank (size : Nat) : (blank size)[i]? ≠ some (some kind) := by
  simp [blank, List.getElem?_replicate]

end

/-- Two bytes of one character have the same class. -/
def Aligned (coloring : Coloring) (text : Text) : Prop :=
  ∀ i, i + 1 < coloring.length → ¬ text.IsBoundary (i + 1) → coloring[i]? = coloring[i + 1]?

lemma aligned_blank (text : Text) (size : Nat) : (blank size).Aligned text := by
  intro i hi _
  rw [length_blank] at hi
  simp [blank, hi, Nat.lt_of_succ_lt hi]

lemma covered_succ_iff {text : Text} {ranges : List Range} (hr : ∀ r ∈ ranges, r.Fits text) {i : Nat}
    (hi : ¬ text.IsBoundary (i + 1)) : Covered ranges i ↔ Covered ranges (i + 1) := by
  have hrange (r : Range) (hmem : r ∈ ranges) : r.contains i = true ↔ r.contains (i + 1) = true := by
    obtain ⟨-, hstart, hstop⟩ := hr r hmem
    have hstart : r.start ≠ i + 1 := fun h => hi (h ▸ hstart)
    have hstop : r.stop ≠ i + 1 := fun h => hi (h ▸ hstop)
    rw [Range.contains_iff, Range.contains_iff]
    omega
  constructor
  · rintro ⟨r, hmem, h⟩
    exact ⟨r, hmem, (hrange r hmem).mp h⟩
  · rintro ⟨r, hmem, h⟩
    exact ⟨r, hmem, (hrange r hmem).mpr h⟩

lemma Aligned.paint {coloring : Coloring} {text : Text} {ranges : List Range} (hc : coloring.Aligned text)
    (hr : ∀ r ∈ ranges, r.Fits text) (kind : StyleClass) : (coloring.paint ranges kind).Aligned text := by
  intro i hi hb
  rw [length_paint] at hi
  by_cases h : Covered ranges i
  · rw [paint_of_covered h (Nat.lt_of_succ_lt hi), paint_of_covered ((covered_succ_iff hr hb).mp h) hi]
  · rw [paint_of_not_covered h, paint_of_not_covered (mt (covered_succ_iff hr hb).mpr h)]
    exact hc i hi hb

/-- Paints ranges one after another. There is no result if one of them is not a part of the
coloring. -/
def paint? (kind : StyleClass) : Coloring → List Range → Option Coloring
  | coloring, [] => some coloring
  | coloring, r :: rest =>
    if r.start ≤ r.stop ∧ r.stop ≤ coloring.length then paint? kind (coloring.paint [r] kind) rest
    else none

lemma paint_cons (coloring : Coloring) (r : Range) (rest : List Range) (kind : StyleClass) :
    coloring.paint (r :: rest) kind = (coloring.paint [r] kind).paint rest kind := by
  apply List.ext_getElem?
  intro i
  simp only [paint, List.getElem?_mapIdx]
  cases coloring[i]? with
  | none => rfl
  | some old => by_cases h : r.contains i <;> simp [h]

lemma paint?_eq {coloring : Coloring} {text : Text} {ranges : List Range}
    (hr : ∀ r ∈ ranges, r.Fits text) (hl : coloring.length = Text.byteLength text) (kind : StyleClass) :
    paint? kind coloring ranges = some (coloring.paint ranges kind) := by
  induction ranges generalizing coloring with
  | nil =>
    have hnone : coloring.paint [] kind = coloring := by
      apply List.ext_getElem?
      intro i
      exact paint_of_not_covered (by simp [Covered])
    rw [paint?, hnone]
  | cons r rest ih =>
    have hfits := hr r List.mem_cons_self
    have hpainted : (coloring.paint [r] kind).length = Text.byteLength text := by rw [length_paint, hl]
    rw [paint?, if_pos ⟨hfits.1, hl ▸ hfits.stop_le⟩,
      ih (fun q hq => hr q (List.mem_cons_of_mem r hq)) hpainted, ← paint_cons]

end Coloring

namespace Grammar

open Coloring

def LastRule (rules : List Rule) (text : Text) (i : Nat) (kind : StyleClass) : Prop :=
  ∃ before rule behind, rules = before ++ rule :: behind ∧ rule.kind = kind ∧
    Covered (rule.ranges text) i ∧ ∀ later ∈ behind, ¬ Covered (later.ranges text) i

lemma lastRule_append {rules : List Rule} {rule : Rule} {text : Text} {i : Nat} {kind : StyleClass} :
    LastRule (rules ++ [rule]) text i kind ↔
      (Covered (rule.ranges text) i ∧ rule.kind = kind) ∨
        (¬ Covered (rule.ranges text) i ∧ LastRule rules text i kind) := by
  constructor
  · rintro ⟨before, last, behind, hrules, hkind, hcovered, hlater⟩
    rcases List.eq_nil_or_concat behind with rfl | ⟨behind, last', rfl⟩
    · obtain ⟨rfl, h⟩ := List.append_inj' hrules rfl
      obtain rfl := List.singleton_inj.mp h
      exact Or.inl ⟨hcovered, hkind⟩
    · rw [List.concat_eq_append, ← List.cons_append, ← List.append_assoc] at hrules
      obtain ⟨rfl, h⟩ := List.append_inj' hrules rfl
      obtain rfl := List.singleton_inj.mp h
      refine Or.inr ⟨hlater rule (by simp), before, last, behind, rfl, hkind, hcovered, ?_⟩
      intro later hmem
      exact hlater later (by simp [hmem])
  · rintro (⟨hcovered, hkind⟩ | ⟨hnot, before, last, behind, rfl, hkind, hcovered, hlater⟩)
    · exact ⟨rules, rule, [], rfl, hkind, hcovered, by simp⟩
    · refine ⟨before, last, behind ++ [rule], by simp, hkind, hcovered, ?_⟩
      intro later hmem
      rcases List.mem_append.mp hmem with hmem | hmem
      · exact hlater later hmem
      · rwa [List.mem_singleton.mp hmem]

def paintAll (rules : List Rule) (text : Text) : Coloring :=
  rules.foldl (fun coloring rule => coloring.paint (rule.ranges text) rule.kind)
    (blank (Text.byteLength text))

lemma paintRules_eq (g : Grammar) (text : Text) : g.paintRules text = paintAll g.rules text := rfl

lemma paintAll_append (rules : List Rule) (rule : Rule) (text : Text) :
    paintAll (rules ++ [rule]) text = (paintAll rules text).paint (rule.ranges text) rule.kind := by
  simp [paintAll]

@[simp] lemma length_paintAll (rules : List Rule) (text : Text) :
    (paintAll rules text).length = Text.byteLength text := by
  induction rules using List.reverseRecOn with
  | nil => simp [paintAll]
  | append_singleton rules rule ih => rw [paintAll_append, length_paint, ih]

lemma aligned_paintAll (rules : List Rule) (text : Text) : (paintAll rules text).Aligned text := by
  induction rules using List.reverseRecOn with
  | nil => exact aligned_blank text _
  | append_singleton rules rule ih =>
    rw [paintAll_append]
    exact ih.paint (fun r hr => Rule.fits_of_mem_ranges hr) rule.kind

lemma getElem?_paintAll {rules : List Rule} {text : Text} {i : Nat} {kind : StyleClass} :
    (paintAll rules text)[i]? = some (some kind) ↔ LastRule rules text i kind := by
  induction rules using List.reverseRecOn with
  | nil => simp [paintAll, not_blank, LastRule]
  | append_singleton rules rule ih =>
    rw [paintAll_append, lastRule_append, ← ih]
    exact getElem?_paint (fun r hr => Rule.fits_of_mem_ranges hr) (length_paintAll rules text)

lemma paint?_rules (rules : List Rule) (text : Text) :
    rules.foldlM (fun coloring rule => paint? rule.kind coloring (rule.ranges text))
      (blank (Text.byteLength text)) = some (paintAll rules text) := by
  induction rules using List.reverseRecOn with
  | nil => rfl
  | append_singleton rules rule ih =>
    rw [List.foldlM_append, ih, paintAll_append]
    simp [paint?_eq (fun r hr => Rule.fits_of_mem_ranges hr) (length_paintAll rules text) rule.kind]

end Grammar

end Highlighting
