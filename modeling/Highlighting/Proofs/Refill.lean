import Highlighting.Proofs.CacheCoherence
import Highlighting.Proofs.Matching
import Mathlib.Data.List.TakeDrop

/-! One refresh of a cache. It goes through the blocks with the state that each entry leaves for the next,
computes those that are not known from this state and keeps the slots of all others. -/

namespace Highlighting

namespace Range

structure IsHull (r : Range) (p : Nat → Prop) : Prop where
  holds : ∀ i, p i → r.contains i = true
  least : ∀ other : Range, (∃ i, p i) → (∀ i, p i → other.contains i = true) →
    other.start ≤ r.start ∧ r.stop ≤ other.stop
  empty : (∀ i, ¬ p i) → r = ⟨0, 0⟩

end Range

namespace DocumentCache

section Hull

variable {flags : List Bool}

lemma hull_eq_of_none (h : ∀ i : Nat, flags[i]? ≠ some true) : hull flags = ⟨0, 0⟩ := by
  have hnone : flags.findIdx? id = none := by
    refine List.findIdx?_eq_none_iff.mpr fun b hb => ?_
    obtain ⟨i, hi⟩ := List.mem_iff_getElem?.mp hb
    cases b with
    | false => rfl
    | true => exact (h i hi).elim
  rw [hull, hnone]

lemma hull_eq_of_some {i : Nat} (h : flags[i]? = some true) : ∃ first last : Nat,
    flags[first]? = some true ∧ flags[last]? = some true ∧ hull flags = ⟨first, last + 1⟩ ∧
      ∀ j : Nat, flags[j]? = some true → first ≤ j ∧ j ≤ last := by
  have hmem : true ∈ flags := List.mem_iff_getElem?.mpr ⟨i, h⟩
  cases hfirst : flags.findIdx? id with
  | none => exact absurd (List.findIdx?_eq_none_iff.mp hfirst true hmem) (by simp)
  | some first =>
    obtain ⟨hlt, htrue, hbefore⟩ := List.findIdx?_eq_some_iff_getElem.mp hfirst
    -- the last `true` is the first one of the list read backwards
    have hlast : flags.reverse.findIdx id < flags.reverse.length :=
      List.findIdx_lt_length.mpr ⟨true, List.mem_reverse.mpr hmem, rfl⟩
    have hlasttrue : flags.reverse[flags.reverse.findIdx id] = true := List.findIdx_getElem (p := id)
    have hlength : flags.reverse.length = flags.length := List.length_reverse
    refine ⟨first, flags.length - 1 - flags.reverse.findIdx id, ?_, ?_, ?_, fun j hj => ⟨?_, ?_⟩⟩
    · rw [List.getElem?_eq_getElem hlt]
      exact congrArg some htrue
    · rw [← List.getElem?_reverse (by omega), List.getElem?_eq_getElem hlast, hlasttrue]
    · rw [hull, hfirst]
      simp only [Range.mk.injEq, true_and]
      omega
    · obtain ⟨hjlt, hj⟩ := List.getElem?_eq_some_iff.mp hj
      by_contra hlt
      exact hbefore j (by omega) hj
    · obtain ⟨hjlt, hjtrue⟩ := List.getElem?_eq_some_iff.mp hj
      by_contra hgt
      have hback : flags.length - 1 - j < flags.reverse.findIdx id := by omega
      have hfalse := List.not_of_lt_findIdx hback
      rw [List.getElem_reverse] at hfalse
      have hindex : flags.length - 1 - (flags.length - 1 - j) = j := by omega
      simp only [hindex, hjtrue, id] at hfalse
      cases hfalse

lemma isHull_hull (flags : List Bool) : (hull flags).IsHull fun i => flags[i]? = some true := by
  refine ⟨fun i hi => ?_, fun other ⟨i, hi⟩ hother => ?_, hull_eq_of_none⟩
  · obtain ⟨first, last, -, -, hhull, hbetween⟩ := hull_eq_of_some hi
    have hi := hbetween i hi
    rw [hhull, Range.contains_iff]
    simp only
    omega
  · obtain ⟨first, last, hfirst, hlast, hhull, -⟩ := hull_eq_of_some hi
    have hfirst := Range.contains_iff.mp (hother first hfirst)
    have hlast := Range.contains_iff.mp (hother last hlast)
    rw [hhull]
    simp only
    omega

end Hull

/-- The slots that a refresh begins with, one for each block: they are empty if the cache was filled for
another language, and so are those of blocks that the cache did not have. -/
def resized (cache : DocumentCache) (highlighter : Highlighter) (blocks : List Text) :
    List (Option CachedBlock) :=
  (cache.slotsFor highlighter.language).takeD blocks.length none

def entering? (cache : DocumentCache) : Nat → Option BlockState
  | 0 => some .normal
  | i + 1 => cache.state? i

def Due (slot : Option CachedBlock) (entering : BlockState) : Prop :=
  ∀ known, slot = some known → known.incoming ≠ entering

lemma getElem?_takeD {α : Type} (xs : List α) (a : α) {n i : Nat} (h : i < n) :
    (xs.takeD n a)[i]? = some (xs[i]?.getD a) := by
  induction n generalizing xs i with
  | zero => omega
  | succ n ih =>
    cases i with
    | zero => cases xs <;> rfl
    | succ i =>
      rw [List.takeD_succ, List.getElem?_cons_succ, ih _ (Nat.lt_of_succ_lt_succ h), List.getElem?_tail]

lemma getElem?_resized (cache : DocumentCache) (highlighter : Highlighter) {blocks : List Text} {i : Nat}
    (h : i < blocks.length) :
    (cache.resized highlighter blocks)[i]? = some (cache.slotsFor highlighter.language)[i]?.join := by
  rw [resized, getElem?_takeD _ _ h]
  cases (cache.slotsFor highlighter.language)[i]? <;> rfl

section Refill

variable {grammar : Grammar} {incoming : BlockState} {slots : List (Option CachedBlock)}
  {blocks : List Text} {i : Nat} {slot : CachedBlock} {filled : Bool}

lemma reusable?_self (known : CachedBlock) : reusable? (some known) known.incoming = some known := by
  simp [reusable?, Option.filter]

lemma due_of_reusable?_eq_none {known : Option CachedBlock} (h : reusable? known incoming = none) :
    Due known incoming := by
  rintro slot rfl heq
  simp [reusable?, heq] at h

@[simp] lemma length_refill : (refill grammar incoming slots blocks).length = blocks.length := by
  induction blocks generalizing incoming slots with
  | nil => simp [refill]
  | cons block rest ih =>
    rw [refill]
    cases reusable? slots.head?.join incoming <;> simp [ih]

lemma refill_head (grammar : Grammar) (incoming : BlockState) (slots : List (Option CachedBlock)) (block : Text)
    (rest : List Text) : ∃ slot filled,
    refill grammar incoming slots (block :: rest) =
      (slot, filled) :: refill grammar slot.highlight.state slots.tail rest ∧
    slot.incoming = incoming ∧ (filled = true ↔ Due slots.head?.join incoming) := by
  rw [refill]
  cases hr : reusable? slots.head?.join incoming with
  | none => exact ⟨_, true, rfl, rfl, fun _ => due_of_reusable?_eq_none hr, fun _ => rfl⟩
  | some known =>
    obtain ⟨hknown, hincoming⟩ := reusable?_eq_some hr
    refine ⟨known, false, rfl, hincoming, fun h => Bool.noConfusion h, fun hdue => ?_⟩
    exact (hdue known hknown hincoming).elim

lemma refill_due (h : (refill grammar incoming slots blocks)[i]? = some (slot, filled)) :
    (filled = true ↔ Due slots[i]?.join slot.incoming) ∧
      (i = 0 → slot.incoming = incoming) ∧
      ∀ j, i = j + 1 → ∃ before, (refill grammar incoming slots blocks)[j]? = some before ∧
        slot.incoming = before.1.highlight.state := by
  induction blocks generalizing incoming slots i with
  | nil => simp [refill] at h
  | cons block rest ih =>
    -- the rest is filled from the state of the first entry, so its own first entry begins there
    obtain ⟨first, filled', hrefill, hincoming, hdue⟩ := refill_head grammar incoming slots block rest
    rw [hrefill] at h ⊢
    cases i with
    | zero =>
      rw [List.getElem?_cons_zero, Option.some.injEq, Prod.mk.injEq] at h
      obtain ⟨rfl, rfl⟩ := h
      refine ⟨?_, fun _ => hincoming, fun j hj => by omega⟩
      rw [hdue, hincoming, List.head?_eq_getElem?]
    | succ i =>
      rw [List.getElem?_cons_succ] at h
      obtain ⟨hdue, hzero, hsucc⟩ := ih h
      rw [List.getElem?_tail] at hdue
      refine ⟨hdue, fun hi => by omega, fun j hj => ?_⟩
      obtain rfl : i = j := by omega
      cases i with
      | zero => exact ⟨_, List.getElem?_cons_zero, hzero rfl⟩
      | succ i =>
        rw [List.getElem?_cons_succ]
        exact hsucc i rfl

lemma refill_again (grammar : Grammar) (incoming : BlockState) (slots : List (Option CachedBlock))
    (blocks : List Text) :
    refill grammar incoming ((refill grammar incoming slots blocks).map fun f => some f.1) blocks =
      (refill grammar incoming slots blocks).map fun f => (f.1, false) := by
  induction blocks generalizing incoming slots with
  | nil => simp [refill]
  | cons block rest ih =>
    obtain ⟨slot, filled, hrefill, rfl, -⟩ := refill_head grammar incoming slots block rest
    rw [hrefill, List.map_cons, List.map_cons, refill, List.head?_cons, Option.join_some, reusable?_self]
    simp only [List.tail_cons, ih]

end Refill

def refilled (cache : DocumentCache) (highlighter : Highlighter) (blocks : List Text) :
    List (CachedBlock × Bool) :=
  refill highlighter.grammar .normal (cache.slotsFor highlighter.language) blocks

section Refresh

variable {cache : DocumentCache} {highlighter : Highlighter} {blocks : List Text} {i : Nat}
  {slot : CachedBlock} {filled : Bool}

lemma refresh_eq (cache : DocumentCache) (highlighter : Highlighter) (blocks : List Text) :
    cache.refresh highlighter blocks =
      (⟨some highlighter.language, (cache.refilled highlighter blocks).map fun f => some f.1⟩,
        hull ((cache.refilled highlighter blocks).map (·.2))) := rfl

lemma fills_eq (cache : DocumentCache) (highlighter : Highlighter) (blocks : List Text) (i : Nat) :
    cache.fills highlighter blocks i = (cache.refilled highlighter blocks)[i]?.any (·.2) := rfl

lemma exists_entry (cache : DocumentCache) (highlighter : Highlighter) (hi : i < blocks.length) :
    ∃ slot, (cache.refilled highlighter blocks)[i]? = some (slot, cache.fills highlighter blocks i) := by
  have hlt : i < (cache.refilled highlighter blocks).length := by rwa [refilled, length_refill]
  have hentry := List.getElem?_eq_getElem hlt
  refine ⟨_, hentry.trans (congrArg some (Prod.ext rfl ?_))⟩
  rw [fills_eq, hentry]
  rfl

lemma slots_refresh_of_entry (h : (cache.refilled highlighter blocks)[i]? = some (slot, filled)) :
    (cache.refresh highlighter blocks).1.slots[i]? = some (some slot) := by
  simp [refresh_eq, h]

lemma entering?_refresh (h : (cache.refilled highlighter blocks)[i]? = some (slot, filled)) :
    (cache.refresh highlighter blocks).1.entering? i = some slot.incoming := by
  obtain ⟨-, hzero, hsucc⟩ := refill_due h
  cases i with
  | zero => rw [entering?, hzero rfl]
  | succ i =>
    obtain ⟨before, hbefore, hincoming⟩ := hsucc i rfl
    have hslot : (cache.refresh highlighter blocks).1.slots[i]? = some (some before.1) :=
      slots_refresh_of_entry hbefore
    simp [entering?, state?, highlight?, hslot, hincoming]

lemma refresh_refresh (cache : DocumentCache) (highlighter : Highlighter) (blocks : List Text) :
    (cache.refresh highlighter blocks).1.refresh highlighter blocks =
      ((cache.refresh highlighter blocks).1, ⟨0, 0⟩) := by
  have hslots : (cache.refresh highlighter blocks).1.slotsFor highlighter.language =
      (cache.refilled highlighter blocks).map fun f => some f.1 := if_pos rfl
  have hagain : (cache.refresh highlighter blocks).1.refilled highlighter blocks =
      (cache.refilled highlighter blocks).map fun f => (f.1, false) := by
    rw [refilled, hslots]
    exact refill_again highlighter.grammar .normal (cache.slotsFor highlighter.language) blocks
  have hhull : hull ((cache.refilled highlighter blocks).map fun _ => false) = ⟨0, 0⟩ := by
    refine hull_eq_of_none fun i hi => ?_
    rw [List.getElem?_map, Option.map_eq_some_iff] at hi
    obtain ⟨f, -, hfalse⟩ := hi
    cases hfalse
  rw [refresh_eq _ highlighter blocks, hagain, List.map_map, List.map_map]
  exact Prod.ext rfl hhull

lemma isHull_refresh (cache : DocumentCache) (highlighter : Highlighter) (blocks : List Text) :
    (cache.refresh highlighter blocks).2.IsHull fun i => cache.fills highlighter blocks i = true := by
  have hflags : (fun i => cache.fills highlighter blocks i = true) = fun i : Nat =>
      ((cache.refilled highlighter blocks).map (·.2))[i]? = some true := by
    funext i
    rw [fills_eq, List.getElem?_map]
    cases (cache.refilled highlighter blocks)[i]? <;> simp
  rw [hflags]
  exact isHull_hull _

lemma fills_iff_due (cache : DocumentCache) (highlighter : Highlighter) (hi : i < blocks.length) :
    ∃ entering, (cache.refresh highlighter blocks).1.entering? i = some entering ∧
      (cache.fills highlighter blocks i = true ↔
        Due (cache.slotsFor highlighter.language)[i]?.join entering) := by
  obtain ⟨slot, hentry⟩ := exists_entry cache highlighter hi
  exact ⟨slot.incoming, entering?_refresh hentry, (refill_due hentry).1⟩

lemma slots_refresh (cache : DocumentCache) (highlighter : Highlighter) {block : Text}
    (hb : blocks[i]? = some block) {entering : BlockState}
    (hentering : (cache.refresh highlighter blocks).1.entering? i = some entering) :
    (cache.fills highlighter blocks i = true → (cache.refresh highlighter blocks).1.slots[i]? =
      some (some ⟨entering, highlighter.highlight block entering⟩)) ∧
    (cache.fills highlighter blocks i = false → (cache.refresh highlighter blocks).1.slots[i]? =
      some (cache.slotsFor highlighter.language)[i]?.join) := by
  obtain ⟨slot, hentry⟩ := exists_entry cache highlighter (List.getElem?_eq_some_iff.mp hb).1
  obtain ⟨block', hb', hfilled, hkept⟩ := refill_entry highlighter.grammar hentry
  obtain rfl := Option.some.inj (hb'.symm.trans hb)
  obtain rfl := Option.some.inj ((entering?_refresh hentry).symm.trans hentering)
  rw [slots_refresh_of_entry hentry]
  refine ⟨fun hfills => ?_, fun hfills => ?_⟩
  · rw [Highlighter.highlight, ← hfilled hfills]
  · rw [hkept hfills, Option.join_some]

end Refresh

end DocumentCache

end Highlighting
