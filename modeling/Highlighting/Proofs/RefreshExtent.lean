import Highlighting.Proofs.DocumentScan
import Highlighting.Proofs.Refill

/-! What a refresh computes anew after edits of a document that the cache agreed with: the blocks whose texts
or entering states have changed. -/

namespace Highlighting.DocumentCache

section Reachable

variable {cache : DocumentCache} {highlighter : Highlighter} {old new : List Text} {i : Nat}
  {slot : CachedBlock}

def Action.isRefresh : Action → Bool
  | .refresh _ _ => true
  | _ => false

def Action.Empties : Action → Nat → Prop
  | .refresh _ _, _ => False
  | .invalidate block, i => i = block
  | .invalidateFrom block, i => block ≤ i
  | .invalidateAll, _ => True

lemma slots_act_iff {a : Action} (ha : a.isRefresh = false) : (cache.act a).slots[i]? = some (some slot) ↔
    ¬ a.Empties i ∧ cache.slots[i]? = some (some slot) := by
  cases a with
  | refresh highlighter blocks => cases ha
  | invalidate block =>
    rw [act, DocumentCache.invalidate, Action.Empties, List.getElem?_set]
    by_cases hi : block = i
    · subst hi
      simp
    · simp [hi, Ne.symm hi]
  | invalidateFrom block =>
    simp only [act, DocumentCache.invalidateFrom, Action.Empties, List.getElem?_mapIdx]
    by_cases hi : block ≤ i <;> simp [hi]
  | invalidateAll => simp [act, DocumentCache.invalidateAll, Action.Empties]

lemma slots_run_iff {edits : List Action} (h : ∀ a ∈ edits, a.isRefresh = false) :
    (cache.run edits).slots[i]? = some (some slot) ↔
      (∀ a ∈ edits, ¬ a.Empties i) ∧ cache.slots[i]? = some (some slot) := by
  induction edits generalizing cache with
  | nil => simp [run]
  | cons a edits ih =>
    rw [List.forall_mem_cons] at h ⊢
    have hrest := @ih (cache.act a) h.2
    rw [slots_act_iff h.1] at hrest
    rw [and_assoc, and_left_comm, ← hrest]
    rfl

lemma language_run {edits : List Action} (h : ∀ a ∈ edits, a.isRefresh = false) :
    (cache.run edits).language = cache.language := by
  induction edits generalizing cache with
  | nil => rfl
  | cons a edits ih =>
    rw [List.forall_mem_cons] at h
    refine (@ih (cache.act a) h.2).trans ?_
    cases a with
    | refresh highlighter blocks => cases h.1
    | _ => rfl

/-- Where two slots after one another are filled, the second begins in the state that the first leaves. -/
def Linked (cache : DocumentCache) : Prop :=
  ∀ i slot, cache.slots[i]? = some (some slot) →
    ∀ entering, cache.entering? i = some entering → slot.incoming = entering

lemma linked_refresh (cache : DocumentCache) (highlighter : Highlighter) (blocks : List Text) :
    (cache.refresh highlighter blocks).1.Linked := by
  intro i slot hslot entering hentering
  have hmap := hslot
  simp only [refresh, List.getElem?_map, Option.map_eq_some_iff, Option.some.injEq] at hmap
  obtain ⟨⟨known, filled⟩, hentry, rfl⟩ := hmap
  rw [entering?_refresh hentry] at hentering
  exact Option.some.inj hentering

lemma state?_eq_some {state : BlockState} : cache.state? i = some state ↔
    ∃ slot, cache.slots[i]? = some (some slot) ∧ slot.highlight.state = state := by
  simp [state?, highlight?, Option.join_eq_some_iff]

lemma linked_act (hc : Linked cache) (a : Action) : Linked (cache.act a) := by
  by_cases ha : a.isRefresh = true
  · cases a with
    | refresh highlighter blocks => exact linked_refresh cache highlighter blocks
    | _ => cases ha
  · have ha : a.isRefresh = false := Bool.eq_false_iff.mpr ha
    intro i slot hslot entering hentering
    refine hc i slot ((slots_act_iff ha).mp hslot).2 entering ?_
    cases i with
    | zero => exact hentering
    | succ i =>
      -- an entry that is still there leaves the state that it left before
      obtain ⟨before, hbefore, hstate⟩ := state?_eq_some.mp hentering
      exact state?_eq_some.mpr ⟨before, ((slots_act_iff ha).mp hbefore).2, hstate⟩

lemma linked_run (hc : Linked cache) (actions : List Action) : Linked (cache.run actions) := by
  induction actions generalizing cache with
  | nil => exact hc
  | cons a actions ih => exact ih (linked_act hc a)

lemma linked_empty : Linked empty := by
  intro i slot h
  simp [empty] at h

def AgreesWith (cache : DocumentCache) (highlighter : Highlighter) (blocks : List Text) : Prop :=
  cache.size = blocks.length ∧ ∀ i < blocks.length, cache.language = some highlighter.language ∧
    cache.highlight? i = (highlighter.document blocks)[i]?

lemma stateAfter_append_singleton (g : Grammar) (incoming : BlockState) (earlier : List Text) (block : Text) :
    g.stateAfter incoming (earlier ++ [block]) =
      (g.highlight block (g.stateAfter incoming earlier)).state := by
  induction earlier generalizing incoming with
  | nil => rfl
  | cons first earlier ih => rw [List.cons_append, Grammar.stateAfter_cons, ih, Grammar.stateAfter_cons]

lemma getElem?_document (highlighter : Highlighter) {blocks : List Text} {block : Text}
    (h : blocks[i]? = some block) : (highlighter.document blocks)[i]? =
      some (highlighter.grammar.highlight block (highlighter.grammar.stateAfter .normal (blocks.take i))) := by
  obtain ⟨hlt, rfl⟩ := List.getElem?_eq_some_iff.mp h
  have hcut : blocks = blocks.take i ++ blocks[i] :: blocks.drop (i + 1) := by
    rw [← List.drop_eq_getElem_cons hlt, List.take_append_drop]
  have hall := Grammar.getElem?_highlightAll highlighter.grammar .normal (blocks.take i) blocks[i]
    (blocks.drop (i + 1))
  rwa [← hcut, List.length_take, Nat.min_eq_left (Nat.le_of_lt hlt)] at hall

lemma stateAfter_take_succ (g : Grammar) {blocks : List Text} {block : Text} (h : blocks[i]? = some block) :
    g.stateAfter .normal (blocks.take (i + 1)) =
      (g.highlight block (g.stateAfter .normal (blocks.take i))).state := by
  rw [List.take_add_one, h, Option.toList_some, stateAfter_append_singleton]

lemma AgreesWith.entry (hagrees : cache.AgreesWith highlighter old) (hlinked : Linked cache) {block : Text}
    (h : old[i]? = some block) : ∃ slot, cache.slots[i]? = some (some slot) ∧
      slot.incoming = highlighter.grammar.stateAfter .normal (old.take i) ∧
      slot.highlight = highlighter.grammar.highlight block slot.incoming := by
  have hentry (j : Nat) (block : Text) (hj : old[j]? = some block) :
      ∃ slot, cache.slots[j]? = some (some slot) ∧ slot.highlight =
        highlighter.grammar.highlight block (highlighter.grammar.stateAfter .normal (old.take j)) := by
    have hshown := (hagrees.2 j (List.getElem?_eq_some_iff.mp hj).1).2
    rw [getElem?_document highlighter hj, highlight?, Option.map_eq_some_iff] at hshown
    obtain ⟨slot, hslot, heq⟩ := hshown
    exact ⟨slot, Option.join_eq_some_iff.mp hslot, heq⟩
  obtain ⟨slot, hslot, heq⟩ := hentry i block h
  -- the cache agrees on outgoing states only; that its entries are linked gives the incoming ones
  have hincoming : slot.incoming = highlighter.grammar.stateAfter .normal (old.take i) := by
    apply hlinked i slot hslot
    cases i with
    | zero => rfl
    | succ i =>
      have hlt : i < old.length := Nat.lt_of_succ_lt (List.getElem?_eq_some_iff.mp h).1
      have hbefore := List.getElem?_eq_getElem hlt
      obtain ⟨before, hslot, heq⟩ := hentry i _ hbefore
      rw [stateAfter_take_succ _ hbefore, ← heq]
      exact state?_eq_some.mpr ⟨before, hslot, rfl⟩
  exact ⟨slot, hslot, hincoming, by rw [heq, hincoming]⟩

lemma mem_slotsFor {language : Language} (h : (cache.slotsFor language)[i]? = some (some slot)) :
    cache.slots[i]? = some (some slot) := by
  by_cases hl : cache.language = some language
  · rwa [slotsFor, if_pos hl] at h
  · simp [slotsFor, hl] at h

section Edits

variable {edits : List Action} (hagrees : cache.AgreesWith highlighter old)
  (hedits : ∀ a ∈ edits, a.isRefresh = false)
  (hexact : ∀ i < old.length, i < new.length → ((∃ a ∈ edits, a.Empties i) ↔ old[i]? ≠ new[i]?))

include hagrees hedits hexact

lemma unchanged_of_slot (hslot : (cache.run edits).slots[i]? = some (some slot)) (hi : i < new.length) :
    old[i]? = new[i]? ∧ cache.slots[i]? = some (some slot) := by
  obtain ⟨hkept, hslot⟩ := (slots_run_iff hedits).mp hslot
  have hold : i < old.length := hagrees.1 ▸ (List.getElem?_eq_some_iff.mp hslot).1
  refine ⟨?_, hslot⟩
  by_contra hne
  obtain ⟨a, ha, hempties⟩ := (hexact i hold hi).mpr hne
  exact hkept a ha hempties

lemma agreesWith_refresh (hlinked : Linked cache) :
    ((cache.run edits).refresh highlighter new).1.AgreesWith highlighter new := by
  have hslots (i : Nat) (slot : CachedBlock) (block : Text)
      (hslot : ((cache.run edits).slotsFor highlighter.language)[i]? = some (some slot))
      (hb : new[i]? = some block) : slot.highlight = highlighter.grammar.highlight block slot.incoming := by
    obtain ⟨hsame, hslot⟩ := unchanged_of_slot hagrees hedits hexact (mem_slotsFor hslot)
      (List.getElem?_eq_some_iff.mp hb).1
    obtain ⟨known, hknown, -, heq⟩ := hagrees.entry hlinked (hsame.trans hb)
    rw [hslot, Option.some.injEq, Option.some.injEq] at hknown
    rwa [← hknown] at heq
  have hall : ((cache.run edits).refilled highlighter new).map (·.1.highlight) =
      highlighter.grammar.highlightAll .normal new := refill_highlights highlighter.grammar hslots
  refine ⟨by simp [size, refresh], fun i _ => ⟨rfl, ?_⟩⟩
  rw [Highlighter.document, ← hall, highlight?, refresh_eq, List.getElem?_map, List.getElem?_map]
  cases ((cache.run edits).refilled highlighter new)[i]? <;> rfl

lemma fills_iff_changed (hlinked : Linked cache) (hi : i < new.length) :
    (cache.run edits).fills highlighter new i = true ↔ old[i]? ≠ new[i]? ∨
      highlighter.grammar.stateAfter .normal (old.take i) ≠
        highlighter.grammar.stateAfter .normal (new.take i) := by
  obtain ⟨entering, hentering, hfills⟩ := fills_iff_due (cache.run edits) highlighter hi
  have hnew := List.getElem?_eq_getElem hi
  obtain ⟨slot, hslot, hincoming, -⟩ := (agreesWith_refresh hagrees hedits hexact hlinked).entry
    (linked_refresh (cache.run edits) highlighter new) hnew
  have hstate : entering = highlighter.grammar.stateAfter .normal (new.take i) := by
    rw [← hincoming]
    exact (linked_refresh (cache.run edits) highlighter new i slot hslot entering hentering).symm
  rw [hfills, hstate]
  -- an unchanged text keeps its slot, which knows the state that the old document entered it in
  by_cases hsame : old[i]? = new[i]?
  · obtain ⟨known, hknown, hincoming, -⟩ := hagrees.entry hlinked (hsame.trans hnew)
    have hold : i < old.length := (List.getElem?_eq_some_iff.mp (hsame.trans hnew)).1
    have hkept : (cache.run edits).slots[i]? = some (some known) := by
      refine (slots_run_iff hedits).mpr ⟨fun a ha hempties => ?_, hknown⟩
      exact (hexact i hold hi).mp ⟨a, ha, hempties⟩ hsame
    have hlanguage : (cache.run edits).language = some highlighter.language := by
      rw [language_run hedits]
      exact (hagrees.2 i hold).1
    rw [slotsFor, if_pos hlanguage, hkept, Option.join_some, ← hincoming]
    simp [Due, hsame]
  · refine iff_of_true (fun known hknown => ?_) (Or.inl hsame)
    have hslot := mem_slotsFor (Option.join_eq_some_iff.mp hknown)
    exact (hsame (unchanged_of_slot hagrees hedits hexact hslot hi).1).elim

end Edits

end Reachable

/-- A refresh computes a block exactly if nothing is known of it from the state in which the refreshed cache
enters it. It keeps all other slots, its range is as small as it can be, and a second refresh has nothing to
do. After edits of a document that the cache agreed with, the computed blocks are those whose texts or
entering states have changed. -/
theorem refresh_computes_due_blocks (actions : List Action) (highlighter : Highlighter) (blocks : List Text) :
    let cache := empty.run actions
    let before := cache.resized highlighter blocks
    let after := (cache.refresh highlighter blocks).1
    after.language = some highlighter.language ∧ after.size = blocks.length ∧
      (∀ i, cache.fills highlighter blocks i = true → i < blocks.length) ∧
      (∀ i block, blocks[i]? = some block → ∃ slot entering, before[i]? = some slot ∧
        after.entering? i = some entering ∧
        (cache.fills highlighter blocks i = true ↔ Due slot entering) ∧
        (cache.fills highlighter blocks i = true →
          after.slots[i]? = some (some ⟨entering, highlighter.highlight block entering⟩)) ∧
        (cache.fills highlighter blocks i = false → after.slots[i]? = some slot)) ∧
      (cache.refresh highlighter blocks).2.IsHull (fun i => cache.fills highlighter blocks i = true) ∧
      after.refresh highlighter blocks = (after, ⟨0, 0⟩) ∧
      ∀ (old new : List Text) (edits : List Action), cache.AgreesWith highlighter old →
        (∀ a ∈ edits, a.isRefresh = false) →
        (∀ i < old.length, i < new.length → ((∃ a ∈ edits, a.Empties i) ↔ old[i]? ≠ new[i]?)) →
        ∀ i < new.length, (cache.run edits).fills highlighter new i = true ↔ old[i]? ≠ new[i]? ∨
          highlighter.grammar.stateAfter .normal (old.take i) ≠
            highlighter.grammar.stateAfter .normal (new.take i) := by
  intro cache before after
  refine ⟨rfl, by simp [after, size, refresh], fun i hi => ?_, fun i block hb => ?_,
    isHull_refresh cache highlighter blocks, refresh_refresh cache highlighter blocks, ?_⟩
  · by_contra hle
    rw [fills, List.getElem?_eq_none (by rw [length_refill]; omega)] at hi
    cases hi
  · have hlt := (List.getElem?_eq_some_iff.mp hb).1
    obtain ⟨entering, hentering, hdue⟩ := fills_iff_due cache highlighter hlt
    obtain ⟨hfilled, hkept⟩ := slots_refresh cache highlighter hb hentering
    exact ⟨_, entering, getElem?_resized cache highlighter hlt, hentering, hdue, hfilled, hkept⟩
  · intro old new edits hagrees hedits hexact i hi
    exact fills_iff_changed hagrees hedits hexact (linked_run linked_empty actions) hi

theorem refresh_computes_edited_blocks :
    let old : List Text := [['a'], ['b'], ['c']]
    let new : List Text := [['a'], "/*".toList, ['c'], ['d']]
    let cache := empty.run [.refresh ⟨.css, 1⟩ old]
    cache.AgreesWith ⟨.css, 2⟩ old ∧
      (cache.run [.invalidate 1]).fills ⟨.css, 2⟩ new 0 = false ∧
      (cache.run [.invalidate 1]).fills ⟨.css, 2⟩ new 1 = true ∧
      (cache.run [.invalidate 1]).fills ⟨.css, 2⟩ new 2 = true := by
  intro old new cache
  have hagrees : cache.AgreesWith ⟨.css, 2⟩ old := by
    have hnone : AgreesWith empty ⟨.css, 1⟩ [] := ⟨rfl, fun i hi => absurd hi (Nat.not_lt_zero i)⟩
    have hedits : ∀ a ∈ ([] : List Action), a.isRefresh = false := fun a ha => absurd ha List.not_mem_nil
    exact agreesWith_refresh hnone hedits (fun i hi => absurd hi (Nat.not_lt_zero i)) linked_empty
  obtain ⟨-, -, -, -, -, -, hedited⟩ :=
    refresh_computes_due_blocks [.refresh ⟨.css, 1⟩ old] ⟨.css, 2⟩ old
  have hexact : ∀ i < old.length, i < new.length →
      ((∃ a ∈ [Action.invalidate 1], a.Empties i) ↔ old[i]? ≠ new[i]?) := by
    intro i hi _
    simp only [List.mem_singleton, exists_eq_left, Action.Empties]
    have hcases : i = 0 ∨ i = 1 ∨ i = 2 := by
      simp only [old, List.length_cons, List.length_nil] at hi
      omega
    rcases hcases with rfl | rfl | rfl <;> decide
  have hfills := hedited old new [.invalidate 1] hagrees (by decide) hexact
  refine ⟨hagrees, ?_, (hfills 1 (by decide)).mpr (Or.inl (by decide)),
    (hfills 2 (by decide)).mpr (Or.inr (by decide))⟩
  refine Bool.eq_false_iff.mpr fun h => ?_
  rcases (hfills 0 (by decide)).mp h with hne | hne
  · exact hne rfl
  · exact hne rfl

end Highlighting.DocumentCache
