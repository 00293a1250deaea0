import Highlighting.DocumentCache
import Mathlib.Tactic.Lemma

/-! A refreshed cache shows what highlighting the whole document shows, provided that its owner
invalidates the blocks whose texts change. Each filled slot is the highlight of a text remembered for
its index, in the language of the cache and from the state that the slot records. -/

namespace Highlighting.DocumentCache

/-- Every highlighter may take part in a refresh, whatever was chosen in it before. -/
inductive Action where
  | refresh (highlighter : Highlighter) (blocks : List Text)
  | invalidate (block : Nat)
  | invalidateFrom (block : Nat)
  | invalidateAll

def act (cache : DocumentCache) : Action → DocumentCache
  | .refresh highlighter blocks => (cache.refresh highlighter blocks).1
  | .invalidate block => cache.invalidate block
  | .invalidateFrom block => cache.invalidateFrom block
  | .invalidateAll => cache.invalidateAll

def run (cache : DocumentCache) (actions : List Action) : DocumentCache :=
  actions.foldl act cache

def fills (cache : DocumentCache) (highlighter : Highlighter) (blocks : List Text) (i : Nat) : Bool :=
  (refill highlighter.grammar .normal (cache.slotsFor highlighter.language) blocks)[i]?.any (·.2)

/-- The text that each index had when its slot was filled, unless the index has been invalidated
since or has left the document. -/
abbrev Record := Nat → Option Text

def note (cache : DocumentCache) (record : Record) : Action → Record
  | .refresh highlighter blocks => fun i =>
    if cache.fills highlighter blocks i then blocks[i]?
    else if i < blocks.length then record i else none
  | .invalidate block => fun i => if i = block then none else record i
  | .invalidateFrom block => fun i => if block ≤ i then none else record i
  | .invalidateAll => fun _ => none

def noteAll (cache : DocumentCache) (record : Record) : List Action → Record
  | [] => record
  | a :: rest => noteAll (cache.act a) (cache.note record a) rest

def Respects (record : Record) : Action → Prop
  | .refresh _ blocks => ∀ i text block, record i = some text → blocks[i]? = some block → block = text
  | _ => True

/-- At each refresh, every index whose text differs from the one its slot was filled for has been
invalidated since. -/
def Disciplined (cache : DocumentCache) (record : Record) : List Action → Prop
  | [] => True
  | a :: rest => Respects record a ∧ Disciplined (cache.act a) (cache.note record a) rest

lemma disciplined_append (cache : DocumentCache) (record : Record) (as bs : List Action) :
    Disciplined cache record (as ++ bs) ↔
      Disciplined cache record as ∧ Disciplined (cache.run as) (cache.noteAll record as) bs := by
  induction as generalizing cache record with
  | nil => simp [Disciplined, run, noteAll]
  | cons a as ih => simp [Disciplined, run, noteAll, ih, and_assoc]

lemma note_refresh {cache : DocumentCache} {record : Record} {highlighter : Highlighter}
    {blocks : List Text} (hr : Respects record (.refresh highlighter blocks)) {i : Nat} {text : Text}
    (h : cache.note record (.refresh highlighter blocks) i = some text) : blocks[i]? = some text := by
  by_cases hf : cache.fills highlighter blocks i
  · simpa [note, hf] using h
  · by_cases hlt : i < blocks.length
    · simp only [note, hf, hlt, if_false, if_true, Bool.false_eq_true] at h
      have hb := List.getElem?_eq_getElem hlt
      rw [hb, hr i text _ h hb]
    · simp [note, hf, hlt] at h

/-- What a slot holds is the highlight of the text recorded for it. -/
def Coherent (cache : DocumentCache) (record : Record) : Prop :=
  ∀ i slot, cache.slots[i]? = some (some slot) → ∃ text language,
    record i = some text ∧ cache.language = some language ∧
      slot.highlight = language.grammar.highlight text slot.incoming

lemma coherent_empty (record : Record) : Coherent empty record := by
  intro i slot h
  simp [empty] at h

lemma reusable?_eq_some {slot : Option CachedBlock} {incoming : BlockState} {known : CachedBlock}
    (h : reusable? slot incoming = some known) : slot = some known ∧ known.incoming = incoming := by
  simpa [reusable?, Option.filter_eq_some_iff] using h

lemma getElem?_zero_of_head?_join {slots : List (Option CachedBlock)} {known : CachedBlock}
    (h : slots.head?.join = some known) : slots[0]? = some (some known) := by
  cases slots with
  | nil => simp at h
  | cons slot slots => simpa using h

section Refill

variable (grammar : Grammar)

lemma refill_entry {incoming : BlockState} {slots : List (Option CachedBlock)} {blocks : List Text}
    {i : Nat} {slot : CachedBlock} {filled : Bool}
    (h : (refill grammar incoming slots blocks)[i]? = some (slot, filled)) :
    ∃ block, blocks[i]? = some block ∧
      (filled = true → slot.highlight = grammar.highlight block slot.incoming) ∧
      (filled = false → slots[i]? = some (some slot)) := by
  induction blocks generalizing incoming slots i with
  | nil => simp [refill] at h
  | cons block rest ih =>
    rw [refill] at h
    cases hr : reusable? slots.head?.join incoming with
    | none =>
      rw [hr] at h
      cases i with
      | zero =>
        simp only [List.getElem?_cons_zero, Option.some.injEq, Prod.mk.injEq] at h
        obtain ⟨rfl, rfl⟩ := h
        exact ⟨block, rfl, fun _ => rfl, by simp⟩
      | succ i => simpa using ih h
    | some known =>
      rw [hr] at h
      cases i with
      | zero =>
        simp only [List.getElem?_cons_zero, Option.some.injEq, Prod.mk.injEq] at h
        obtain ⟨rfl, rfl⟩ := h
        exact ⟨block, rfl, by simp, fun _ => getElem?_zero_of_head?_join (reusable?_eq_some hr).1⟩
      | succ i => simpa using ih h

lemma refill_highlights {incoming : BlockState} {slots : List (Option CachedBlock)} {blocks : List Text}
    (hs : ∀ (i : Nat) (slot : CachedBlock) (block : Text), slots[i]? = some (some slot) →
      blocks[i]? = some block → slot.highlight = grammar.highlight block slot.incoming) :
    (refill grammar incoming slots blocks).map (·.1.highlight) = grammar.highlightAll incoming blocks := by
  induction blocks generalizing incoming slots with
  | nil => simp [refill, Grammar.highlightAll]
  | cons block rest ih =>
    have htail : ∀ (i : Nat) (slot : CachedBlock) (block : Text), slots.tail[i]? = some (some slot) →
        rest[i]? = some block → slot.highlight = grammar.highlight block slot.incoming := by
      intro i slot b hslot hb
      exact hs (i + 1) slot b (by simpa using hslot) (by simpa using hb)
    rw [refill]
    cases hr : reusable? slots.head?.join incoming with
    | none => simp [ih htail, Grammar.highlightAll]
    | some known =>
      obtain ⟨hhead, rfl⟩ := reusable?_eq_some hr
      have hk := hs 0 known block (getElem?_zero_of_head?_join hhead) (by simp)
      simp [ih htail, hk, Grammar.highlightAll]

end Refill

lemma slotsFor_right {cache : DocumentCache} {record : Record} {highlighter : Highlighter}
    {blocks : List Text} (hc : Coherent cache record)
    (hr : Respects record (.refresh highlighter blocks)) (i : Nat) (slot : CachedBlock) (block : Text)
    (hslot : (cache.slotsFor highlighter.language)[i]? = some (some slot)) (hb : blocks[i]? = some block) :
    record i = some block ∧ slot.highlight = highlighter.grammar.highlight block slot.incoming := by
  by_cases hl : cache.language = some highlighter.language
  · rw [slotsFor, if_pos hl] at hslot
    obtain ⟨text, language, htext, hlanguage, heq⟩ := hc i slot hslot
    obtain rfl := hr i text block htext hb
    rw [hl, Option.some.injEq] at hlanguage
    exact ⟨htext, by rw [heq, ← hlanguage, highlighter.grammar_eq]⟩
  · simp [slotsFor, hl] at hslot

lemma coherent_refresh {cache : DocumentCache} {record : Record} {highlighter : Highlighter}
    {blocks : List Text} (hc : Coherent cache record)
    (hr : Respects record (.refresh highlighter blocks)) :
    Coherent (cache.refresh highlighter blocks).1 (cache.note record (.refresh highlighter blocks)) := by
  intro i slot h
  simp only [refresh, List.getElem?_map, Option.map_eq_some_iff, Option.some.injEq] at h
  obtain ⟨⟨known, filled⟩, hentry, rfl⟩ := h
  obtain ⟨block, hb, hfilled, hkept⟩ := refill_entry highlighter.grammar hentry
  have hfills : cache.fills highlighter blocks i = filled := by simp [fills, hentry]
  have hlt : i < blocks.length := (List.getElem?_eq_some_iff.mp hb).1
  refine ⟨block, highlighter.language, ?_, rfl, ?_⟩
  · cases filled with
    | true => simp [note, hfills, hb]
    | false => simp [note, hfills, hlt, (slotsFor_right hc hr i known block (hkept rfl) hb).1]
  · cases filled with
    | true => rw [← highlighter.grammar_eq, hfilled rfl]
    | false => rw [← highlighter.grammar_eq, (slotsFor_right hc hr i known block (hkept rfl) hb).2]

lemma coherent_act {cache : DocumentCache} {record : Record} {a : Action} (hc : Coherent cache record)
    (hr : Respects record a) : Coherent (cache.act a) (cache.note record a) := by
  cases a with
  | refresh highlighter blocks => exact coherent_refresh hc hr
  | invalidate block =>
    intro i slot h
    by_cases hi : i = block
    · subst hi
      simp [act, DocumentCache.invalidate, List.getElem?_set] at h
    · rw [act, DocumentCache.invalidate, List.getElem?_set_ne (Ne.symm hi)] at h
      simpa [note, hi, act, DocumentCache.invalidate] using hc i slot h
  | invalidateFrom block =>
    intro i slot h
    simp only [act, DocumentCache.invalidateFrom, List.getElem?_mapIdx, Option.map_eq_some_iff] at h
    obtain ⟨old, hold, h⟩ := h
    by_cases hi : block ≤ i
    · simp [hi] at h
    · rw [if_neg hi] at h
      subst h
      simpa [note, hi, act, DocumentCache.invalidateFrom] using hc i slot hold
  | invalidateAll =>
    intro i slot h
    simp [act, DocumentCache.invalidateAll] at h

lemma coherent_run {cache : DocumentCache} {record : Record} (actions : List Action)
    (hc : Coherent cache record) (hd : Disciplined cache record actions) :
    Coherent (cache.run actions) (cache.noteAll record actions) := by
  induction actions generalizing cache record with
  | nil => exact hc
  | cons a rest ih => exact ih (coherent_act hc hd.1) hd.2

lemma highlights_refresh {cache : DocumentCache} {record : Record} {highlighter : Highlighter}
    {blocks : List Text} (hc : Coherent cache record)
    (hr : Respects record (.refresh highlighter blocks)) :
    (cache.refresh highlighter blocks).1.slots.map (·.map (·.highlight)) =
      (highlighter.document blocks).map some := by
  have hslots (i : Nat) (slot : CachedBlock) (block : Text)
      (hslot : (cache.slotsFor highlighter.language)[i]? = some (some slot)) (hb : blocks[i]? = some block) :
      slot.highlight = highlighter.grammar.highlight block slot.incoming :=
    (slotsFor_right hc hr i slot block hslot hb).2
  rw [Highlighter.document, ← refill_highlights highlighter.grammar hslots]
  simp [refresh, Function.comp_def]

lemma length_highlightAll (grammar : Grammar) (incoming : BlockState) (blocks : List Text) :
    (grammar.highlightAll incoming blocks).length = blocks.length := by
  induction blocks generalizing incoming with
  | nil => simp [Grammar.highlightAll]
  | cons block rest ih => simp [Grammar.highlightAll, ih]

lemma highlight?_eq (cache : DocumentCache) (i : Nat) :
    cache.highlight? i = (cache.slots.map (·.map (·.highlight)))[i]?.join := by
  rw [highlight?, List.getElem?_map]
  cases cache.slots[i]? with
  | none => rfl
  | some slot => rfl

/-- After each refresh of a disciplined run, the cache has one entry for each block, and the entries
are those of a full pass over the document. -/
theorem refresh_shows_document (actions : List Action) (highlighter : Highlighter) (blocks : List Text)
    (hd : Disciplined empty (fun _ => none) (actions ++ [.refresh highlighter blocks])) :
    let cache := empty.run (actions ++ [.refresh highlighter blocks])
    cache.size = blocks.length ∧
      (∀ i, i < blocks.length → ∃ entry, (highlighter.document blocks)[i]? = some entry ∧
        cache.highlight? i = some entry ∧ cache.spans? i = some entry.spans ∧
        cache.state? i = some entry.state) ∧
      ∀ i, blocks.length ≤ i → cache.highlight? i = none := by
  intro cache
  obtain ⟨hbefore, hr, -⟩ := (disciplined_append _ _ _ _).mp hd
  have hslots : cache.slots.map (·.map (·.highlight)) = (highlighter.document blocks).map some := by
    simp only [cache, run, List.foldl_append]
    exact highlights_refresh (coherent_run actions (coherent_empty _) hbefore) hr
  have hlen : (highlighter.document blocks).length = blocks.length := length_highlightAll _ _ _
  have hshown (i : Nat) : cache.highlight? i = (highlighter.document blocks)[i]? := by
    rw [highlight?_eq, hslots, List.getElem?_map]
    cases (highlighter.document blocks)[i]? with
    | none => rfl
    | some entry => rfl
  refine ⟨?_, ?_, ?_⟩
  · rw [size, ← hlen]
    simpa using congrArg List.length hslots
  · intro i hi
    have hentry := List.getElem?_eq_getElem (hlen ▸ hi)
    refine ⟨_, hentry, ?_⟩
    simp only [spans?, state?, hshown, hentry, Option.map_some, and_self]
  · intro i hi
    rw [hshown, List.getElem?_eq_none (by omega)]

theorem refresh_shows_edited_document :
    let letters : List Text := [['a'], ['b']]
    let edited : List Text := [['a'], ['c'], ['1']]
    let actions : List Action :=
      [.refresh ⟨.sql, 1⟩ letters, .refresh ⟨.css, 4⟩ letters, .invalidateFrom 1]
    Disciplined empty (fun _ => none) (actions ++ [.refresh ⟨.css, 2⟩ edited]) ∧
      (empty.run (actions ++ [.refresh ⟨.css, 2⟩ edited])).size = 3 ∧
      (empty.run (actions ++ [.refresh ⟨.css, 2⟩ edited])).highlight? 3 = none := by
  intro letters edited actions
  have hd : Disciplined empty (fun _ => none) (actions ++ [.refresh ⟨.css, 2⟩ edited]) := by
    have hfirst : Respects (fun _ => none) (.refresh ⟨.sql, 1⟩ letters) := by
      intro i text block h
      simp at h
    have hsecond : Respects (empty.note (fun _ => none) (.refresh ⟨.sql, 1⟩ letters))
        (.refresh ⟨.css, 4⟩ letters) := by
      intro i text block h hb
      exact Option.some.inj (hb.symm.trans (note_refresh hfirst h))
    refine ⟨hfirst, hsecond, trivial, ?_, trivial⟩
    intro i text block h hb
    cases i with
    | zero =>
      simp only [note.eq_3] at h
      rw [if_neg (Nat.not_succ_le_zero 0)] at h
      have hkept := note_refresh hsecond h
      simp only [letters, edited, List.getElem?_cons_zero] at hkept hb
      exact Option.some.inj (hb.symm.trans hkept)
    | succ i => simp [note] at h
  obtain ⟨hsize, -, hnone⟩ := refresh_shows_document actions ⟨.css, 2⟩ edited hd
  exact ⟨hd, hsize, hnone 3 (by decide)⟩

end Highlighting.DocumentCache
