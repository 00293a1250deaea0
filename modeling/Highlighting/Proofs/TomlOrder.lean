import Highlighting.Proofs.TomlKeys
import Mathlib.Data.List.Sort
import Mathlib.Data.String.Basic

/-! Entries in the order of their keys. Tables with the same entries, in whatever order, have the same first, second and
last entry then. -/

namespace Highlighting.Toml

/-- Values that differ at most in the order of entries and in how their tables came about. -/
inductive Value.Same : Value → Value → Prop
  | refl (value : Value) : Value.Same value value
  | array {items others : List Value} : List.Forall₂ Value.Same items others → Value.Same (.array items) (.array others)
  | table {origin origin' : Origin} {entries shuffled others : Entries} : entries.Perm shuffled →
      shuffled.map (·.1) = others.map (·.1) → List.Forall₂ Value.Same (shuffled.map (·.2)) (others.map (·.2)) →
      Value.Same (.table origin entries) (.table origin' others)

namespace Entries

def SameEntry (a b : String × Value) : Prop := a.1 = b.1 ∧ Value.Same a.2 b.2

def Same (entries others : Entries) : Prop := Value.Same (.table .header entries) (.table .header others)

variable {entries others : Entries}

lemma insertByKey_perm (entry : String × Value) (entries : Entries) :
    (insertByKey entry entries).Perm (entry :: entries) := by
  induction entries with
  | nil => rfl
  | cons other rest ih =>
    rw [insertByKey]
    split
    · rfl
    · exact (ih.cons other).trans (List.Perm.swap entry other rest)

lemma byKey_perm (entries : Entries) : entries.byKey.Perm entries := by
  induction entries with
  | nil => rfl
  | cons entry rest ih => exact (insertByKey_perm entry (byKey rest)).trans (ih.cons entry)

lemma mem_byKey {entry : String × Value} : entry ∈ entries.byKey ↔ entry ∈ entries :=
  (byKey_perm entries).mem_iff

lemma insertByKey_pairwise (entry : String × Value) (h : entries.Pairwise (·.1 ≤ ·.1)) :
    (insertByKey entry entries).Pairwise (·.1 ≤ ·.1) := by
  induction entries with
  | nil => simp [insertByKey]
  | cons other rest ih =>
    obtain ⟨ho, hr⟩ := List.pairwise_cons.mp h
    rw [insertByKey]
    split
    · rename_i hle
      refine List.pairwise_cons.mpr ⟨fun x hx => ?_, h⟩
      rcases List.mem_cons.mp hx with rfl | hx
      · exact hle
      · exact hle.trans (ho x hx)
    · rename_i hlt
      refine List.pairwise_cons.mpr ⟨fun x hx => ?_, ih hr⟩
      rcases List.mem_cons.mp ((insertByKey_perm entry rest).mem_iff.mp hx) with rfl | hx
      · exact (not_le.mp hlt).le
      · exact ho x hx

lemma byKey_pairwise (entries : Entries) : entries.byKey.Pairwise (·.1 ≤ ·.1) := by
  induction entries with
  | nil => exact List.Pairwise.nil
  | cons entry rest ih => exact insertByKey_pairwise entry ih

lemma Distinct.byKey (h : entries.Distinct) : (entries.byKey.map (·.1)).Nodup :=
  ((byKey_perm entries).map _).nodup_iff.mpr (distinct_iff.mp h).1

lemma eq_byKey (hn : (entries.map (·.1)).Nodup) (hp : others.Perm entries)
    (hs : others.Pairwise (·.1 ≤ ·.1)) : others = entries.byKey := by
  refine List.Perm.eq_of_pairwise (fun a b ha hb hab hba => ?_) hs (byKey_pairwise entries)
    (hp.trans (byKey_perm entries).symm)
  exact List.inj_on_of_nodup_map hn (hp.mem_iff.mp ha) (mem_byKey.mp hb) (le_antisymm hab hba)

lemma insertByKey_same {a b : String × Value} (hab : SameEntry a b) (h : List.Forall₂ SameEntry entries others) :
    List.Forall₂ SameEntry (insertByKey a entries) (insertByKey b others) := by
  induction h with
  | nil => exact .cons hab .nil
  | cons hxy hrest ih =>
    rw [insertByKey, insertByKey, hab.1, hxy.1]
    split
    · exact .cons hab (.cons hxy hrest)
    · exact .cons hxy ih

lemma byKey_same_of_forall₂ (h : List.Forall₂ SameEntry entries others) :
    List.Forall₂ SameEntry entries.byKey others.byKey := by
  induction h with
  | nil => exact .nil
  | cons hxy _ ih => exact insertByKey_same hxy ih

lemma sameEntry_refl (entries : Entries) : List.Forall₂ SameEntry entries entries :=
  List.forall₂_same.mpr fun _ _ => ⟨rfl, .refl _⟩

lemma sameEntry_of_columns {shuffled : Entries} (hk : shuffled.map (·.1) = others.map (·.1))
    (hv : List.Forall₂ Value.Same (shuffled.map (·.2)) (others.map (·.2))) :
    List.Forall₂ SameEntry shuffled others := by
  induction shuffled generalizing others with
  | nil =>
    cases others with
    | nil => exact .nil
    | cons => cases hk
  | cons a rest ih =>
    cases others with
    | nil => cases hk
    | cons b more =>
      obtain ⟨hab, hk⟩ := List.cons.inj hk
      cases hv with
      | cons hv hrest => exact .cons ⟨hab, hv⟩ (ih hk hrest)

lemma byKey_same {origin origin' : Origin} (hd : entries.Distinct)
    (h : Value.Same (.table origin entries) (.table origin' others)) :
    List.Forall₂ SameEntry entries.byKey others.byKey := by
  cases h with
  | refl => exact sameEntry_refl _
  | table hp hk hv =>
    rename_i shuffled
    have hs : shuffled.byKey = entries.byKey :=
      eq_byKey (distinct_iff.mp hd).1 ((byKey_perm shuffled).trans hp.symm) (byKey_pairwise shuffled)
    rw [← hs]
    exact byKey_same_of_forall₂ (sameEntry_of_columns hk hv)

section Selection

variable {select : String × Value → Option (String × Value)}

lemma keys_filterMap_sublist (hs : ∀ entry other, select entry = some other → other.1 = entry.1)
    (entries : Entries) : ((entries.filterMap select).map (·.1)).Sublist (entries.map (·.1)) := by
  induction entries with
  | nil => simp
  | cons entry rest ih =>
    cases h : select entry with
    | none => simpa [List.filterMap_cons, h] using ih.cons entry.1
    | some other => simpa [List.filterMap_cons, h, hs entry other h] using ih.cons_cons entry.1

lemma byKey_filterMap (hs : ∀ entry other, select entry = some other → other.1 = entry.1)
    (hn : (entries.map (·.1)).Nodup) : byKey (entries.filterMap select) = entries.byKey.filterMap select := by
  refine (eq_byKey ?_ ((byKey_perm entries).filterMap select) ?_).symm
  · exact hn.sublist (keys_filterMap_sublist hs entries)
  · refine (byKey_pairwise entries).filterMap select fun a b hab a' ha b' hb => ?_
    rw [hs a a' ha, hs b b' hb]
    exact hab

end Selection

end Entries

/-! ## Visiting entries one after another -/

section Visit

variable {σ ε : Type} {visit : σ → String × Value → Except ε σ} {valid : String × Value → Prop}
  {entries others : Entries} {s last : σ}

lemma foldlM_ok_iff (hv : ∀ s entry, (∃ next, visit s entry = .ok next) ↔ valid entry) :
    (∃ last, entries.foldlM visit s = .ok last) ↔ ∀ entry ∈ entries, valid entry := by
  induction entries generalizing s with
  | nil => simp [pure, Except.pure]
  | cons entry rest ih =>
    rw [List.forall_mem_cons, ← hv s entry, List.foldlM_cons]
    cases h : visit s entry with
    | error fault => simp [bind, Except.bind]
    | ok next => simpa [bind, Except.bind] using ih

lemma foldlM_keeps {kept : σ → Prop} (hv : ∀ s entry next, kept s → visit s entry = .ok next → kept next)
    (hs : kept s) (h : entries.foldlM visit s = .ok last) : kept last := by
  induction entries generalizing s with
  | nil =>
    cases h
    exact hs
  | cons entry rest ih =>
    rw [List.foldlM_cons] at h
    cases hx : visit s entry with
    | error fault => rw [hx] at h; cases h
    | ok next =>
      rw [hx] at h
      exact ih (hv s entry next hs hx) h

lemma foldlM_error {fault : ε} (hv : ∀ s entry, (∃ next, visit s entry = .ok next) ↔ valid entry)
    (hsorted : entries.Pairwise (·.1 ≤ ·.1)) (h : entries.foldlM visit s = .error fault) :
    ∃ entry ∈ entries, (∃ s, visit s entry = .error fault) ∧
      ∀ other ∈ entries, ¬ valid other → entry.1 ≤ other.1 := by
  induction entries generalizing s with
  | nil => cases h
  | cons entry rest ih =>
    obtain ⟨hle, hrest⟩ := List.pairwise_cons.mp hsorted
    rw [List.foldlM_cons] at h
    cases hx : visit s entry with
    | error found =>
      rw [hx] at h
      cases h
      refine ⟨entry, .head _, ⟨s, hx⟩, fun other hmem _ => ?_⟩
      rcases List.mem_cons.mp hmem with rfl | hmem
      · exact le_rfl
      · exact hle other hmem
    | ok next =>
      rw [hx] at h
      obtain ⟨found, hmem, hf, hleast⟩ := ih hrest h
      refine ⟨found, .tail _ hmem, hf, fun other ho hbad => ?_⟩
      rcases List.mem_cons.mp ho with rfl | ho
      · exact absurd ((hv s other).mp ⟨next, hx⟩) hbad
      · exact hleast other ho hbad

lemma foldlM_part {β : Type} (part : σ → β) (name : String) (sets : β → Value → β → Prop)
    (hset : ∀ s value next, (name, value) ∈ entries → visit s (name, value) = .ok next →
      sets (part s) value (part next))
    (hkeep : ∀ s entry next, visit s entry = .ok next → entry.1 ≠ name → part next = part s)
    (hn : (entries.map (·.1)).Nodup) (h : entries.foldlM visit s = .ok last) :
    (∀ value, (name, value) ∈ entries → sets (part s) value (part last)) ∧
      ((∀ value, (name, value) ∉ entries) → part last = part s) := by
  induction entries generalizing s with
  | nil => cases h; simp
  | cons entry rest ih =>
    rw [List.foldlM_cons] at h
    obtain ⟨hfresh, hn⟩ := List.nodup_cons.mp hn
    cases hx : visit s entry with
    | error fault => rw [hx] at h; cases h
    | ok next =>
      rw [hx] at h
      obtain ⟨ihset, ihkeep⟩ := ih (fun s value next hmem => hset s value next (.tail _ hmem)) hn h
      by_cases hk : entry.1 = name
      · obtain ⟨key, old⟩ := entry
        subst hk
        have habsent (value : Value) : (key, value) ∉ rest := fun hmem =>
          hfresh (List.mem_map.mpr ⟨(key, value), hmem, rfl⟩)
        -- no later entry has this key, so that the part stays as it is set here
        refine ⟨fun value hmem => ?_, fun hnone => absurd (List.mem_cons_self) (hnone old)⟩
        rcases List.mem_cons.mp hmem with he | hmem
        · cases he
          rw [ihkeep habsent]
          exact hset s old next (.head _) hx
        · exact absurd hmem (habsent value)
      · have hpart := hkeep s entry next hx hk
        refine ⟨fun value hmem => ?_, fun hnone => ?_⟩
        · rcases List.mem_cons.mp hmem with rfl | hmem
          · exact absurd rfl hk
          · exact hpart ▸ ihset value hmem
        · exact (ihkeep fun value hmem => hnone value (.tail _ hmem)).trans hpart

lemma foldlM_congr {related : String × Value → String × Value → Prop}
    (hv : ∀ s a b, a ∈ entries → related a b → visit s a = visit s b) (h : List.Forall₂ related entries others) :
    entries.foldlM visit s = others.foldlM visit s := by
  induction h generalizing s with
  | nil => rfl
  | cons hab hrest ih =>
    rw [List.foldlM_cons, List.foldlM_cons, hv s _ _ (.head _) hab]
    congr 1
    funext next
    exact ih fun s a b ha => hv s a b (.tail _ ha)

lemma foldlM_filterMap_eq {select : String × Value → Option (String × Value)}
    (hnone : ∀ s entry, select entry = none → visit s entry = .ok s)
    (hsome : ∀ s entry other, entry ∈ entries → select entry = some other → visit s other = visit s entry) :
    (entries.filterMap select).foldlM visit s = entries.foldlM visit s := by
  induction entries generalizing s with
  | nil => rfl
  | cons entry rest ih =>
    have hrest : ∀ s entry other, entry ∈ rest → select entry = some other → visit s other = visit s entry :=
      fun s entry other h => hsome s entry other (.tail _ h)
    rw [List.foldlM_cons]
    cases h : select entry with
    | none =>
      rw [List.filterMap_cons_none h, hnone s entry h]
      exact ih hrest
    | some other =>
      rw [List.filterMap_cons_some h, List.foldlM_cons, hsome s entry other (.head _) h]
      congr 1
      funext next
      exact ih hrest

end Visit

end Highlighting.Toml
