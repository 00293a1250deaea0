import Highlighting.Proofs.Spelling
import Mathlib.Data.Nat.Find

/-! Places of a text told by offsets: where a word stands, which places are on one line, and where the line
ends. -/

namespace Highlighting.Text

def StandsAt (text word : Text) (n : Nat) : Prop :=
  ∃ before behind, text = before ++ (word ++ behind) ∧ byteLength before = n

def SameLine (text : Text) (m n : Nat) : Prop :=
  ∃ before own behind, text = before ++ (own ++ behind) ∧ byteLength before = m ∧
    m + byteLength own = n ∧ '\n' ∉ own

def EndsLine (text : Text) (n : Nat) : Prop :=
  ∃ before behind, text = before ++ behind ∧ byteLength before = n ∧ behind.AtLineEnd

def FirstOnLine (text word : Text) (n : Nat) : Prop :=
  text.StandsAt word n ∧ ∀ k, text.StandsAt word k → text.SameLine k n → n ≤ k

section

variable {text word : Text} {k m n : Nat}

lemma exists_lineEnd (text : Text) : ∃ own behind, text = own ++ behind ∧ '\n' ∉ own ∧ behind.AtLineEnd := by
  induction text with
  | nil => exact ⟨[], [], rfl, List.not_mem_nil, Or.inl rfl⟩
  | cons c text ih =>
    by_cases hc : c = '\n'
    · exact ⟨[], c :: text, rfl, List.not_mem_nil, Or.inr ⟨text, by rw [hc]⟩⟩
    · obtain ⟨own, behind, rfl, hown, hbehind⟩ := ih
      refine ⟨c :: own, behind, rfl, ?_, hbehind⟩
      rw [List.mem_cons, not_or]
      exact ⟨Ne.symm hc, hown⟩

lemma StandsAt.isBoundary (h : text.StandsAt word n) : text.IsBoundary n := by
  obtain ⟨before, behind, rfl, rfl⟩ := h
  exact ⟨before, word ++ behind, rfl, rfl⟩

lemma SameLine.refl (h : text.IsBoundary n) : text.SameLine n n := by
  obtain ⟨before, behind, rfl, rfl⟩ := h
  exact ⟨before, [], behind, rfl, rfl, rfl, List.not_mem_nil⟩

lemma SameLine.le (h : text.SameLine m n) : m ≤ n := by
  obtain ⟨before, own, behind, -, -, rfl, -⟩ := h
  exact Nat.le_add_right _ _

lemma SameLine.trans (h : text.SameLine k m) (h' : text.SameLine m n) : text.SameLine k n := by
  obtain ⟨before, own, behind, rfl, rfl, rfl, hown⟩ := h
  obtain ⟨before', own', behind', htext, hbefore, rfl, hown'⟩ := h'
  rw [← List.append_assoc] at htext
  obtain ⟨rfl, rfl⟩ := cut_unique htext (by rw [byteLength_append, hbefore])
  refine ⟨before, own ++ own', behind', by simp, rfl, by simp [Nat.add_assoc], ?_⟩
  rw [List.mem_append, not_or]
  exact ⟨hown, hown'⟩

lemma SameLine.split (h : text.SameLine k n) (hm : text.IsBoundary m) (hkm : k ≤ m) (hmn : m ≤ n) :
    text.SameLine k m ∧ text.SameLine m n := by
  obtain ⟨before, own, behind, rfl, rfl, rfl, hown⟩ := h
  obtain ⟨before', rest, htext, rfl⟩ := hm
  obtain ⟨left, rfl, hrest⟩ := exists_between htext hkm
  rw [byteLength_append, Nat.add_le_add_iff_left] at hmn
  obtain ⟨right, rfl, hright⟩ := exists_between hrest.symm hmn
  rw [List.mem_append, not_or] at hown
  refine ⟨⟨before, left, right ++ behind, by simp, rfl, by simp, hown.1⟩,
    ⟨before ++ left, right, behind, by simp, rfl, by simp [Nat.add_assoc], hown.2⟩⟩

lemma standsAt_iff : text.StandsAt word n ↔ (dropBytes? n text).any (word.isPrefixOf ·) = true := by
  rw [Option.any_eq_true]
  constructor
  · rintro ⟨before, behind, htext, hbefore⟩
    exact ⟨word ++ behind, dropBytes?_eq_some.mpr ⟨before, htext, hbefore⟩, by simp⟩
  · rintro ⟨rest, hrest, hprefix⟩
    obtain ⟨before, htext, hbefore⟩ := dropBytes?_eq_some.mp hrest
    obtain ⟨behind, rfl⟩ := List.isPrefixOf_iff_prefix.mp hprefix
    exact ⟨before, behind, htext, hbefore⟩

instance (text word : Text) (n : Nat) : Decidable (text.StandsAt word n) := decidable_of_iff _ standsAt_iff.symm

lemma StandsAt.unique {other : Text} (h : text.StandsAt word n) (h' : text.StandsAt other n)
    (hlength : byteLength word = byteLength other) : word = other := by
  obtain ⟨before, behind, rfl, rfl⟩ := h
  obtain ⟨before', behind', htext, hbefore⟩ := h'
  obtain ⟨-, hrest⟩ := cut_unique htext hbefore.symm
  exact (cut_unique hrest hlength).1

lemma StandsAt.endsLine (h : text.StandsAt ['\n'] n) : text.EndsLine n := by
  obtain ⟨before, behind, rfl, rfl⟩ := h
  exact ⟨before, ['\n'] ++ behind, rfl, rfl, Or.inr ⟨behind, rfl⟩⟩

lemma EndsLine.isBoundary (h : text.EndsLine n) : text.IsBoundary n := by
  obtain ⟨before, behind, htext, hbefore, -⟩ := h
  exact ⟨before, behind, htext, hbefore⟩

lemma EndsLine.eq_of_sameLine (h : text.EndsLine m) (hline : text.SameLine m n) : m = n := by
  obtain ⟨before, behind, rfl, rfl, hbehind⟩ := h
  obtain ⟨before', own, rest, htext, hbefore, rfl, hown⟩ := hline
  obtain ⟨rfl, rfl⟩ := cut_unique htext hbefore.symm
  cases own with
  | nil => rfl
  | cons c own =>
    rcases hbehind with hnil | ⟨later, hlater⟩
    · cases hnil
    · obtain rfl : c = '\n' := (List.cons.inj hlater).1
      exact (hown List.mem_cons_self).elim

lemma FirstOnLine.eq_of_sameLine (hm : text.FirstOnLine word m) (hn : text.FirstOnLine word n)
    (hline : text.SameLine m n) : m = n :=
  Nat.le_antisymm hline.le (hn.2 m hm.1 hline)

lemma exists_firstOnLine (h : text.StandsAt word n) :
    ∃ first, text.FirstOnLine word first ∧ text.SameLine first n := by
  classical
  have hsome : ∃ k, text.StandsAt word k ∧ text.SameLine k n := ⟨n, h, .refl h.isBoundary⟩
  obtain ⟨hstands, hline⟩ := Nat.find_spec hsome
  refine ⟨Nat.find hsome, ⟨hstands, fun k hk hkf => ?_⟩, hline⟩
  exact Nat.find_min' hsome ⟨hk, hkf.trans hline⟩

lemma StandsAt.exists_rest (h : text.StandsAt word m) (hword : '\n' ∉ word) (hline : text.SameLine m n)
    (hend : text.EndsLine n) : ∃ before own behind, text = before ++ (word ++ (own ++ behind)) ∧
      byteLength before = m ∧ m + byteLength word + byteLength own = n ∧ '\n' ∉ own ∧ behind.AtLineEnd := by
  obtain ⟨before, rest, rfl, rfl⟩ := h
  obtain ⟨before₁, line, rest₁, htext, hbefore, rfl, hown⟩ := hline
  obtain ⟨before₂, behind, htext', hbefore', hbehind⟩ := hend
  obtain ⟨rfl, hrest⟩ := cut_unique htext hbefore.symm
  rw [hrest, ← List.append_assoc] at htext'
  obtain ⟨-, rfl⟩ := cut_unique htext' (by rw [byteLength_append, hbefore'])
  have hprefix : word <+: line ++ rest₁ := hrest ▸ List.prefix_append word rest
  obtain ⟨own, rfl⟩ := (Pattern.prefix_append_iff hword hbehind).mp hprefix
  rw [List.mem_append, not_or] at hown
  refine ⟨before, own, rest₁, ?_, rfl, by simp [Nat.add_assoc], hown.2, hbehind⟩
  rw [hrest, List.append_assoc]

lemma StandsAt.lt_lineEnd (h : text.StandsAt word m) (hne : word ≠ []) (hword : '\n' ∉ word)
    (hline : text.SameLine m n) (hend : text.EndsLine n) : m < n := by
  obtain ⟨before, own, behind, -, -, rfl, -⟩ := h.exists_rest hword hline hend
  have hpos := byteLength_pos hne
  omega

end

end Highlighting.Text
