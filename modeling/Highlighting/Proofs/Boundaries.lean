import Highlighting.Text.Bytes
import Mathlib.Data.Nat.Basic

/-! Offsets between the characters of a text are those at which it can be cut. -/

namespace Highlighting

namespace Text

@[simp] lemma byteLength_nil : byteLength [] = 0 := rfl

@[simp] lemma byteLength_cons (c : Char) (cs : Text) :
    byteLength (c :: cs) = c.utf8Size + byteLength cs := rfl

@[simp] lemma byteLength_append (a b : Text) : byteLength (a ++ b) = byteLength a + byteLength b := by
  induction a with
  | nil => simp
  | cons c a ih => simp [ih, Nat.add_assoc]

lemma byteLength_eq_zero {a : Text} : byteLength a = 0 ↔ a = [] := by
  cases a with
  | nil => simp
  | cons c a =>
    have hc := c.utf8Size_pos
    simp
    omega

lemma byteLength_pos {a : Text} (h : a ≠ []) : 0 < byteLength a :=
  Nat.pos_of_ne_zero (mt byteLength_eq_zero.mp h)

lemma exists_between {a b c d : Text} (h : a ++ b = c ++ d) (hle : byteLength a ≤ byteLength c) :
    ∃ own, c = a ++ own ∧ b = own ++ d := by
  obtain ⟨own, rfl, rfl⟩ | ⟨own, rfl, rfl⟩ := List.append_eq_append_iff.mp h
  · exact ⟨own, rfl, rfl⟩
  · rw [byteLength_append] at hle
    obtain rfl : own = [] := byteLength_eq_zero.mp (by omega)
    exact ⟨[], by simp, by simp⟩

lemma cut_unique {a b c d : Text} (h : a ++ b = c ++ d) (hlength : byteLength a = byteLength c) :
    a = c ∧ b = d := by
  obtain ⟨own, rfl, rfl⟩ := exists_between h (Nat.le_of_eq hlength)
  rw [byteLength_append] at hlength
  obtain rfl : own = [] := byteLength_eq_zero.mp (by omega)
  simp

def IsBoundary (text : Text) (n : Nat) : Prop :=
  ∃ before behind, text = before ++ behind ∧ byteLength before = n

lemma isBoundary_zero (text : Text) : IsBoundary text 0 := ⟨[], text, rfl, rfl⟩

lemma isBoundary_byteLength (text : Text) : IsBoundary text (byteLength text) :=
  ⟨text, [], by simp, rfl⟩

lemma IsBoundary.le {text : Text} {n : Nat} (h : IsBoundary text n) : n ≤ byteLength text := by
  obtain ⟨before, behind, rfl, rfl⟩ := h
  simp

lemma dropBytes?_eq_some {n : Nat} {text behind : Text} :
    dropBytes? n text = some behind ↔ ∃ before, text = before ++ behind ∧ byteLength before = n := by
  fun_induction dropBytes? n text with
  | case1 text =>
    constructor
    · intro h
      exact ⟨[], by simpa using h, rfl⟩
    · rintro ⟨before, rfl, hb⟩
      rw [byteLength_eq_zero.mp hb, List.nil_append]
  | case2 n =>
    constructor
    · intro h
      simp at h
    · rintro ⟨before, h, hb⟩
      obtain ⟨rfl, -⟩ := List.append_eq_nil_iff.mp h.symm
      simp at hb
  | case3 n c text hc ih =>
    rw [ih]
    constructor
    · rintro ⟨before, rfl, hb⟩
      refine ⟨c :: before, rfl, ?_⟩
      rw [byteLength_cons, hb, Nat.add_sub_cancel' hc]
    · rintro ⟨before, h, hb⟩
      cases before with
      | nil => simp at hb
      | cons d before =>
        simp only [List.cons_append, List.cons.injEq] at h
        obtain ⟨rfl, rfl⟩ := h
        rw [byteLength_cons] at hb
        exact ⟨before, rfl, by omega⟩
  | case4 n c text hc =>
    constructor
    · intro h
      simp at h
    · rintro ⟨before, h, hb⟩
      cases before with
      | nil => simp at hb
      | cons d before =>
        simp only [List.cons_append, List.cons.injEq] at h
        obtain ⟨rfl, rfl⟩ := h
        rw [byteLength_cons] at hb
        omega

lemma takeBytes?_eq_some {n : Nat} {text own : Text} :
    takeBytes? n text = some own ↔ byteLength own = n ∧ own <+: text := by
  fun_induction takeBytes? n text generalizing own with
  | case1 text =>
    constructor
    · intro h
      obtain rfl : [] = own := by simpa using h
      exact ⟨rfl, List.nil_prefix⟩
    · rintro ⟨hb, -⟩
      rw [byteLength_eq_zero.mp hb]
  | case2 n =>
    constructor
    · intro h
      simp at h
    · rintro ⟨hb, h⟩
      obtain rfl := List.prefix_nil.mp h
      simp at hb
  | case3 n c text hc ih =>
    simp only [Option.map_eq_some_iff, ih]
    constructor
    · rintro ⟨own, ⟨hb, h⟩, rfl⟩
      exact ⟨by rw [byteLength_cons]; omega, (List.prefix_cons_inj c).mpr h⟩
    · rintro ⟨hb, h⟩
      cases own with
      | nil => simp at hb
      | cons d own =>
        obtain ⟨rfl, hown⟩ := List.cons_prefix_cons.mp h
        rw [byteLength_cons] at hb
        exact ⟨own, ⟨by omega, hown⟩, rfl⟩
  | case4 n c text hc =>
    constructor
    · intro h
      simp at h
    · rintro ⟨hb, h⟩
      cases own with
      | nil => simp at hb
      | cons d own =>
        obtain ⟨rfl, -⟩ := List.cons_prefix_cons.mp h
        rw [byteLength_cons] at hb
        omega

lemma slice?_eq_some {text own : Text} {start stop : Nat} :
    text.slice? start stop = some own ↔ ∃ before behind, text = before ++ own ++ behind ∧
      byteLength before = start ∧ start + byteLength own = stop := by
  by_cases hle : start ≤ stop
  · simp only [slice?, if_pos hle, Option.bind_eq_some_iff, dropBytes?_eq_some, takeBytes?_eq_some]
    constructor
    · rintro ⟨_, ⟨before, rfl, hb⟩, ho, behind, rfl⟩
      exact ⟨before, behind, by simp, hb, by omega⟩
    · rintro ⟨before, behind, rfl, hb, ho⟩
      exact ⟨own ++ behind, ⟨before, by simp, hb⟩, by omega, List.prefix_append _ _⟩
  · simp only [slice?, if_neg hle, reduceCtorEq, false_iff]
    rintro ⟨before, behind, -, -, ho⟩
    omega

lemma slice?_isSome {text : Text} {start stop : Nat} :
    (text.slice? start stop).isSome ↔ start ≤ stop ∧ IsBoundary text start ∧ IsBoundary text stop := by
  rw [Option.isSome_iff_exists]
  simp only [slice?_eq_some]
  constructor
  · rintro ⟨own, before, behind, rfl, rfl, rfl⟩
    exact ⟨by omega, ⟨before, own ++ behind, by simp, rfl⟩, ⟨before ++ own, behind, by simp, by simp⟩⟩
  · rintro ⟨hle, ⟨before, behind, rfl, rfl⟩, ⟨before', behind', h, rfl⟩⟩
    obtain ⟨own, rfl, rfl⟩ := exists_between h hle
    exact ⟨own, before, behind', by simp, rfl, by simp⟩

end Text

end Highlighting
