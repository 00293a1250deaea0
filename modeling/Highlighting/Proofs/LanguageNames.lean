import Highlighting.Language
import Mathlib.Data.List.TakeWhile
import Mathlib.Logic.Relation

/-! Names of languages. Two names stand for one language exactly if white space around them, letter case and
other names of a language turn one into the other, or if no language but plain text has either of them. -/

namespace Highlighting

open Relation

namespace Text

section

variable {text left right : Text}

lemma lowerChar_of_le {c : Char} (h : 128 ≤ c.toNat) (hk : c ≠ '\u212a') : lowerChar c = c := by
  have hupper : ¬ (c.val ≥ 'A'.val ∧ c.val ≤ 'Z'.val) := by
    rintro ⟨-, hle⟩
    have hle' : c.toNat ≤ 90 := UInt32.le_iff_toNat_le.mp hle
    omega
  rw [lowerChar, if_neg hk]
  exact dif_neg hupper

lemma lowerChar_lower_blank (c : Char) :
    lowerChar (lowerChar c) = lowerChar c ∧ Unicode.isBlank (lowerChar c) = Unicode.isBlank c := by
  by_cases hascii : c.toNat < 128
  · have hall : ∀ n < 128, lowerChar (lowerChar (Char.ofNat n)) = lowerChar (Char.ofNat n) ∧
        Unicode.isBlank (lowerChar (Char.ofNat n)) = Unicode.isBlank (Char.ofNat n) := by decide
    rw [← Char.ofNat_toNat c]
    exact hall c.toNat hascii
  · by_cases hk : c = '\u212a'
    · rw [hk]
      decide
    · have hsame := lowerChar_of_le (Nat.not_lt.mp hascii) hk
      rw [hsame, hsame]
      exact ⟨rfl, rfl⟩

lemma lowerName_lowerName (text : Text) : lowerName (lowerName text) = lowerName text := by
  simp [lowerName, lowerChar_lower_blank]

lemma trim_lowerName (text : Text) : trim (lowerName text) = lowerName (trim text) := by
  have hblank : Unicode.isBlank ∘ lowerChar = Unicode.isBlank := by
    funext c
    exact (lowerChar_lower_blank c).2
  simp [trim, lowerName, List.dropWhile_map, ← List.map_reverse, hblank]

lemma trim_of_blanks (hleft : ∀ c ∈ left, Unicode.isBlank c = true)
    (hright : ∀ c ∈ right, Unicode.isBlank c = true) : trim (left ++ text ++ right) = trim text := by
  have hback : right.dropWhile Unicode.isBlank = [] := List.dropWhile_eq_nil_iff.mpr hright
  have hrev : ∀ c ∈ right.reverse, Unicode.isBlank c = true := by simpa using hright
  rw [trim, List.append_assoc, List.dropWhile_append_of_pos hleft, List.dropWhile_append, hback]
  split
  · rename_i hempty
    rw [trim, List.isEmpty_iff.mp hempty]
  · rw [List.reverse_append, List.dropWhile_append_of_pos hrev, trim]

lemma exists_blanks (text : Text) : ∃ left right, text = left ++ trim text ++ right ∧
    (∀ c ∈ left, Unicode.isBlank c = true) ∧ ∀ c ∈ right, Unicode.isBlank c = true := by
  have hleft := List.takeWhile_append_dropWhile (p := Unicode.isBlank) (l := text)
  have hright := List.takeWhile_append_dropWhile (p := Unicode.isBlank)
    (l := (text.dropWhile Unicode.isBlank).reverse)
  refine ⟨text.takeWhile Unicode.isBlank,
    ((text.dropWhile Unicode.isBlank).reverse.takeWhile Unicode.isBlank).reverse, ?_,
    fun c hc => List.mem_takeWhile_imp hc, fun c hc => List.mem_takeWhile_imp (List.mem_reverse.mp hc)⟩
  rw [List.append_assoc, trim, ← List.reverse_append, hright, List.reverse_reverse, hleft]

end

end Text

namespace Language

/-- The names of each language, in lower case. Plain text has none: it is what any other name stands for. -/
def spellings : Language → List String
  | python => ["python", "py"]
  | javaScript => ["javascript", "js"]
  | html => ["html", "htm"]
  | css => ["css"]
  | sql => ["sql"]
  | java => ["java"]
  | cpp => ["c++", "cpp"]
  | cSharp => ["c#", "cs"]
  | php => ["php"]
  | ruby => ["ruby"]
  | go => ["go"]
  | text => []

inductive Respelled : String → String → Prop
  | blanks {left right : Text} (name : Text) : (∀ c ∈ left, Unicode.isBlank c = true) →
      (∀ c ∈ right, Unicode.isBlank c = true) →
      Respelled (String.ofList (left ++ name ++ right)) (String.ofList name)
  | letterCase {a b : String} : Text.lowerName a.toList = Text.lowerName b.toList → Respelled a b
  | other {a b : String} {language : Language} : a ∈ spellings language → b ∈ spellings language →
      Respelled a b

def Unknown (name : String) : Prop :=
  ∀ language, ∀ known ∈ spellings language, ¬ EqvGen Respelled known name

section

variable {a b : String} {language : Language}

lemma ofName_spelling (h : a ∈ spellings language) : ofName a = language := by
  have hall : ∀ s ∈ spellings language, ofName s = language := by
    cases language <;> decide
  exact hall a h

lemma mem_spellings (h : ofLowerName a ≠ text) : a ∈ spellings (ofLowerName a) := by
  unfold ofLowerName at h ⊢
  split <;> simp [spellings] at h ⊢

lemma ofName_eq_of_respelled (h : Respelled a b) : ofName a = ofName b := by
  cases h with
  | blanks name hleft hright =>
    rw [ofName, ofName, String.toList_ofList, Text.trim_of_blanks hleft hright, String.toList_ofList]
  | letterCase h => rw [ofName, ofName, ← Text.trim_lowerName, h, Text.trim_lowerName]
  | other ha hb => rw [ofName_spelling ha, ofName_spelling hb]

lemma ofName_eq_of_eqvGen (h : EqvGen Respelled a b) : ofName a = ofName b := by
  induction h with
  | rel a b h => exact ofName_eq_of_respelled h
  | refl a => rfl
  | symm a b _ ih => exact ih.symm
  | trans a b c _ _ ih ih' => exact ih.trans ih'

lemma eqvGen_lowerName (name : String) :
    EqvGen Respelled name (String.ofList (Text.lowerName (Text.trim name.toList))) := by
  obtain ⟨left, right, hname, hleft, hright⟩ := Text.exists_blanks name.toList
  have htrim : Respelled name (String.ofList (Text.trim name.toList)) := by
    have hblanks := Respelled.blanks (Text.trim name.toList) hleft hright
    rwa [← hname, String.ofList_toList] at hblanks
  have hlower : Respelled (String.ofList (Text.trim name.toList))
      (String.ofList (Text.lowerName (Text.trim name.toList))) := by
    apply Respelled.letterCase
    rw [String.toList_ofList, String.toList_ofList, Text.lowerName_lowerName]
  exact (EqvGen.rel _ _ htrim).trans _ _ _ (EqvGen.rel _ _ hlower)

lemma exists_spelling (h : ofName a ≠ text) : ∃ s ∈ spellings (ofName a), EqvGen Respelled a s :=
  ⟨_, mem_spellings h, eqvGen_lowerName a⟩

lemma unknown_iff : Unknown a ↔ ofName a = text := by
  constructor
  · intro h
    by_contra hne
    obtain ⟨s, hs, heqv⟩ := exists_spelling hne
    exact h _ s hs (heqv.symm _ _)
  · intro h language s hs heqv
    rw [← ofName_eq_of_eqvGen heqv, ofName_spelling hs] at h
    rw [h] at hs
    cases hs

lemma ofName_eq_iff : ofName a = ofName b ↔ EqvGen Respelled a b ∨ (Unknown a ∧ Unknown b) := by
  constructor
  · intro h
    by_cases ha : ofName a = text
    · exact Or.inr ⟨unknown_iff.mpr ha, unknown_iff.mpr (h.symm.trans ha)⟩
    · obtain ⟨s, hs, hsa⟩ := exists_spelling ha
      obtain ⟨t, ht, htb⟩ := exists_spelling (h ▸ ha)
      rw [h] at hs
      exact Or.inl ((hsa.trans _ _ _ (.rel _ _ (.other hs ht))).trans _ _ _ (htb.symm _ _))
  · rintro (h | ⟨ha, hb⟩)
    · exact ofName_eq_of_eqvGen h
    · rw [unknown_iff.mp ha, unknown_iff.mp hb]

end

end Language

end Highlighting
