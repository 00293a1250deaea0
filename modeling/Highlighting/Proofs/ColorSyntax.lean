import Highlighting.Proofs.LanguageNames
import Highlighting.Style.Color

/-! The syntax of colors. A text means at most one color: a mixture in six hexadecimal digits behind a hash sign
or one of the names. Beyond these, a plus sign may stand for the first digit of a component. -/

namespace Highlighting

namespace Text

def HexDigit (c : Char) (n : Nat) : Prop :=
  "0123456789abcdef".toList[n]? = some c ∨ "0123456789ABCDEF".toList[n]? = some c

instance (c : Char) (n : Nat) : Decidable (HexDigit c n) := inferInstanceAs (Decidable (_ ∨ _))

/-- A text and what full lower-casing makes of it. A character beyond ASCII may become anything that is not ASCII
throughout, but for the Kelvin sign. -/
inductive LowerCased : Text → Text → Prop
  | nil : LowerCased [] []
  | ascii {c : Char} {text low : Text} (hc : c.toNat < 128) (h : LowerCased text low) :
      LowerCased (c :: text) (c.toLower :: low)
  | kelvin {text low : Text} (h : LowerCased text low) : LowerCased ('\u212a' :: text) ('k' :: low)
  | other {c d : Char} {text piece low : Text} (hc : 128 ≤ c.toNat) (hk : c ≠ '\u212a') (hd : d ∈ piece)
      (hpiece : 128 ≤ d.toNat) (h : LowerCased text low) : LowerCased (c :: text) (piece ++ low)

section

variable {c : Char} {n : Nat} {text low : Text}

lemma digitValue?_ascii (h : digitValue? c = some n) : c.toNat < 128 := by
  have hbound {last : Char} (hlast : last.toNat < 128) (hle : c ≤ last) : c.toNat < 128 :=
    lt_of_le_of_lt (UInt32.le_iff_toNat_le.mp hle) hlast
  unfold digitValue? at h
  split_ifs at h with hdecimal hlower hupper
  · exact hbound (by decide) hdecimal.2
  · exact hbound (by decide) hlower.2
  · exact hbound (by decide) hupper.2

lemma HexDigit.lt (h : HexDigit c n) : n < 16 := by
  rcases h with h | h <;> exact (List.getElem?_eq_some_iff.mp h).1

lemma digitIn?_eq_some : digitIn? 16 c = some n ↔ HexDigit c n := by
  have hread : ∀ k < 128, (digitIn? 16 (Char.ofNat k)).all (HexDigit (Char.ofNat k) ·) = true := by decide
  have hwritten : ∀ n < 16, ("0123456789abcdef".toList[n]?).all (digitIn? 16 · = some n) = true ∧
      ("0123456789ABCDEF".toList[n]?).all (digitIn? 16 · = some n) = true := by decide
  constructor
  · intro h
    have hascii := digitValue?_ascii (Option.filter_eq_some_iff.mp h).1
    have hdigit := hread c.toNat hascii
    rw [Char.ofNat_toNat, h] at hdigit
    exact of_decide_eq_true hdigit
  · intro h
    have hvalue := hwritten n h.lt
    rcases h with h | h
    · rw [h] at hvalue
      exact of_decide_eq_true hvalue.1
    · rw [h] at hvalue
      exact of_decide_eq_true hvalue.2

lemma lowerCased_lowerName (text : Text) : LowerCased text (lowerName text) := by
  induction text with
  | nil => exact .nil
  | cons c text ih =>
    by_cases hk : c = '\u212a'
    · rw [hk]
      exact .kelvin ih
    · by_cases hc : c.toNat < 128
      · have hlow : lowerChar c = c.toLower := if_neg hk
        rw [lowerName, List.map_cons, hlow]
        exact .ascii hc ih
      · have hc := Nat.not_lt.mp hc
        have hlow : LowerCased (c :: text) ([c] ++ lowerName text) :=
          .other hc hk (List.mem_singleton_self c) hc ih
        rwa [lowerName, List.map_cons, lowerChar_of_le hc hk]

/-- Full lower-casing gives the name in lower case unless both hold a character beyond ASCII. -/
lemma LowerCased.eq_or_foreign (h : LowerCased text low) :
    low = lowerName text ∨ (∃ c ∈ low, 128 ≤ c.toNat) ∧ ∃ c ∈ lowerName text, 128 ≤ c.toNat := by
  have hcons {text low : Text} (c d : Char) (hd : lowerChar c = d)
      (ih : low = lowerName text ∨ (∃ c ∈ low, 128 ≤ c.toNat) ∧ ∃ c ∈ lowerName text, 128 ≤ c.toNat) :
      d :: low = lowerName (c :: text) ∨
        (∃ x ∈ d :: low, 128 ≤ x.toNat) ∧ ∃ x ∈ lowerName (c :: text), 128 ≤ x.toNat := by
    rw [lowerName, List.map_cons, hd]
    rcases ih with rfl | ⟨⟨x, hx, hforeign⟩, ⟨y, hy, hforeign'⟩⟩
    · exact Or.inl rfl
    · exact Or.inr ⟨⟨x, List.mem_cons_of_mem d hx, hforeign⟩, ⟨y, List.mem_cons_of_mem d hy, hforeign'⟩⟩
  induction h with
  | nil => exact Or.inl rfl
  | @ascii c text low hc _ ih =>
    refine hcons c c.toLower (if_neg ?_) ih
    rintro rfl
    exact absurd hc (by decide)
  | kelvin _ ih => exact hcons _ _ rfl ih
  | @other c d text piece low hc hk hd hpiece _ _ =>
    refine Or.inr ⟨⟨d, List.mem_append_left low hd, hpiece⟩, ⟨c, ?_, hc⟩⟩
    rw [lowerName, List.map_cons, lowerChar_of_le hc hk]
    exact List.mem_cons_self

lemma LowerCased.plus_mem (h : LowerCased text low) (hplus : '+' ∈ text) : '+' ∈ low := by
  induction h with
  | nil => cases hplus
  | ascii _ _ ih =>
    rcases List.mem_cons.mp hplus with rfl | htail
    · exact List.mem_cons_self
    · exact List.mem_cons_of_mem _ (ih htail)
  | kelvin _ ih =>
    rcases List.mem_cons.mp hplus with heq | htail
    · cases heq
    · exact List.mem_cons_of_mem _ (ih htail)
  | other hc _ _ _ _ ih =>
    rcases List.mem_cons.mp hplus with rfl | htail
    · exact absurd hc (by decide)
    · exact List.mem_append_right _ (ih htail)

end

end Text

namespace Color

open Text

/-- The names of colors. Gray, in either spelling, is another name of the bright black. -/
def names : List (String × Color) :=
  [("default", default), ("black", black), ("red", red), ("green", green), ("yellow", yellow), ("blue", blue),
    ("magenta", magenta), ("cyan", cyan), ("white", white), ("brightblack", brightBlack), ("grey", brightBlack),
    ("gray", brightBlack), ("brightred", brightRed), ("brightgreen", brightGreen), ("brightyellow", brightYellow),
    ("brightblue", brightBlue), ("brightmagenta", brightMagenta), ("brightcyan", brightCyan),
    ("brightwhite", brightWhite)]

def joined (name : Text) : String := String.ofList (name.filter fun c => c ≠ '-' && c ≠ '_')

def HexByte (c d : Char) (x : UInt8) : Prop := ∃ m n, HexDigit c m ∧ HexDigit d n ∧ x.toNat = 16 * m + n

/-- Two hexadecimal digits, the first of which may be a plus sign that stands for zero. -/
def SignedByte (c d : Char) (x : UInt8) : Prop := HexByte c d x ∨ c = '+' ∧ HexByte '0' d x

/-- The texts of a color without white space around them, for some way to write a component and with the text in
lower case. -/
inductive Written (component : Char → Char → UInt8 → Prop) (low : Text) : Text → Color → Prop
  | mixture {a b c d e f : Char} {red green blue : UInt8} (hred : component a b red)
      (hgreen : component c d green) (hblue : component e f blue) :
      Written component low ['#', a, b, c, d, e, f] (rgb red green blue)
  | name {text : Text} {color : Color} (hhash : text.head? ≠ some '#') (hname : (joined low, color) ∈ names) :
      Written component low text color

section

variable {component : Char → Char → UInt8 → Prop} {c d : Char} {x : UInt8} {name : String} {color : Color}
  {text low digits : Text}

lemma named?_eq_some : named? name = some color ↔ (name, color) ∈ names := by
  constructor
  · intro h
    unfold named? at h
    split at h <;> simp_all [names]
  · intro h
    have hall : ∀ known ∈ names, named? known.1 = some known.2 := by decide
    exact hall (name, color) h

lemma ascii_of_mem_names (h : (name, color) ∈ names) (hc : c ∈ name.toList) : c.toNat < 128 ∧ c ≠ '+' := by
  have hall : ∀ known ∈ names, known.1.toList.all (fun c => c.toNat < 128 ∧ c ≠ '+') = true := by decide
  exact of_decide_eq_true (List.all_eq_true.mp (hall (name, color) h) c hc)

lemma mem_joined (hc : c ∈ text) (hdash : c ≠ '-') (hline : c ≠ '_') : c ∈ (joined text).toList := by
  rw [joined, String.toList_ofList, List.mem_filter]
  exact ⟨hc, by simp [hdash, hline]⟩

lemma not_mem_names_of_foreign (h : ∃ c ∈ text, 128 ≤ c.toNat) : (joined text, color) ∉ names := by
  obtain ⟨c, hc, hforeign⟩ := h
  have hne {d : Char} (hd : d.toNat < 128) : c ≠ d := by
    rintro rfl
    omega
  intro hname
  have hascii := (ascii_of_mem_names hname (mem_joined hc (hne (by decide)) (hne (by decide)))).1
  omega

lemma joined_mem_names (hlow : LowerCased text low) :
    (joined low, color) ∈ names ↔ (joined (lowerName text), color) ∈ names := by
  rcases hlow.eq_or_foreign with rfl | ⟨hforeign, hforeign'⟩
  · exact Iff.rfl
  · exact iff_of_false (not_mem_names_of_foreign hforeign) (not_mem_names_of_foreign hforeign')

lemma ofNat_eq_iff {k : Nat} (hk : k < 256) : UInt8.ofNat k = x ↔ x.toNat = k := by
  rw [← UInt8.toNat_inj, UInt8.toNat_ofNat_of_lt' hk, eq_comm]

lemma HexByte.no_plus (h : HexByte c d x) : c ≠ '+' ∧ d ≠ '+' := by
  have hplus (n : Nat) : ¬ HexDigit '+' n := fun h => by cases digitIn?_eq_some.mpr h
  obtain ⟨m, n, hm, hn, -⟩ := h
  constructor
  · rintro rfl
    exact hplus m hm
  · rintro rfl
    exact hplus n hn

lemma hexByte_zero : HexByte '0' d x ↔ ∃ n, HexDigit d n ∧ x.toNat = n := by
  constructor
  · rintro ⟨m, n, hzero, hn, hx⟩
    have hm : m = 0 := by
      have hdigit := digitIn?_eq_some.mpr hzero
      cases hdigit
      rfl
    exact ⟨n, hn, by omega⟩
  · rintro ⟨n, hn, hx⟩
    exact ⟨0, n, by decide, hn, by omega⟩

lemma component?_eq_some : component? c d = some x ↔ SignedByte c d x := by
  by_cases hc : c = '+'
  · rw [component?, if_pos hc, hc, SignedByte, or_iff_right fun h => h.no_plus.1 rfl, and_iff_right rfl, hexByte_zero,
      Option.map_eq_some_iff]
    refine exists_congr fun n => ?_
    rw [digitIn?_eq_some]
    exact and_congr_right fun hn => ofNat_eq_iff (Nat.lt_trans hn.lt (by decide))
  · rw [SignedByte, or_iff_left fun h => hc h.1, component?, if_neg hc]
    simp only [Option.bind_eq_bind, Option.bind_eq_some_iff, digitIn?_eq_some, Option.pure_def, Option.some.injEq]
    have hlt {m n : Nat} (hm : HexDigit c m) (hn : HexDigit d n) : 16 * m + n < 256 := by
      have hm16 := hm.lt
      have hn16 := hn.lt
      omega
    constructor
    · rintro ⟨m, hm, n, hn, hx⟩
      exact ⟨m, n, hm, hn, (ofNat_eq_iff (hlt hm hn)).mp hx⟩
    · rintro ⟨m, n, hm, hn, hx⟩
      exact ⟨m, hm, n, hn, (ofNat_eq_iff (hlt hm hn)).mpr hx⟩

lemma mixture?_eq_some : mixture? digits = some color ↔ Written SignedByte low ('#' :: digits) color := by
  constructor
  · intro h
    unfold mixture? at h
    split at h
    · simp only [Option.bind_eq_bind, Option.bind_eq_some_iff, component?_eq_some, Option.pure_def,
        Option.some.injEq] at h
      obtain ⟨red, hred, green, hgreen, blue, hblue, rfl⟩ := h
      exact .mixture hred hgreen hblue
    · cases h
  · intro h
    cases h with
    | mixture hred hgreen hblue =>
      rw [mixture?, component?_eq_some.mpr hred, component?_eq_some.mpr hgreen, component?_eq_some.mpr hblue]
      rfl
    | name hhash => exact (hhash rfl).elim

lemma written_name (hhash : text.head? ≠ some '#') :
    Written component low text color ↔ (joined low, color) ∈ names := by
  constructor
  · intro h
    cases h with
    | mixture => exact (hhash rfl).elim
    | name _ hname => exact hname
  · exact .name hhash

lemma parse?_of_head (hhash : (trim text).head? ≠ some '#') :
    parse? text = named? (joined (lowerName (trim text))) := by
  unfold parse?
  split
  · rename_i hdigits
    rw [hdigits] at hhash
    exact (hhash rfl).elim
  · rfl

lemma parse?_eq_written (hlow : LowerCased (trim text) low) :
    parse? text = some color ↔ Written SignedByte low (trim text) color := by
  by_cases hhash : (trim text).head? = some '#'
  · obtain ⟨digits, hdigits⟩ := List.head?_eq_some_iff.mp hhash
    rw [parse?, hdigits]
    exact mixture?_eq_some
  · rw [parse?_of_head hhash, written_name hhash, named?_eq_some, joined_mem_names hlow]

lemma SignedByte.hexByte (h : SignedByte c d x) (hc : c ≠ '+') : HexByte c d x := h.resolve_right fun h => hc h.1

lemma Written.no_plus (hlow : LowerCased text low) (h : Written HexByte low text color) : '+' ∉ text := by
  cases h with
  | mixture hred hgreen hblue =>
    simp [hred.no_plus.1.symm, hred.no_plus.2.symm, hgreen.no_plus.1.symm, hgreen.no_plus.2.symm,
      hblue.no_plus.1.symm, hblue.no_plus.2.symm]
  | name _ hname =>
    intro hplus
    exact (ascii_of_mem_names hname (mem_joined (hlow.plus_mem hplus) (by decide) (by decide))).2 rfl

lemma written_hexByte_iff (hlow : LowerCased text low) :
    Written HexByte low text color ↔ Written SignedByte low text color ∧ '+' ∉ text := by
  constructor
  · intro h
    refine ⟨?_, h.no_plus hlow⟩
    cases h with
    | mixture hred hgreen hblue => exact .mixture (Or.inl hred) (Or.inl hgreen) (Or.inl hblue)
    | name hhash hname => exact .name hhash hname
  · rintro ⟨h, hplus⟩
    cases h with
    | mixture hred hgreen hblue =>
      simp only [List.mem_cons, not_or] at hplus
      obtain ⟨-, ha, -, hc, -, he, -⟩ := hplus
      exact .mixture (hred.hexByte (Ne.symm ha)) (hgreen.hexByte (Ne.symm hc)) (hblue.hexByte (Ne.symm he))
    | name hhash hname => exact .name hhash hname

/-- A text reads as a color exactly if it is one of the names or six hexadecimal digits behind a hash sign, where
a plus sign may stand for the first digit of a component. Without plus signs this is the documented syntax. -/
theorem parse?_eq_some_iff (hlow : LowerCased (trim text) low) :
    (parse? text = some color ↔ Written SignedByte low (trim text) color) ∧
      (Written HexByte low (trim text) color ↔ parse? text = some color ∧ '+' ∉ trim text) := by
  refine ⟨parse?_eq_written hlow, ?_⟩
  rw [parse?_eq_written hlow]
  exact written_hexByte_iff hlow

/-- The Kelvin sign is a letter of the name once it is in lower case. -/
theorem bright_black_read : LowerCased (trim " Bright-BLAC\u212a\t".toList) "bright-black".toList ∧
    parse? " Bright-BLAC\u212a\t".toList = some brightBlack := by
  have hlow : LowerCased (trim " Bright-BLAC\u212a\t".toList) "bright-black".toList :=
    lowerCased_lowerName (trim " Bright-BLAC\u212a\t".toList)
  exact ⟨hlow, (parse?_eq_some_iff hlow).1.mpr (.name (by decide) (by decide))⟩

/-- The six characters are read in pairs, each as a number that may have a sign. -/
theorem signed_components_read : parse? "#+1+2+3".toList = some (rgb 1 2 3) ∧
    ∀ low color, ¬ Written HexByte low (trim "#+1+2+3".toList) color := by
  refine ⟨by decide, fun low color h => ?_⟩
  have htrim : trim "#+1+2+3".toList = ['#', '+', '1', '+', '2', '+', '3'] := by decide
  rw [htrim] at h
  cases h with
  | mixture hred => exact hred.no_plus.1 rfl
  | name hhash => exact hhash rfl

end

end Color

end Highlighting
