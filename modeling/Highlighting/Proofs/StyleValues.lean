import Highlighting.Proofs.WholeWords
import Mathlib.Data.List.TakeWhile

/-! Values as style sheets write them behind a property: colors and measures. Those that are no color by its digits
begin with a word. -/

namespace Highlighting

namespace Text

def letters : Text := "abcdefghijklmnopqrstuvwxyzABCDEFGHIJKLMNOPQRSTUVWXYZ".toList

def decimals : Text := "0123456789".toList

def hexDigits : Text := decimals ++ "abcdefABCDEF".toList

def colorNames : List Text := ["rgb".toList, "rgba".toList, "hsl".toList, "hsla".toList]

def unitNames : List Text :=
  ["px".toList, "em".toList, "rem".toList, "%".toList, "pt".toList, "vh".toList, "vw".toList]

def Measure (own : Text) : Prop :=
  ∃ whole fraction unit, own = whole ++ (fraction ++ unit) ∧ (whole ≠ [] ∧ whole ⊆ decimals) ∧
    (fraction = [] ∨ ∃ digits, fraction = '.' :: digits ∧ digits ≠ [] ∧ digits ⊆ decimals) ∧ unit ∈ [] :: unitNames

inductive StyleValue : Text → Prop
  | color {digits : Text} : 3 ≤ digits.length → digits.length ≤ 8 → digits ⊆ hexDigits → StyleValue ('#' :: digits)
  | parts {name args : Text} : name ∈ colorNames → args ⊆ decimals ++ [',', ' ', '%'] →
      StyleValue (name ++ '(' :: (args ++ [')']))
  | measure {own : Text} : Measure own → StyleValue own

def declaration (name value : Text) : Text := name ++ ':' :: ' ' :: (value ++ [';'])

/-- All of a value behind a hash sign, otherwise the word that it begins with. -/
def shownPart (value : Text) : Text :=
  if value.head? = some '#' then value else value.takeWhile Unicode.isWord

def measureChars : Text := decimals ++ ".%pxemrtvhw".toList

def valueChars : Text := hexDigits ++ "#rghsl(), %.pxemtvw".toList

section

variable {value own : Text} {c : Char}

lemma Measure.subset (h : Measure own) : own ⊆ measureChars := by
  have hunits : ∀ unit ∈ [] :: unitNames, unit ⊆ measureChars := by decide
  obtain ⟨whole, fraction, unit, rfl, ⟨-, hwhole⟩, hfraction, hunit⟩ := h
  rw [List.append_subset, List.append_subset]
  refine ⟨List.subset_append_of_subset_left _ hwhole, ?_, hunits unit hunit⟩
  rcases hfraction with rfl | ⟨digits, rfl, -, hdigits⟩
  · exact List.nil_subset _
  · exact List.cons_subset.mpr ⟨by decide, List.subset_append_of_subset_left _ hdigits⟩

lemma StyleValue.subset (h : StyleValue value) : value ⊆ valueChars := by
  cases h with
  | color hmin hmax hdigits =>
    exact List.cons_subset.mpr ⟨by decide, List.subset_append_of_subset_left _ hdigits⟩
  | parts hname hargs =>
    have hnames : ∀ name ∈ colorNames, name ⊆ valueChars := by decide
    have hparts : decimals ++ [',', ' ', '%'] ⊆ valueChars := by decide
    rw [List.append_subset, List.cons_subset, List.append_subset]
    exact ⟨hnames _ hname, by decide, List.Subset.trans hargs hparts, by decide⟩
  | measure hown =>
    have hchars : measureChars ⊆ valueChars := by decide
    exact List.Subset.trans hown.subset hchars

lemma StyleValue.notMem (h : StyleValue value) (hc : c ∉ valueChars) : c ∉ value := fun hmem => hc (h.subset hmem)

lemma isWord_of_mem_decimals (hc : c ∈ decimals) : Unicode.isWord c = true := by
  have hall : decimals.all Unicode.isWord = true := by decide
  exact List.all_eq_true.mp hall c hc

lemma Measure.isWord (h : Measure own) (hc : c ∈ own) (hpoint : c ≠ '.') (hpercent : c ≠ '%') :
    Unicode.isWord c = true := by
  have hall : measureChars.all (fun c => c = '.' || c = '%' || Unicode.isWord c) = true := by decide
  simpa [hpoint, hpercent] using List.all_eq_true.mp hall c (h.subset hc)

lemma StyleValue.color_or_word (h : StyleValue value) :
    (∃ digits, value = '#' :: digits ∧ 3 ≤ digits.length ∧ digits.length ≤ 8 ∧ digits ⊆ hexDigits) ∨
      ∃ c rest, value = c :: rest ∧ Unicode.isWord c = true := by
  cases h with
  | color hmin hmax hdigits => exact Or.inl ⟨_, rfl, hmin, hmax, hdigits⟩
  | parts hname hargs =>
    have hnames : ∀ name ∈ colorNames, name.head?.any Unicode.isWord = true := by decide
    obtain ⟨c, hfirst, hc⟩ := (Option.any_eq_true _ _).mp (hnames _ hname)
    obtain ⟨name, rfl⟩ := List.head?_eq_some_iff.mp hfirst
    exact Or.inr ⟨c, _, rfl, hc⟩
  | measure hown =>
    obtain ⟨whole, fraction, unit, rfl, ⟨hne, hwhole⟩, -, -⟩ := hown
    obtain ⟨c, whole, rfl⟩ := List.exists_cons_of_ne_nil hne
    exact Or.inr ⟨c, _, rfl, isWord_of_mem_decimals (hwhole List.mem_cons_self)⟩

lemma StyleValue.closed_at_end (h : StyleValue value) {a b : Text} (hcut : value = a ++ ')' :: b) : b = [] := by
  have hmem : ')' ∈ value := hcut ▸ List.mem_append_right a List.mem_cons_self
  cases h with
  | color hmin hmax hdigits =>
    rcases List.mem_cons.mp hmem with hbad | hmem
    · exact absurd hbad (by decide)
    · exact absurd (hdigits hmem) (by decide)
  | @parts name args hname hargs =>
    have hnames : ∀ name ∈ colorNames, ')' ∉ name := by decide
    have hfront : ')' ∉ name ++ '(' :: args := by
      simp only [List.mem_append, List.mem_cons, not_or]
      exact ⟨hnames name hname, by decide, fun hmem => absurd (hargs hmem) (by decide)⟩
    rw [← List.cons_append, ← List.append_assoc] at hcut
    exact ((List.append_cons_inj_of_notMem hfront List.not_mem_nil).mp hcut).2.2.symm
  | measure hown => exact absurd (hown.subset hmem) (by decide)

lemma head?_ne_hash {rest : Text} (hc : Unicode.isWord c = true) : (c :: rest).head? ≠ some '#' := by
  intro hhash
  obtain rfl := Option.some.inj hhash
  exact absurd hc (by decide)

lemma shownPart_of_word {rest : Text} (hc : Unicode.isWord c = true) :
    shownPart (c :: rest) = (c :: rest).takeWhile Unicode.isWord := if_neg (head?_ne_hash hc)

lemma StyleValue.isWord_of_notMem (h : StyleValue value) (hhash : value.head? ≠ some '#') (hbracket : '(' ∉ value)
    (hpoint : '.' ∉ value) (hpercent : '%' ∉ value) : ∀ x ∈ value, Unicode.isWord x = true := by
  cases h with
  | color => exact (hhash rfl).elim
  | parts => exact (hbracket (List.mem_append_right _ List.mem_cons_self)).elim
  | measure hown =>
    exact fun x hx => hown.isWord hx (fun heq => hpoint (heq ▸ hx)) fun heq => hpercent (heq ▸ hx)

lemma StyleValue.shownPart_eq_iff (h : StyleValue value) :
    shownPart value = value ↔ '(' ∉ value ∧ '.' ∉ value ∧ '%' ∉ value := by
  rcases h.color_or_word with ⟨digits, rfl, -, -, hdigits⟩ | ⟨c, rest, rfl, hc⟩
  · have hnot (x : Char) (hx : x ∉ '#' :: hexDigits) : x ∉ '#' :: digits :=
      fun hmem => hx (List.cons_subset_cons '#' hdigits hmem)
    exact ⟨fun _ => ⟨hnot _ (by decide), hnot _ (by decide), hnot _ (by decide)⟩, fun _ => rfl⟩
  · rw [shownPart_of_word hc, List.takeWhile_eq_self_iff]
    constructor
    · intro hall
      have hnot (x : Char) (hx : Unicode.isWord x = false) : x ∉ c :: rest :=
        fun hmem => Bool.false_ne_true (hx.symm.trans (hall x hmem))
      exact ⟨hnot _ (by decide), hnot _ (by decide), hnot _ (by decide)⟩
    · rintro ⟨hbracket, hpoint, hpercent⟩
      exact h.isWord_of_notMem (head?_ne_hash hc) hbracket hpoint hpercent

lemma StyleValue.closed_behind (h : StyleValue value) {a b : Text} (hcut : value ++ [';'] = a ++ ')' :: b) :
    b = [';'] := by
  rcases List.append_eq_append_iff.mp hcut with ⟨own, -, hend⟩ | ⟨own, hvalue, hend⟩
  · have hmem : ')' ∈ [';'] := hend ▸ List.mem_append_right own List.mem_cons_self
    exact absurd hmem (by decide)
  · cases own with
    | nil => exact absurd (List.cons.inj hend).1 (by decide)
    | cons c own =>
      obtain ⟨rfl, rfl⟩ := List.cons.inj hend
      rw [h.closed_at_end hvalue]
      rfl

lemma StyleValue.head_behind_word (h : StyleValue value) :
    ∀ c ∈ (value.dropWhile Unicode.isWord ++ [';']).head?, c ≠ '-' ∧ Unicode.isWord c = false := by
  have hhead := List.head?_dropWhile_not Unicode.isWord value
  have hsubset := List.dropWhile_subset (l := value) Unicode.isWord
  intro c hc
  cases hrest : value.dropWhile Unicode.isWord with
  | nil =>
    rw [hrest] at hc
    obtain rfl := Option.some.inj hc
    decide
  | cons x rest =>
    rw [hrest] at hc hhead hsubset
    obtain rfl := Option.some.inj hc
    refine ⟨?_, hhead⟩
    rintro rfl
    exact h.notMem (by decide) (hsubset List.mem_cons_self)

lemma StyleValue.head_not_blank (h : StyleValue value) :
    ∀ c ∈ (value ++ [';']).head?, CharSet.blank.contains c = false := by
  have hall : valueChars.all (fun c => !Unicode.isWord c || !CharSet.blank.contains c) = true := by decide
  intro c hc
  rcases h.color_or_word with ⟨digits, rfl, -⟩ | ⟨x, rest, rfl, hx⟩
  · obtain rfl := Option.some.inj hc
    decide
  · obtain rfl := Option.some.inj hc
    simpa [hx] using List.all_eq_true.mp hall x (h.subset List.mem_cons_self)

lemma exists_shownPart (value : Text) : ∃ rest, value = shownPart value ++ rest := by
  by_cases hhash : value.head? = some '#'
  · exact ⟨[], by rw [shownPart, if_pos hhash, List.append_nil]⟩
  · exact ⟨value.dropWhile Unicode.isWord, by rw [shownPart, if_neg hhash, List.takeWhile_append_dropWhile]⟩

end

end Text

end Highlighting
