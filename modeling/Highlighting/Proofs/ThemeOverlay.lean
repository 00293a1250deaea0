import Highlighting.Proofs.StoredStyles
import Highlighting.Proofs.TomlOrder
import Highlighting.Theme.Overlay

/-! What a TOML document makes of the default theme. -/

namespace Highlighting.Theme

open Toml

structure ValidFields (fields : Entries) : Prop where
  fg : ∀ value, ("fg", value) ∈ fields → ∃ text color, value = .string text ∧ Color.parse? text.toList = some color
  bold : ∀ value, ("bold", value) ∈ fields → ∃ b, value = .boolean b
  italic : ∀ value, ("italic", value) ∈ fields → ∃ b, value = .boolean b

def ValidEntry (value : Value) : Prop := ∃ origin fields, value = .table origin fields ∧ ValidFields fields

/-- A style in which exactly the present fields are replaced. -/
structure Replaced (fields : Entries) (old new : Style) : Prop where
  fg : ∀ value, ("fg", value) ∈ fields → ∃ text, value = .string text ∧ Color.parse? text.toList = some new.fg
  bold : ∀ value, ("bold", value) ∈ fields → value = .boolean new.bold
  italic : ∀ value, ("italic", value) ∈ fields → value = .boolean new.italic
  fg_kept : (∀ value, ("fg", value) ∉ fields) → new.fg = old.fg
  bold_kept : (∀ value, ("bold", value) ∉ fields) → new.bold = old.bold
  italic_kept : (∀ value, ("italic", value) ∉ fields) → new.italic = old.italic

inductive FieldFault (field : String × Value) : EntryFault → Prop
  | fgNotAString : field.1 = "fg" → (∀ text, field.2 ≠ .string text) → FieldFault field .fgNotAString
  | unknownColor {text : String} : field = ("fg", .string text) → Color.parse? text.toList = none →
      FieldFault field (.unknownColor text)
  | boldNotABoolean : field.1 = "bold" → (∀ b, field.2 ≠ .boolean b) → FieldFault field .boldNotABoolean
  | italicNotABoolean : field.1 = "italic" → (∀ b, field.2 ≠ .boolean b) → FieldFault field .italicNotABoolean

/-- What is wrong with the entry of a class: it is no table, or its smallest field with a fault has this one. -/
inductive Faulty : Value → EntryFault → Prop
  | notATable {value : Value} : (∀ origin fields, value ≠ .table origin fields) → Faulty value .notATable
  | field {origin : Origin} {fields : Entries} {field : String × Value} {fault : EntryFault} : field ∈ fields →
      FieldFault field fault → (∀ other ∈ fields, ∀ fault', FieldFault other fault' → field.1 ≤ other.1) →
      Faulty (.table origin fields) fault

/-- No class with a smaller name has a faulty entry. -/
def FirstFault (document : Entries) (kind : StyleClass) (fault : EntryFault) : Prop :=
  (∃ value, (kind.name, value) ∈ document ∧ Faulty value fault) ∧
    ∀ (other : StyleClass) value, (other.name, value) ∈ document → ¬ ValidEntry value → kind.name ≤ other.name

section Field

variable {style next : Style} {field : String × Value} {fault found : EntryFault} {value : Value}

lemma switch_eq_ok {b : Bool} : switch value fault = .ok b ↔ value = .boolean b := by
  cases value <;> simp [switch, Value.boolean?]

lemma switch_eq_error : switch value fault = .error found ↔ (∀ b, value ≠ .boolean b) ∧ fault = found := by
  cases value <;> simp [switch, Value.boolean?]

lemma foreground_eq_ok {color : Color} :
    foreground value = .ok color ↔ ∃ text, value = .string text ∧ Color.parse? text.toList = some color := by
  cases value with
  | string text => cases h : Color.parse? text.toList <;> simp [foreground, Value.string?, h]
  | _ => simp [foreground, Value.string?]

lemma foreground_eq_error : foreground value = .error fault ↔
    ((∀ text, value ≠ .string text) ∧ fault = .fgNotAString) ∨
      ∃ text, value = .string text ∧ Color.parse? text.toList = none ∧ fault = .unknownColor text := by
  cases value with
  | string text => cases h : Color.parse? text.toList <;> simp [foreground, Value.string?, h, eq_comm]
  | _ => simp [foreground, Value.string?, eq_comm]

lemma map_eq_error {ε α β : Type} {x : Except ε α} {f : α → β} {e : ε} : x.map f = .error e ↔ x = .error e := by
  cases x <;> simp [Except.map]

lemma map_eq_ok {ε α β : Type} {x : Except ε α} {f : α → β} {b : β} :
    x.map f = .ok b ↔ ∃ a, x = .ok a ∧ f a = b := by
  cases x <;> simp [Except.map]

lemma overlayField_eq_error : overlayField style field = .error fault ↔ FieldFault field fault := by
  obtain ⟨name, value⟩ := field
  simp only [overlayField]
  split
  · rename_i h
    subst h
    rw [map_eq_error, foreground_eq_error]
    constructor
    · rintro (⟨hv, rfl⟩ | ⟨text, rfl, hc, rfl⟩)
      · exact .fgNotAString rfl hv
      · exact .unknownColor rfl hc
    · rintro (⟨-, hv⟩ | ⟨he, hc⟩ | ⟨hk, -⟩ | ⟨hk, -⟩)
      · exact .inl ⟨hv, rfl⟩
      · cases he
        exact .inr ⟨_, rfl, hc, rfl⟩
      · simp at hk
      · simp at hk
  split
  · rename_i h
    subst h
    rw [map_eq_error, switch_eq_error]
    constructor
    · rintro ⟨hv, rfl⟩
      exact .boldNotABoolean rfl hv
    · rintro (⟨hk, -⟩ | ⟨he, -⟩ | ⟨-, hv⟩ | ⟨hk, -⟩)
      · simp at hk
      · simp at he
      · exact ⟨hv, rfl⟩
      · simp at hk
  split
  · rename_i h
    subst h
    rw [map_eq_error, switch_eq_error]
    constructor
    · rintro ⟨hv, rfl⟩
      exact .italicNotABoolean rfl hv
    · rintro (⟨hk, -⟩ | ⟨he, -⟩ | ⟨hk, -⟩ | ⟨-, hv⟩)
      · simp at hk
      · simp at he
      · simp at hk
      · exact ⟨hv, rfl⟩
  · rename_i hfg hbold hitalic
    constructor
    · intro h
      cases h
    · rintro (⟨hk, -⟩ | ⟨he, -⟩ | ⟨hk, -⟩ | ⟨hk, -⟩)
      · exact absurd hk hfg
      · exact absurd (congrArg Prod.fst he) hfg
      · exact absurd hk hbold
      · exact absurd hk hitalic

lemma overlayField_ok_iff (style : Style) (field : String × Value) :
    (∃ next, overlayField style field = .ok next) ↔ ∀ fault, ¬ FieldFault field fault := by
  cases h : overlayField style field with
  | ok next =>
    refine iff_of_true ⟨next, rfl⟩ fun fault hf => ?_
    rw [overlayField_eq_error.mpr hf] at h
    cases h
  | error fault => simpa using ⟨fault, overlayField_eq_error.mp h⟩

lemma replaced_of_overlayField (h : overlayField style field = .ok next) : Replaced [field] style next := by
  obtain ⟨name, value⟩ := field
  simp only [overlayField] at h
  split at h
  · rename_i hk
    subst hk
    obtain ⟨color, hc, rfl⟩ := map_eq_ok.mp h
    constructor <;> simp [foreground_eq_ok.mp hc]
  split at h
  · rename_i hk
    subst hk
    obtain ⟨b, hb, rfl⟩ := map_eq_ok.mp h
    constructor <;> simp [switch_eq_ok.mp hb]
  split at h
  · rename_i hk
    subst hk
    obtain ⟨b, hb, rfl⟩ := map_eq_ok.mp h
    constructor <;> simp [switch_eq_ok.mp hb]
  · rename_i hfg hbold hitalic
    cases h
    constructor <;> simp [Ne.symm hfg, Ne.symm hbold, Ne.symm hitalic]

end Field

section Fields

variable {fields : Entries} {old new : Style} {fault : EntryFault}

lemma validFields_iff : ValidFields fields ↔ ∀ field ∈ fields, ∀ fault, ¬ FieldFault field fault := by
  constructor
  · rintro h ⟨name, value⟩ hmem fault (⟨rfl, hv⟩ | ⟨he, hc⟩ | ⟨rfl, hv⟩ | ⟨rfl, hv⟩)
    · obtain ⟨text, color, rfl, -⟩ := h.fg value hmem
      exact hv text rfl
    · cases he
      obtain ⟨text, color, hs, hc'⟩ := h.fg _ hmem
      cases hs
      simp [hc] at hc'
    · obtain ⟨b, rfl⟩ := h.bold value hmem
      exact hv b rfl
    · obtain ⟨b, rfl⟩ := h.italic value hmem
      exact hv b rfl
  · intro h
    refine ⟨fun value hmem => ?_, fun value hmem => ?_, fun value hmem => ?_⟩
    · by_contra hv
      push Not at hv
      by_cases hs : ∃ text, value = .string text
      · obtain ⟨text, rfl⟩ := hs
        refine h _ hmem _ (.unknownColor rfl ?_)
        exact Option.eq_none_iff_forall_ne_some.mpr fun color => hv text color rfl
      · exact h _ hmem _ (.fgNotAString rfl fun text ht => hs ⟨text, ht⟩)
    · by_contra hv
      exact h _ hmem _ (.boldNotABoolean rfl fun b hb => hv ⟨b, hb⟩)
    · by_contra hv
      exact h _ hmem _ (.italicNotABoolean rfl fun b hb => hv ⟨b, hb⟩)

lemma absent_of_ne {name : String} {field : String × Value} (h : field.1 ≠ name) (value : Value) :
    (name, value) ∉ [field] := by
  simpa using fun he => h (congrArg Prod.fst he).symm

lemma overlayFields_ok_iff : (∃ new, overlayFields old fields = .ok new) ↔ ValidFields fields := by
  rw [overlayFields, foldlM_ok_iff overlayField_ok_iff, validFields_iff]
  simp only [Entries.mem_byKey]

lemma faulty_of_overlayFields {origin : Origin} (h : overlayFields old fields = .error fault) :
    Faulty (.table origin fields) fault := by
  obtain ⟨field, hmem, ⟨s, hf⟩, hleast⟩ :=
    foldlM_error overlayField_ok_iff (Entries.byKey_pairwise fields) h
  refine .field (Entries.mem_byKey.mp hmem) (overlayField_eq_error.mp hf) fun other ho found hfound => ?_
  exact hleast other (Entries.mem_byKey.mpr ho) fun hvalid => hvalid found hfound

lemma replaced_of_overlayFields (hd : fields.Distinct) (h : overlayFields old fields = .ok new) :
    Replaced fields old new := by
  obtain ⟨hfg, hfg'⟩ := foldlM_part Style.fg "fg"
    (fun _ value fg => ∃ text, value = .string text ∧ Color.parse? text.toList = some fg)
    (fun s value next _ hs => (replaced_of_overlayField hs).fg value (by simp))
    (fun s entry next hs hk => (replaced_of_overlayField hs).fg_kept (absent_of_ne hk)) hd.byKey h
  obtain ⟨hbold, hbold'⟩ := foldlM_part Style.bold "bold" (fun _ value bold => value = .boolean bold)
    (fun s value next _ hs => (replaced_of_overlayField hs).bold value (by simp))
    (fun s entry next hs hk => (replaced_of_overlayField hs).bold_kept (absent_of_ne hk)) hd.byKey h
  obtain ⟨hitalic, hitalic'⟩ := foldlM_part Style.italic "italic" (fun _ value italic => value = .boolean italic)
    (fun s value next _ hs => (replaced_of_overlayField hs).italic value (by simp))
    (fun s entry next hs hk => (replaced_of_overlayField hs).italic_kept (absent_of_ne hk)) hd.byKey h
  simp only [Entries.mem_byKey] at *
  exact ⟨hfg, hbold, hitalic, hfg', hbold', hitalic'⟩

end Fields

lemma ofName?_eq_some {key : String} {kind : StyleClass} : StyleClass.ofName? key = some kind ↔ key = kind.name := by
  constructor
  · intro h
    have hk := List.find?_some h
    exact (of_decide_eq_true hk).symm
  · rintro rfl
    cases kind <;> decide

lemma name_injective : Function.Injective StyleClass.name := fun _ _ h =>
  Option.some.inj ((ofName?_eq_some.mpr rfl).symm.trans (ofName?_eq_some.mpr h))

section Entry

variable {theme next : Theme} {entry : String × Value} {fault : Fault} {kind : StyleClass}

/-- An entry counts if its key is a class, and then it replaces the style of this class or is faulty. -/
lemma overlayEntry_cases (theme : Theme) (entry : String × Value) :
    ((∀ kind, entry.1 ≠ StyleClass.name kind) ∧ overlayEntry theme entry = .ok theme) ∨
    (∃ kind, entry.1 = StyleClass.name kind ∧ (∀ origin fields, entry.2 ≠ .table origin fields) ∧
      overlayEntry theme entry = .error (.invalidEntry kind .notATable)) ∨
    ∃ kind origin, ∃ fields : Entries, entry = (StyleClass.name kind, .table origin fields) ∧
      ((∃ fault, overlayFields (theme.style kind) fields = .error fault ∧
        overlayEntry theme entry = .error (.invalidEntry kind fault)) ∨
      ∃ style, overlayFields (theme.style kind) fields = .ok style ∧
        overlayEntry theme entry = .ok (theme.set kind style)) := by
  obtain ⟨key, value⟩ := entry
  cases hk : StyleClass.ofName? key with
  | none =>
    refine .inl ⟨fun kind he => ?_, by simp [overlayEntry, hk]⟩
    simp [ofName?_eq_some.mpr he] at hk
  | some kind =>
    have he := ofName?_eq_some.mp hk
    subst he
    by_cases hv : ∃ origin fields, value = .table origin fields
    · obtain ⟨origin, fields, rfl⟩ := hv
      refine .inr (.inr ⟨kind, origin, fields, rfl, ?_⟩)
      cases hf : overlayFields (theme.style kind) fields with
      | error fault => exact .inl ⟨fault, rfl, by simp [overlayEntry, hk, Value.entries?, hf]⟩
      | ok style => exact .inr ⟨style, rfl, by simp [overlayEntry, hk, Value.entries?, hf]⟩
    · push Not at hv
      refine .inr (.inl ⟨kind, rfl, hv, ?_⟩)
      have hn : value.entries? = none := by cases value <;> simp_all [Value.entries?]
      simp [overlayEntry, hk, hn]

lemma overlayEntry_ok_iff (theme : Theme) (entry : String × Value) : (∃ next, overlayEntry theme entry = .ok next) ↔
    ∀ kind, entry.1 = StyleClass.name kind → ValidEntry entry.2 := by
  rcases overlayEntry_cases theme entry with
    ⟨hk, h⟩ | ⟨kind, hk, hv, h⟩ | ⟨kind, origin, fields, rfl, ⟨fault, hf, h⟩ | ⟨style, hf, h⟩⟩
  · simp [h, hk]
  · refine iff_of_false (by simp [h]) fun hvalid => ?_
    obtain ⟨origin, fields, he, -⟩ := hvalid kind hk
    exact hv origin fields he
  · refine iff_of_false (by simp [h]) fun hvalid => ?_
    obtain ⟨origin, fields, he, hfields⟩ := hvalid kind rfl
    cases he
    obtain ⟨new, hnew⟩ := overlayFields_ok_iff.mpr hfields
    rw [hnew] at hf
    cases hf
  · exact iff_of_true ⟨_, h⟩ fun _ _ => ⟨origin, fields, rfl, overlayFields_ok_iff.mp ⟨style, hf⟩⟩

lemma faulty_of_overlayEntry (h : overlayEntry theme entry = .error fault) :
    ∃ kind reason, entry.1 = StyleClass.name kind ∧ fault = .invalidEntry kind reason ∧ Faulty entry.2 reason := by
  rcases overlayEntry_cases theme entry with
    ⟨-, h'⟩ | ⟨kind, hk, hv, h'⟩ | ⟨kind, origin, fields, rfl, ⟨reason, hf, h'⟩ | ⟨style, hf, h'⟩⟩
  · simp [h] at h'
  · exact ⟨kind, .notATable, hk, by simpa [h] using h', .notATable hv⟩
  · exact ⟨kind, reason, rfl, by simpa [h] using h', faulty_of_overlayFields hf⟩
  · simp [h] at h'

def Lays (old : Style) (value : Value) (new : Style) : Prop :=
  ∃ origin fields, value = .table origin fields ∧ Replaced fields old new

lemma lays_of_overlayEntry {value : Value} (hd : value.Distinct)
    (h : overlayEntry theme (StyleClass.name kind, value) = .ok next) :
    Lays (theme.style kind) value (next.style kind) := by
  rcases overlayEntry_cases theme (StyleClass.name kind, value) with
    ⟨hk, -⟩ | ⟨_, -, -, h'⟩ | ⟨other, origin, fields, he, ⟨reason, -, h'⟩ | ⟨style, hf, h'⟩⟩
  · exact absurd rfl (hk kind)
  · simp [h] at h'
  · simp [h] at h'
  · obtain ⟨hk, rfl⟩ := Prod.mk.inj he
    cases name_injective hk
    rw [h] at h'
    cases h'
    cases hd with
    | table hfields => exact ⟨origin, fields, rfl, by simpa [style_set] using replaced_of_overlayFields hfields hf⟩

lemma style_of_overlayEntry (hk : entry.1 ≠ kind.name) (h : overlayEntry theme entry = .ok next) :
    next.style kind = theme.style kind := by
  rcases overlayEntry_cases theme entry with
    ⟨-, h'⟩ | ⟨_, -, -, h'⟩ | ⟨other, origin, fields, rfl, ⟨reason, -, h'⟩ | ⟨style, hf, h'⟩⟩
  · rw [h] at h'
    cases h'
    rfl
  · simp [h] at h'
  · simp [h] at h'
  · rw [h] at h'
    cases h'
    rw [style_set, if_neg]
    rintro rfl
    exact hk rfl

end Entry

section Order

variable {theme : Theme} {document other : Entries}

lemma overlayField_same {a b : String × Value} (h : Entries.SameEntry a b) (style : Style) :
    overlayField style a = overlayField style b := by
  obtain ⟨key, value⟩ := a
  obtain ⟨key', value'⟩ := b
  obtain ⟨rfl, hv⟩ := h
  have hs : value.string? = value'.string? := by cases hv <;> rfl
  have hb : value.boolean? = value'.boolean? := by cases hv <;> rfl
  simp only [overlayField, foreground, switch, hs, hb]

lemma overlayFields_same {origin origin' : Origin} {fields others : Entries} (hd : fields.Distinct)
    (h : Value.Same (.table origin fields) (.table origin' others)) (style : Style) :
    overlayFields style fields = overlayFields style others :=
  foldlM_congr (fun s _ _ _ hab => overlayField_same hab s) (Entries.byKey_same hd h)

lemma overlayEntry_same {a b : String × Value} (hd : a.2.Distinct) (h : Entries.SameEntry a b) :
    overlayEntry theme a = overlayEntry theme b := by
  obtain ⟨key, value⟩ := a
  obtain ⟨key', value'⟩ := b
  obtain ⟨rfl, hv⟩ := h
  have hv' := hv
  cases hv with
  | refl => rfl
  | array => rfl
  | table =>
    cases hd with
    | table hfields => simp only [overlayEntry, Value.entries?, overlayFields_same hfields hv']

lemma overlay_same (hd : document.Distinct) (h : document.Same other) : theme.overlay document = theme.overlay other :=
  foldlM_congr (fun _ a _ ha hab => overlayEntry_same ((Entries.distinct_iff.mp hd).2 a (Entries.mem_byKey.mp ha)) hab)
    (Entries.byKey_same hd h)

end Order

section Unknown

variable {theme : Theme} {document : Entries}

def isStyleField (field : String × Value) : Bool := field.1 ∈ ["fg", "bold", "italic"]

def known? (entry : String × Value) : Option (String × Value) :=
  (StyleClass.ofName? entry.1).map fun _ =>
    match entry.2 with
    | .table origin fields => (entry.1, .table origin (fields.filter isStyleField))
    | value => (entry.1, value)

lemma overlayFields_filter {fields : Entries} (hd : fields.Distinct) (style : Style) :
    overlayFields style (fields.filter isStyleField) = overlayFields style fields := by
  rw [← List.filterMap_eq_filter]
  unfold overlayFields
  rw [Entries.byKey_filterMap ?_ (Entries.distinct_iff.mp hd).1, foldlM_filterMap_eq]
  · intro s field h
    simp [isStyleField] at h
    simp [overlayField, h]
  · intro s field other _ h
    simp at h
    rw [h.1]
  · intro field other h
    simp at h
    rw [h.1]

lemma key_of_known {entry other : String × Value} (h : known? entry = some other) : other.1 = entry.1 := by
  obtain ⟨kind, -, rfl⟩ := Option.map_eq_some_iff.mp h
  split <;> rfl

lemma overlayEntry_known {entry other : String × Value} (hd : entry.2.Distinct) (h : known? entry = some other) :
    overlayEntry theme other = overlayEntry theme entry := by
  obtain ⟨key, value⟩ := entry
  obtain ⟨kind, hk, rfl⟩ := Option.map_eq_some_iff.mp h
  cases hd with
  | table hfields => simp only [overlayEntry, Value.entries?, overlayFields_filter hfields]
  | _ => rfl

lemma overlay_known (hd : document.Distinct) : theme.overlay (document.filterMap known?) = theme.overlay document := by
  obtain ⟨hn, hvalues⟩ := Entries.distinct_iff.mp hd
  rw [overlay, Entries.byKey_filterMap (fun _ _ => key_of_known) hn, foldlM_filterMap_eq]
  · rfl
  · intro theme entry h
    have hk : StyleClass.ofName? entry.1 = none := by simpa [known?] using h
    simp [overlayEntry, hk]
  · intro theme entry other hmem h
    exact overlayEntry_known (hvalues entry (Entries.mem_byKey.mp hmem)) h

end Unknown

section Document

variable {document : Entries} {theme : Theme} {kind : StyleClass}

lemma overlay_ok_iff : (∃ next, theme.overlay document = .ok next) ↔
    ∀ kind value, (StyleClass.name kind, value) ∈ document → ValidEntry value := by
  rw [overlay, foldlM_ok_iff overlayEntry_ok_iff]
  constructor
  · intro h kind value hmem
    exact h _ (Entries.mem_byKey.mpr hmem) kind rfl
  · rintro h ⟨key, value⟩ hmem kind rfl
    exact h kind value (Entries.mem_byKey.mp hmem)

lemma firstFault_of_overlay {fault : Fault} (h : theme.overlay document = .error fault) :
    ∃ kind reason, fault = .invalidEntry kind reason ∧ FirstFault document kind reason := by
  obtain ⟨⟨key, value⟩, hmem, ⟨s, hs⟩, hleast⟩ :=
    foldlM_error overlayEntry_ok_iff (Entries.byKey_pairwise document) h
  obtain ⟨kind, reason, rfl, rfl, hf⟩ := faulty_of_overlayEntry hs
  refine ⟨kind, reason, rfl, ⟨value, Entries.mem_byKey.mp hmem, hf⟩, fun other value hother hbad => ?_⟩
  exact hleast (other.name, value) (Entries.mem_byKey.mpr hother) fun hvalid => hbad (hvalid other rfl)

lemma lays_of_overlay {next : Theme} (hd : document.Distinct) (h : theme.overlay document = .ok next) :
    (∀ value, (kind.name, value) ∈ document → Lays (theme.style kind) value (next.style kind)) ∧
      ((∀ value, (kind.name, value) ∉ document) → next.style kind = theme.style kind) := by
  have hvalues := (Entries.distinct_iff.mp hd).2
  obtain ⟨hset, hkeep⟩ := foldlM_part (fun theme => Theme.style theme kind) kind.name Lays
    (fun s value next hmem hs => lays_of_overlayEntry (hvalues _ (Entries.mem_byKey.mp hmem)) hs)
    (fun s entry next hs hk => style_of_overlayEntry hk hs) hd.byKey h
  simp only [Entries.mem_byKey] at hset hkeep
  exact ⟨hset, hkeep⟩

end Document

def sameScalar : Value → Value → Bool
  | .string s, .string t => s = t
  | .boolean b, .boolean c => b = c
  | _, _ => false

def sameFields : Entries → Entries → Bool
  | [], [] => true
  | (key, value) :: rest, (key', value') :: rest' => key = key' && sameScalar value value' && sameFields rest rest'
  | _, _ => false

def isTable (key : String) (fields : Entries) : Option Entries → Bool
  | some [(k, .table .header found)] => k = key && sameFields found fields
  | _ => false

lemma eq_of_sameScalar {value other : Value} (h : sameScalar value other = true) : value = other := by
  unfold sameScalar at h
  split at h
  · rw [of_decide_eq_true h]
  · rw [of_decide_eq_true h]
  · cases h

lemma eq_of_sameFields {fields other : Entries} (h : sameFields fields other = true) : fields = other := by
  fun_induction sameFields fields other with
  | case1 => rfl
  | case2 key value rest key' value' rest' ih =>
    simp only [Bool.and_eq_true, decide_eq_true_eq] at h
    rw [h.1.1, eq_of_sameScalar h.1.2, ih h.2]
  | case3 => cases h

lemma eq_of_isTable {key : String} {fields : Entries} {document : Option Entries}
    (h : isTable key fields document = true) : document = some [(key, .table .header fields)] := by
  unfold isTable at h
  split at h
  · simp only [Bool.and_eq_true, decide_eq_true_eq] at h
    rw [h.1, eq_of_sameFields h.2]
  · cases h

/-- A theme file is read in full, and neither the order nor what is unknown in it counts. -/
theorem parse_overlays_document {text : Text} {document : Entries} (h : Toml.parse? text = some document) :
    ((∃ theme, Theme.parse text = .ok theme) ↔
      ∀ kind value, (StyleClass.name kind, value) ∈ document → ValidEntry value) ∧
    (∀ theme, Theme.parse text = .ok theme → ∀ kind,
      (∀ value, (StyleClass.name kind, value) ∈ document → Lays kind.defaultStyle value (theme.style kind)) ∧
      ((∀ value, (kind.name, value) ∉ document) → theme.style kind = kind.defaultStyle)) ∧
    (∀ fault, Theme.parse text = .error fault →
      ∃ kind reason, fault = .invalidEntry kind reason ∧ FirstFault document kind reason) ∧
    default.overlay (document.filterMap known?) = Theme.parse text ∧
    ∀ text' other, Toml.parse? text' = some other → document.Same other → Theme.parse text' = Theme.parse text := by
  have hd := Toml.distinct_parse h
  have hparse : Theme.parse text = default.overlay document := by simp only [Theme.parse, h]
  rw [hparse]
  refine ⟨overlay_ok_iff, fun theme ht kind => style_default kind ▸ lays_of_overlay hd ht,
    fun _ => firstFault_of_overlay, overlay_known hd, fun text' other hother hsame => ?_⟩
  have hparse' : Theme.parse text' = default.overlay other := by simp only [Theme.parse, hother]
  rw [hparse', overlay_same hd hsame]

theorem parse_overlays_red_keywords :
    (∃ theme, Theme.parse "[keyword]\nbold = false\nfg = 'red'\n".toList = .ok theme ∧
      theme.style .keyword = ⟨.red, false, false⟩) ∧
    Theme.parse "[keyword]\nfg = 'red'\nbold = false\n".toList =
      Theme.parse "[keyword]\nbold = false\nfg = 'red'\n".toList := by
  have hdocument : Toml.parse? "[keyword]\nbold = false\nfg = 'red'\n".toList =
      some [("keyword", .table .header [("bold", .boolean false), ("fg", .string "red")])] :=
    eq_of_isTable (by decide +kernel)
  have hother : Toml.parse? "[keyword]\nfg = 'red'\nbold = false\n".toList =
      some [("keyword", .table .header [("fg", .string "red"), ("bold", .boolean false)])] :=
    eq_of_isTable (by decide +kernel)
  obtain ⟨hok, hlays, -, -, hsame⟩ := parse_overlays_document hdocument
  have hfields : Value.Same (.table .header [("bold", .boolean false), ("fg", .string "red")])
      (.table .header [("fg", .string "red"), ("bold", .boolean false)]) :=
    .table (List.Perm.swap _ _ []) rfl (.cons (.refl _) (.cons (.refl _) .nil))
  refine ⟨?_, hsame _ _ hother (.table (.refl _) rfl (.cons hfields .nil))⟩
  have hvalid : ValidFields [("bold", .boolean false), ("fg", .string "red")] :=
    ⟨fun _ _ => ⟨"red", .red, by simp_all, by decide⟩, by simp, by simp⟩
  obtain ⟨theme, ht⟩ := hok.mpr fun kind value hmem => by
    simp only [List.mem_singleton, Prod.mk.injEq] at hmem
    exact ⟨_, _, hmem.2, hvalid⟩
  obtain ⟨origin, fields, he, hr⟩ := (hlays theme ht .keyword).1 _ (.head _)
  cases he
  obtain ⟨text, hs, hfg⟩ := hr.fg (.string "red") (by simp)
  cases hs
  have hcolor : Color.parse? "red".toList = some .red := by decide
  have hbold := hr.bold (.boolean false) (by simp)
  have hitalic := hr.italic_kept (by simp)
  refine ⟨theme, ht, ?_⟩
  rw [Style.mk.injEq]
  exact ⟨Option.some.inj (hfg.symm.trans hcolor), (Value.boolean.inj hbold).symm, hitalic⟩

end Highlighting.Theme
