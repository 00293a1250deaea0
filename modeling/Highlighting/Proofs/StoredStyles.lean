import Highlighting.Theme.Basic
import Mathlib.Data.List.Induction

/-! Styles stored in a theme, one after another. Where a style is stored for every class, themes that store the same
are those that look the same. -/

namespace Highlighting

lemma StyleClass.mem_all (kind : StyleClass) : kind ∈ all := by cases kind <;> decide

namespace Theme

def setAll (theme : Theme) (settings : List (StyleClass × Style)) : Theme :=
  settings.foldl (fun theme setting => theme.set setting.1 setting.2) theme

def lastSetting? (settings : List (StyleClass × Style)) (kind : StyleClass) : Option Style :=
  (settings.filter (·.1 = kind)).getLast?.map (·.2)

def Complete (theme : Theme) : Prop := ∀ kind, (theme.stored kind).isSome

section

variable {theme a b : Theme} {kind k : StyleClass}

lemma stored_set (theme : Theme) (kind k : StyleClass) (style : Style) :
    (theme.set kind style).stored k = if k = kind then some style else theme.stored k := rfl

lemma style_set (kind other : StyleClass) (style : Style) :
    (theme.set other style).style kind = if kind = other then style else theme.style kind := by
  rw [Theme.style, stored_set]
  split <;> rfl

lemma set_comm (h : kind ≠ k) (style other : Style) :
    (theme.set kind style).set k other = (theme.set k other).set kind style := by
  simp only [set, mk.injEq]
  funext j
  by_cases hj : j = kind
  · subst hj
    simp [h]
  · simp [hj]

lemma stored_default (kind : StyleClass) : default.stored kind = some kind.defaultStyle := by
  cases kind <;> rfl

lemma style_default (kind : StyleClass) : default.style kind = kind.defaultStyle := by
  rw [Theme.style, stored_default, Option.getD_some]

lemma stored_setAll (theme : Theme) (settings : List (StyleClass × Style)) (kind : StyleClass) :
    (theme.setAll settings).stored kind = (lastSetting? settings kind).or (theme.stored kind) := by
  -- from the end, for the last setting of a class is the one that counts
  induction settings using List.reverseRecOn with
  | nil => rfl
  | append_singleton settings last ih =>
    have hset : theme.setAll (settings ++ [last]) = (theme.setAll settings).set last.1 last.2 :=
      List.foldl_append
    rw [hset, stored_set, ih]
    by_cases h : last.1 = kind
    · simp [lastSetting?, List.filter_append, h]
    · simp [lastSetting?, List.filter_append, h, Ne.symm h]

lemma style_setAll (theme : Theme) (settings : List (StyleClass × Style)) (kind : StyleClass) :
    (theme.setAll settings).style kind = (lastSetting? settings kind).getD (theme.style kind) := by
  rw [Theme.style, stored_setAll]
  cases lastSetting? settings kind <;> rfl

lemma complete_default : Complete default := fun kind => by rw [stored_default, Option.isSome_some]

lemma Complete.set (h : theme.Complete) (kind : StyleClass) (style : Style) : (theme.set kind style).Complete := by
  intro k
  rw [stored_set]
  split
  · rfl
  · exact h k

lemma Complete.setAll (h : theme.Complete) (settings : List (StyleClass × Style)) :
    (theme.setAll settings).Complete := by
  induction settings generalizing theme with
  | nil => exact h
  | cons setting settings ih => exact ih (h.set setting.1 setting.2)

lemma Complete.stored_eq (h : theme.Complete) (kind : StyleClass) :
    theme.stored kind = some (theme.style kind) := by
  obtain ⟨style, hs⟩ := Option.isSome_iff_exists.mp (h kind)
  rw [Theme.style, hs, Option.getD_some]

lemma agrees_iff_stored : a.agrees b = true ↔ ∀ kind, a.stored kind = b.stored kind := by
  simp only [agrees, List.all_eq_true, decide_eq_true_eq]
  exact ⟨fun h kind => h kind kind.mem_all, fun h kind _ => h kind⟩

lemma Complete.agrees_iff (ha : a.Complete) (hb : b.Complete) :
    a.agrees b = true ↔ ∀ kind, a.style kind = b.style kind := by
  simp only [agrees_iff_stored, ha.stored_eq, hb.stored_eq, Option.some.injEq]

/-- Classes without a stored style count: the empty theme looks as the default one does, and yet differs from it. -/
example : (∀ kind ∈ StyleClass.all, empty.style kind = default.style kind) ∧ empty.agrees default = false := by
  decide

end

end Theme

end Highlighting
