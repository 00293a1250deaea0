import Highlighting.Proofs.ThemeOverlay

/-! Themes that start as the default one or as a text describes them, and in which styles are then set one after
another. A style is stored for every class, so that two of them are equal exactly if they look the same. -/

namespace Highlighting.Theme

inductive Initial : Theme → Prop
  | default : Initial .default
  | parsed {text : Text} {theme : Theme} : parse text = .ok theme → Initial theme

section

variable {theme next : Theme} {entry : String × Toml.Value} {document : Toml.Entries}

lemma Complete.overlayEntry (hc : theme.Complete) (h : overlayEntry theme entry = .ok next) : next.Complete := by
  rcases overlayEntry_cases theme entry with
    ⟨-, h'⟩ | ⟨_, -, -, h'⟩ | ⟨kind, origin, fields, -, ⟨reason, -, h'⟩ | ⟨style, -, h'⟩⟩
  · rw [h] at h'
    cases h'
    exact hc
  · simp [h] at h'
  · simp [h] at h'
  · rw [h] at h'
    cases h'
    exact hc.set kind style

lemma Complete.overlay (hc : theme.Complete) (h : theme.overlay document = .ok next) : next.Complete :=
  Toml.foldlM_keeps (fun _ _ _ => Complete.overlayEntry) hc h

lemma Initial.complete (h : Initial theme) : theme.Complete := by
  cases h with
  | default => exact complete_default
  | @parsed text _ h =>
    rw [parse] at h
    split at h
    · cases h
    · exact complete_default.overlay h

end

/-- Whatever is set, a style is stored for every class: the one set last or else the one of the beginning. A setting
leaves the other classes alone and may be made before or after one of another class. Themes are equal exactly if they
give every class the same style, and so a theme is the default one again when every class that was changed has been
given its default style. -/
theorem styles_after_settings {start other : Theme} (hstart : Initial start) (hother : Initial other)
    (settings others : List (StyleClass × Style)) :
    (∀ kind, ((start.setAll settings).stored kind).isSome) ∧
    (∀ kind, (start.setAll settings).style kind = (lastSetting? settings kind).getD (start.style kind)) ∧
    (∀ kind style k, k ≠ kind →
      ((start.setAll settings).set kind style).stored k = (start.setAll settings).stored k) ∧
    (∀ kind k a b, kind ≠ k →
      ((start.setAll settings).set kind a).set k b = ((start.setAll settings).set k b).set kind a) ∧
    ((start.setAll settings).agrees (other.setAll others) = true ↔
      ∀ kind, (start.setAll settings).style kind = (other.setAll others).style kind) ∧
    ((∀ kind, start.style kind ≠ kind.defaultStyle ∨ (lastSetting? settings kind).isSome →
        lastSetting? settings kind = some kind.defaultStyle) →
      (start.setAll settings).agrees default = true) := by
  have hcomplete := hstart.complete.setAll settings
  refine ⟨hcomplete, style_setAll start settings, fun kind style k hk => ?_, fun kind k a b hk => set_comm hk a b,
    hcomplete.agrees_iff (hother.complete.setAll others), fun hback => ?_⟩
  · rw [stored_set, if_neg hk]
  · refine (hcomplete.agrees_iff complete_default).mpr fun kind => ?_
    rw [style_setAll, style_default]
    by_cases hchanged : start.style kind ≠ kind.defaultStyle ∨ (lastSetting? settings kind).isSome
    · rw [hback kind hchanged, Option.getD_some]
    · obtain ⟨hsame, hunset⟩ := not_or.mp hchanged
      rw [Option.not_isSome_iff_eq_none.mp hunset, Option.getD_none]
      exact not_not.mp hsame

theorem red_keywords_set_back : ∃ theme, parse "[keyword]\nfg = 'red'\n".toList = .ok theme ∧
    theme.agrees default = false ∧
    (theme.setAll [(.comment, .plain), (.keyword, StyleClass.defaultStyle .keyword),
      (.comment, StyleClass.defaultStyle .comment)]).agrees default = true := by
  have hdocument : Toml.parse? "[keyword]\nfg = 'red'\n".toList =
      some [("keyword", .table .header [("fg", .string "red")])] :=
    eq_of_isTable (by decide +kernel)
  have hparse : parse "[keyword]\nfg = 'red'\n".toList = .ok (default.set .keyword ⟨.red, true, false⟩) := by
    rw [parse, hdocument]
    rfl
  refine ⟨_, hparse, by decide, ?_⟩
  refine (styles_after_settings (.parsed hparse) .default _ []).2.2.2.2.2 fun kind hchanged => ?_
  revert hchanged
  cases kind <;> decide

end Highlighting.Theme
