import Highlighting.Proofs.ArgumentParts

/-! Reading a command line is reading its parts from left to right: the first that decides by itself gives the
command, and where none does, the last part of each kind counts. -/

namespace Highlighting.CommandLine

def Options.take (options : Options) (p : Part) : Options :=
  match Item.ofArgument p.argument with
  | .spans => { options with spans := true }
  | .language => { options with language := p.value }
  | .theme => { options with theme := p.value }
  | .standardInput => { options with file := none }
  | .file => { options with file := some p.argument }
  | .stop _ => options
  | .unknown => options

section

variable {all : List Part} {options : Options} {p : Part}

lemma take_language : (options.take p).language = if IsLanguage p.argument then p.value else options.language := by
  simp only [Options.take, isLanguage_iff]
  cases Item.ofArgument p.argument <;> rfl

lemma take_theme : (options.take p).theme = if IsTheme p.argument then p.value else options.theme := by
  simp only [Options.take, isTheme_iff]
  cases Item.ofArgument p.argument <;> rfl

lemma take_spans : (options.take p).spans = true ↔ options.spans = true ∨ IsSpans p.argument := by
  simp only [Options.take, isSpans_iff]
  cases Item.ofArgument p.argument <;> simp

lemma take_file : (options.take p).file =
    if IsFile p.argument then some p.argument else if p.argument = "-" then none else options.file := by
  simp only [Options.take, isFile_iff, eq_hyphen_iff]
  cases Item.ofArgument p.argument <;> rfl

lemma Gives.isSome_file (h : Gives all options) : options.file.isSome ↔ HoldsFile all := by
  rw [holdsFile_iff, Option.isSome_iff_exists]
  simp only [h.file]
  exact ⟨fun ⟨_, p, hp, _⟩ => ⟨p, hp⟩, fun ⟨p, hp⟩ => ⟨_, p, hp, rfl⟩⟩

lemma gives_nil : Gives [] {} := by
  constructor <;> simp [Unfollowed]

lemma Gives.take (h : Gives all options) (p : Part) : Gives (all ++ [p]) (options.take p) := by
  constructor
  · intro v
    rw [take_language]
    by_cases hp : IsLanguage p.argument <;> simp [unfollowed_concat, hp, h.language]
  · intro v
    rw [take_theme]
    by_cases hp : IsTheme p.argument <;> simp [unfollowed_concat, hp, h.theme]
  · simp [take_spans, h.spans, or_and_right, exists_or]
  · intro v
    rw [take_file]
    by_cases hp : IsFile p.argument
    · simp [unfollowed_concat, IsInput, hp]
    · by_cases hhyphen : p.argument = "-" <;> simp [unfollowed_concat, IsInput, hp, hhyphen, h.file]

end

section

variable {options : Options} {arguments rest : List String} {argument value : String} {before tail : List Part}
variable {p : Part}

lemma parseFrom_part (hg : Gives before options) (h : parts arguments = p :: tail) :
    Decides before p (parseFrom options arguments) ∨ (∀ result, ¬ Decides before p result) ∧
      ∃ rest, parts rest = tail ∧ parseFrom options arguments = parseFrom (options.take p) rest := by
  cases arguments with
  | nil => cases h
  | cons argument rest =>
    have hplain (hk : ¬ TakesValue argument) : p = ⟨argument, none⟩ ∧ tail = parts rest := by
      rw [parts_plain hk] at h
      exact ⟨(List.cons.inj h).1.symm, (List.cons.inj h).2.symm⟩
    have hread := parseFrom.eq_def options (argument :: rest)
    cases hk : Item.ofArgument argument with
    | stop command =>
      obtain ⟨rfl, rfl⟩ := hplain (by simp [takesValue_iff, hk])
      left
      simp [decides_iff, hread, hk]
    | spans =>
      obtain ⟨rfl, rfl⟩ := hplain (by simp [takesValue_iff, hk])
      exact Or.inr ⟨by simp [decides_iff, hk], rest, rfl, by simp [hread, Options.take, hk]⟩
    | language =>
      cases rest with
      | nil =>
        obtain ⟨rfl, -⟩ := List.cons.inj h
        left
        simp [decides_iff, hread, hk]
      | cons value rest =>
        rw [parts_valued (by simp [takesValue_iff, hk])] at h
        obtain ⟨rfl, rfl⟩ := List.cons.inj h
        exact Or.inr ⟨by simp [decides_iff, hk], rest, rfl, by simp [hread, Options.take, hk]⟩
    | theme =>
      cases rest with
      | nil =>
        obtain ⟨rfl, -⟩ := List.cons.inj h
        left
        simp [decides_iff, hread, hk]
      | cons value rest =>
        rw [parts_valued (by simp [takesValue_iff, hk])] at h
        obtain ⟨rfl, rfl⟩ := List.cons.inj h
        exact Or.inr ⟨by simp [decides_iff, hk], rest, rfl, by simp [hread, Options.take, hk]⟩
    | standardInput =>
      obtain ⟨rfl, rfl⟩ := hplain (by simp [takesValue_iff, hk])
      exact Or.inr ⟨by simp [decides_iff, hk], rest, rfl, by simp [hread, Options.take, hk]⟩
    | file =>
      obtain ⟨rfl, rfl⟩ := hplain (by simp [takesValue_iff, hk])
      by_cases hheld : HoldsFile before
      · left
        simp [decides_iff, hread, hk, hg.isSome_file, hheld]
      · exact Or.inr ⟨by simp [decides_iff, hk, hheld], rest, rfl,
          by simp [hread, Options.take, hk, hg.isSome_file, hheld]⟩
    | unknown =>
      obtain ⟨rfl, rfl⟩ := hplain (by simp [takesValue_iff, hk])
      left
      simp [decides_iff, hread, hk]

/-- Reading on behind parts that do not decide: the first that does gives the result, and without one the
options that all parts give. -/
lemma parseFrom_parts (hg : Gives before options) (hu : Undecided before) :
    (∃ front p behind, parts arguments = front ++ p :: behind ∧ Undecided (before ++ front) ∧
        Decides (before ++ front) p (parseFrom options arguments)) ∨
      (Undecided (before ++ parts arguments) ∧ ∃ given, Gives (before ++ parts arguments) given ∧
        parseFrom options arguments = .ok (.highlight given)) := by
  -- on the parts to come; the options hold what those before have given
  generalize hall : parts arguments = all
  induction all generalizing before options arguments with
  | nil =>
    have hnil : arguments = [] := by rw [← flatMap_parts arguments, hall, List.flatMap_nil]
    rw [hnil, List.append_nil]
    exact Or.inr ⟨hu, options, hg, rfl⟩
  | cons p tail ih =>
    rcases parseFrom_part hg hall with hp | ⟨hp, rest, rfl, hread⟩
    · exact Or.inl ⟨[], p, tail, rfl, by rwa [List.append_nil], by rwa [List.append_nil]⟩
    · rw [hread]
      have hlater := ih (hg.take p) (undecided_concat.mpr ⟨hu, hp⟩) rfl
      simp only [List.append_assoc, List.singleton_append] at hlater
      rcases hlater with ⟨front, q, behind, hsplit, hfront, hq⟩ | hlater
      · exact Or.inl ⟨p :: front, q, behind, by rw [hsplit, List.cons_append], hfront, hq⟩
      · exact Or.inr hlater

lemma undecided_nil : Undecided [] := by
  simp [Undecided]

lemma parse_parts (arguments : List String) :
    (∃ before p behind, parts arguments = before ++ p :: behind ∧ Undecided before ∧
        Decides before p (parse arguments)) ∨
      (Undecided (parts arguments) ∧ ∃ options, Gives (parts arguments) options ∧
        parse arguments = .ok (.highlight options)) :=
  parseFrom_parts gives_nil undecided_nil

lemma parse_eq_of_decides {behind : List Part} {result : Except UsageFault Command}
    (h : parts arguments = before ++ p :: behind) (hu : Undecided before) (hp : Decides before p result) :
    parse arguments = result := by
  rcases parse_parts arguments with ⟨front, q, rest, hsplit, hfront, hq⟩ | ⟨hnone, -⟩
  · obtain ⟨rfl, rfl⟩ := Decides.first_unique (h.symm.trans hsplit) hu hfront hp hq
    exact hq.unique hp
  · exact (hnone before p behind h result hp).elim

end

/-- Parts are cut from left to right. Either the first part that decides gives the result, whatever is behind it,
or no part decides and all of them give the options of a run. -/
theorem parse_reads_parts (arguments : List String) :
    (parts arguments).flatMap Part.arguments = arguments ∧
    ((∃ before p behind, parts arguments = before ++ p :: behind ∧ Undecided before ∧
        Decides before p (parse arguments) ∧
        (p.Complete → ∀ rest, parse ((before ++ [p]).flatMap Part.arguments ++ rest) = parse arguments)) ∨
      (Undecided (parts arguments) ∧ ∃ options, Gives (parts arguments) options ∧
        parse arguments = .ok (.highlight options))) := by
  refine ⟨flatMap_parts arguments, ?_⟩
  rcases parse_parts arguments with ⟨before, p, behind, hsplit, hu, hp⟩ | h
  · refine Or.inl ⟨before, p, behind, hsplit, hu, hp, fun hcomplete rest => ?_⟩
    have hall : ∀ q ∈ before ++ [p], q.Complete := by
      intro q hq
      rcases List.mem_append.mp hq with hq | hq
      · exact hu.complete hsplit q hq
      · exact List.mem_singleton.mp hq ▸ hcomplete
    have hother : parts ((before ++ [p]).flatMap Part.arguments ++ rest) = before ++ p :: parts rest := by
      rw [parts_append hall, List.append_assoc, List.singleton_append]
    exact parse_eq_of_decides hother hu hp
  · exact Or.inr h

example : parse ["a", "-", "-l", "--help", "b", "-s", "-t", "x", "-t", "-"] =
    .ok (.highlight ⟨some "--help", some "-", true, some "b"⟩) := by decide

end Highlighting.CommandLine
