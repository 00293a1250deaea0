import Highlighting.CommandLine.Arguments
import Mathlib.Data.List.Induction

/-! The parts of a command line. An option that takes a value forms one with the argument behind it, whatever that
is, and every other argument is one of its own. -/

namespace Highlighting.CommandLine

def IsLanguage (argument : String) : Prop := argument = "--language" ∨ argument = "-l"

def IsTheme (argument : String) : Prop := argument = "--theme" ∨ argument = "-t"

def IsSpans (argument : String) : Prop := argument = "--spans" ∨ argument = "-s"

def IsFile (argument : String) : Prop := argument.toList.head? ≠ some '-'

def IsInput (argument : String) : Prop := IsFile argument ∨ argument = "-"

def TakesValue (argument : String) : Prop := IsLanguage argument ∨ IsTheme argument

instance : DecidablePred IsLanguage := fun _ => inferInstanceAs (Decidable (_ ∨ _))

instance : DecidablePred IsTheme := fun _ => inferInstanceAs (Decidable (_ ∨ _))

instance : DecidablePred IsFile := fun _ => inferInstanceAs (Decidable (_ ≠ _))

instance : DecidablePred TakesValue := fun _ => inferInstanceAs (Decidable (_ ∨ _))

def knownOptions : List String :=
  ["--help", "-h", "--version", "-V", "--list", "--spans", "-s", "--language", "-l", "--theme", "-t", "-"]

structure Part where
  argument : String
  value : Option String

def Part.arguments (p : Part) : List String := p.argument :: p.value.toList

def Part.Complete (p : Part) : Prop := TakesValue p.argument ↔ p.value.isSome

def parts : List String → List Part
  | [] => []
  | [argument] => [⟨argument, none⟩]
  | argument :: value :: rest =>
    if TakesValue argument then ⟨argument, some value⟩ :: parts rest
    else ⟨argument, none⟩ :: parts (value :: rest)

/-- A part of one kind, with none of another kind behind it. -/
def Unfollowed (kind other : String → Prop) (all : List Part) (p : Part) : Prop :=
  ∃ before behind, all = before ++ p :: behind ∧ kind p.argument ∧ ∀ q ∈ behind, ¬ other q.argument

def HoldsFile (all : List Part) : Prop := ∃ p, Unfollowed IsFile (· = "-") all p

/-- What a part makes of the command by itself, behind some other parts. -/
inductive Decides (before : List Part) (p : Part) : Except UsageFault Command → Prop
  | help : p.argument = "--help" ∨ p.argument = "-h" → Decides before p (.ok .help)
  | version : p.argument = "--version" ∨ p.argument = "-V" → Decides before p (.ok .version)
  | list : p.argument = "--list" → Decides before p (.ok .list)
  | missingLanguage : IsLanguage p.argument → p.value = none → Decides before p (.error .missingLanguage)
  | missingTheme : IsTheme p.argument → p.value = none → Decides before p (.error .missingTheme)
  | unknownOption : ¬ IsFile p.argument → p.argument ∉ knownOptions →
      Decides before p (.error (.unknownOption p.argument))
  | secondFile : IsFile p.argument → HoldsFile before → Decides before p (.error .secondFile)

def Undecided (all : List Part) : Prop :=
  ∀ before p behind, all = before ++ p :: behind → ∀ result, ¬ Decides before p result

/-- The options that some parts give, none of which decides by itself. -/
structure Gives (all : List Part) (options : Options) : Prop where
  language : ∀ v, options.language = some v ↔ ∃ p, Unfollowed IsLanguage IsLanguage all p ∧ p.value = some v
  theme : ∀ v, options.theme = some v ↔ ∃ p, Unfollowed IsTheme IsTheme all p ∧ p.value = some v
  spans : options.spans = true ↔ ∃ p ∈ all, IsSpans p.argument
  file : ∀ v, options.file = some v ↔ ∃ p, Unfollowed IsFile IsInput all p ∧ p.argument = v

section

variable {argument : String} {kind : Item}

inductive HasKind (argument : String) : Item → Prop
  | help : argument = "--help" ∨ argument = "-h" → HasKind argument (.stop .help)
  | version : argument = "--version" ∨ argument = "-V" → HasKind argument (.stop .version)
  | list : argument = "--list" → HasKind argument (.stop .list)
  | spans : IsSpans argument → HasKind argument .spans
  | language : IsLanguage argument → HasKind argument .language
  | theme : IsTheme argument → HasKind argument .theme
  | standardInput : argument = "-" → HasKind argument .standardInput
  | file : IsFile argument → HasKind argument .file
  | unknown : ¬ IsFile argument → argument ∉ knownOptions → HasKind argument .unknown

lemma not_mem_knownOptions (h : IsFile argument) : argument ∉ knownOptions := by
  have hknown : ∀ known ∈ knownOptions, ¬ IsFile known := by decide
  exact fun hmem => hknown argument hmem h

lemma ofArgument_of_not_mem (h : argument ∉ knownOptions) :
    Item.ofArgument argument = if IsFile argument then .file else .unknown := by
  simp only [knownOptions, List.mem_cons, List.not_mem_nil, or_false, not_or] at h
  by_cases hfile : argument.toList.head? = some '-' <;> simp [Item.ofArgument, IsFile, h, hfile]

lemma HasKind.eq_ofArgument (h : HasKind argument kind) : Item.ofArgument argument = kind := by
  cases h with
  | help h => rcases h with rfl | rfl <;> rfl
  | version h => rcases h with rfl | rfl <;> rfl
  | list h => exact h ▸ rfl
  | spans h => rcases h with rfl | rfl <;> rfl
  | language h => rcases h with rfl | rfl <;> rfl
  | theme h => rcases h with rfl | rfl <;> rfl
  | standardInput h => exact h ▸ rfl
  | file h => rw [ofArgument_of_not_mem (not_mem_knownOptions h), if_pos h]
  | unknown hfile h => rw [ofArgument_of_not_mem h, if_neg hfile]

lemma exists_hasKind (argument : String) : ∃ kind, HasKind argument kind := by
  by_cases hknown : argument ∈ knownOptions
  · simp only [knownOptions, List.mem_cons, List.not_mem_nil, or_false] at hknown
    rcases hknown with h | h | h | h | h | h | h | h | h | h | h | h
    exacts [⟨_, .help (Or.inl h)⟩, ⟨_, .help (Or.inr h)⟩, ⟨_, .version (Or.inl h)⟩, ⟨_, .version (Or.inr h)⟩,
      ⟨_, .list h⟩, ⟨_, .spans (Or.inl h)⟩, ⟨_, .spans (Or.inr h)⟩, ⟨_, .language (Or.inl h)⟩,
      ⟨_, .language (Or.inr h)⟩, ⟨_, .theme (Or.inl h)⟩, ⟨_, .theme (Or.inr h)⟩, ⟨_, .standardInput h⟩]
  · by_cases hfile : IsFile argument
    · exact ⟨_, .file hfile⟩
    · exact ⟨_, .unknown hfile hknown⟩

lemma hasKind_iff : HasKind argument kind ↔ Item.ofArgument argument = kind := by
  refine ⟨HasKind.eq_ofArgument, ?_⟩
  rintro rfl
  obtain ⟨kind, h⟩ := exists_hasKind argument
  rwa [h.eq_ofArgument]

lemma isSpans_iff : IsSpans argument ↔ Item.ofArgument argument = .spans := by
  rw [← hasKind_iff]
  exact ⟨.spans, fun | .spans h => h⟩

lemma isLanguage_iff : IsLanguage argument ↔ Item.ofArgument argument = .language := by
  rw [← hasKind_iff]
  exact ⟨.language, fun | .language h => h⟩

lemma isTheme_iff : IsTheme argument ↔ Item.ofArgument argument = .theme := by
  rw [← hasKind_iff]
  exact ⟨.theme, fun | .theme h => h⟩

lemma isFile_iff : IsFile argument ↔ Item.ofArgument argument = .file := by
  rw [← hasKind_iff]
  exact ⟨.file, fun | .file h => h⟩

lemma takesValue_iff : TakesValue argument ↔
    Item.ofArgument argument = .language ∨ Item.ofArgument argument = .theme := by
  rw [TakesValue, isLanguage_iff, isTheme_iff]

lemma eq_hyphen_iff : argument = "-" ↔ Item.ofArgument argument = .standardInput := by
  rw [← hasKind_iff]
  exact ⟨.standardInput, fun | .standardInput h => h⟩

lemma unknown_iff : ¬ IsFile argument ∧ argument ∉ knownOptions ↔ Item.ofArgument argument = .unknown := by
  rw [← hasKind_iff]
  exact ⟨fun h => .unknown h.1 h.2, fun | .unknown hfile h => ⟨hfile, h⟩⟩

end

section

variable {before behind all : List Part} {p q : Part} {result : Except UsageFault Command}

lemma decides_iff : Decides before p result ↔
    (∃ command, Item.ofArgument p.argument = .stop command ∧ result = .ok command) ∨
    (Item.ofArgument p.argument = .language ∧ p.value = none ∧ result = .error .missingLanguage) ∨
    (Item.ofArgument p.argument = .theme ∧ p.value = none ∧ result = .error .missingTheme) ∨
    (Item.ofArgument p.argument = .unknown ∧ result = .error (.unknownOption p.argument)) ∨
    (Item.ofArgument p.argument = .file ∧ HoldsFile before ∧ result = .error .secondFile) := by
  rw [← isLanguage_iff, ← isTheme_iff, ← unknown_iff, ← isFile_iff]
  constructor
  · intro h
    cases h with
    | help h => exact Or.inl ⟨_, (HasKind.help h).eq_ofArgument, rfl⟩
    | version h => exact Or.inl ⟨_, (HasKind.version h).eq_ofArgument, rfl⟩
    | list h => exact Or.inl ⟨_, (HasKind.list h).eq_ofArgument, rfl⟩
    | missingLanguage h hv => exact Or.inr (Or.inl ⟨h, hv, rfl⟩)
    | missingTheme h hv => exact Or.inr (Or.inr (Or.inl ⟨h, hv, rfl⟩))
    | unknownOption hfile h => exact Or.inr (Or.inr (Or.inr (Or.inl ⟨⟨hfile, h⟩, rfl⟩)))
    | secondFile h hf => exact Or.inr (Or.inr (Or.inr (Or.inr ⟨h, hf, rfl⟩)))
  · rintro (⟨command, h, rfl⟩ | ⟨h, hv, rfl⟩ | ⟨h, hv, rfl⟩ | ⟨⟨hfile, h⟩, rfl⟩ | ⟨h, hf, rfl⟩)
    · cases hasKind_iff.mpr h with
      | help hk => exact .help hk
      | version hk => exact .version hk
      | list hk => exact .list hk
    · exact .missingLanguage h hv
    · exact .missingTheme h hv
    · exact .unknownOption hfile h
    · exact .secondFile h hf

lemma concat_eq_iff : all ++ [p] = before ++ q :: behind ↔
    (before = all ∧ q = p ∧ behind = []) ∨ ∃ rest, all = before ++ q :: rest ∧ behind = rest ++ [p] := by
  constructor
  · intro h
    rcases List.eq_nil_or_concat behind with rfl | ⟨rest, last, rfl⟩
    · obtain ⟨rfl, hlast⟩ := List.append_inj' h rfl
      exact Or.inl ⟨rfl, (List.singleton_inj.mp hlast).symm, rfl⟩
    · rw [List.concat_eq_append, ← List.cons_append, ← List.append_assoc] at h
      obtain ⟨rfl, hlast⟩ := List.append_inj' h rfl
      exact Or.inr ⟨rest, rfl, by rw [List.concat_eq_append, List.singleton_inj.mp hlast]⟩
  · rintro (⟨rfl, rfl, rfl⟩ | ⟨rest, rfl, rfl⟩) <;> simp

lemma unfollowed_concat {kind other : String → Prop} : Unfollowed kind other (all ++ [p]) q ↔
    (kind p.argument ∧ q = p) ∨ (¬ other p.argument ∧ Unfollowed kind other all q) := by
  simp only [Unfollowed, concat_eq_iff]
  constructor
  · rintro ⟨front, behind, ⟨rfl, rfl, rfl⟩ | ⟨rest, rfl, rfl⟩, hq, hbehind⟩
    · exact Or.inl ⟨hq, rfl⟩
    · exact Or.inr ⟨hbehind p (by simp), front, rest, rfl, hq, fun r hr => hbehind r (by simp [hr])⟩
  · rintro (⟨hp, rfl⟩ | ⟨hp, front, rest, rfl, hq, hrest⟩)
    · exact ⟨all, [], Or.inl ⟨rfl, rfl, rfl⟩, hp, by simp⟩
    · refine ⟨front, rest ++ [p], Or.inr ⟨rest, rfl, rfl⟩, hq, fun r hr => ?_⟩
      rcases List.mem_append.mp hr with hr | hr
      · exact hrest r hr
      · rwa [List.mem_singleton.mp hr]

lemma undecided_concat : Undecided (all ++ [p]) ↔ Undecided all ∧ ∀ result, ¬ Decides all p result := by
  simp only [Undecided, concat_eq_iff]
  constructor
  · intro h
    exact ⟨fun front q rest hall => h front q _ (Or.inr ⟨rest, hall, rfl⟩), h all p [] (Or.inl ⟨rfl, rfl, rfl⟩)⟩
  · rintro ⟨hall, hp⟩ front q behind (⟨rfl, rfl, rfl⟩ | ⟨rest, hsplit, rfl⟩)
    · exact hp
    · exact hall front q rest hsplit

lemma holdsFile_iff : HoldsFile all ↔ ∃ p, Unfollowed IsFile IsInput all p := by
  -- from the end, since the last file or lone hyphen settles both sides
  induction all using List.reverseRecOn with
  | nil => simp [HoldsFile, Unfollowed]
  | append_singleton all p ih =>
    by_cases hp : IsFile p.argument
    · simp [HoldsFile, unfollowed_concat, hp]
    · simp only [HoldsFile, unfollowed_concat, IsInput, hp, false_and, false_or, exists_and_left] at ih ⊢
      rw [ih]

end

section

variable {arguments rest : List String} {argument value : String} {p : Part} {front : List Part}

lemma parts_plain (h : ¬ TakesValue argument) : parts (argument :: rest) = ⟨argument, none⟩ :: parts rest := by
  cases rest with
  | nil => rfl
  | cons value rest => rw [parts, if_neg h]

lemma parts_valued (h : TakesValue argument) :
    parts (argument :: value :: rest) = ⟨argument, some value⟩ :: parts rest := by
  rw [parts, if_pos h]

lemma flatMap_parts (arguments : List String) : (parts arguments).flatMap Part.arguments = arguments := by
  fun_induction parts arguments with
  | case1 => rfl
  | case2 argument => rfl
  | case3 argument value rest h ih => simp [Part.arguments, ih]
  | case4 argument value rest h ih => simp [Part.arguments, ih]

lemma parts_arguments (h : p.Complete) : parts (p.arguments ++ rest) = p :: parts rest := by
  obtain ⟨argument, _ | value⟩ := p
  · exact parts_plain (by simpa [Part.Complete] using h)
  · exact parts_valued (by simpa [Part.Complete] using h)

lemma parts_append (h : ∀ p ∈ front, p.Complete) :
    parts (front.flatMap Part.arguments ++ rest) = front ++ parts rest := by
  induction front with
  | nil => rfl
  | cons p front ih =>
    rw [List.flatMap_cons, List.append_assoc, parts_arguments (h p List.mem_cons_self),
      ih fun q hq => h q (List.mem_cons_of_mem p hq), List.cons_append]

lemma Decides.unique {before : List Part} {r s : Except UsageFault Command} (h : Decides before p r)
    (h' : Decides before p s) : r = s := by
  rw [decides_iff] at h h'
  rcases h with ⟨c, hk, rfl⟩ | ⟨hk, -, rfl⟩ | ⟨hk, -, rfl⟩ | ⟨hk, rfl⟩ | ⟨hk, -, rfl⟩ <;> simp_all

lemma takesValue_of_mem_parts (h : p ∈ parts arguments) (hv : p.value.isSome) : TakesValue p.argument := by
  fun_induction parts arguments with
  | case1 => cases h
  | case2 argument =>
    obtain rfl := List.mem_singleton.mp h
    cases hv
  | case3 argument value rest htakes ih =>
    rcases List.mem_cons.mp h with rfl | h
    · exact htakes
    · exact ih h
  | case4 argument value rest htakes ih =>
    rcases List.mem_cons.mp h with rfl | h
    · cases hv
    · exact ih h

lemma complete_of_undecided {before : List Part} (h : p ∈ parts arguments)
    (hp : ∀ result, ¬ Decides before p result) : p.Complete := by
  refine ⟨fun hv => ?_, takesValue_of_mem_parts h⟩
  by_contra hnone
  rw [Bool.not_eq_true, Option.isSome_eq_false_iff, Option.isNone_iff_eq_none] at hnone
  rcases hv with hv | hv
  · exact hp _ (.missingLanguage hv hnone)
  · exact hp _ (.missingTheme hv hnone)

lemma Undecided.complete {before behind : List Part} (hu : Undecided before)
    (h : parts arguments = before ++ behind) : ∀ q ∈ before, q.Complete := by
  intro q hq
  obtain ⟨front, rest, rfl⟩ := List.append_of_mem hq
  exact complete_of_undecided (h ▸ List.mem_append_left behind hq) (hu front q rest rfl)

lemma Decides.first_unique {before front behind rest : List Part} {q : Part} {r s : Except UsageFault Command}
    (h : before ++ p :: behind = front ++ q :: rest) (hbefore : Undecided before) (hfront : Undecided front)
    (hp : Decides before p r) (hq : Decides front q s) : before = front ∧ p = q := by
  -- if one of the two were in front, it would be among the undecided parts before the other
  rcases List.append_eq_append_iff.mp h with ⟨gap, rfl, hgap⟩ | ⟨gap, rfl, hgap⟩
  · cases gap with
    | nil => exact ⟨(List.append_nil before).symm, (List.cons.inj hgap).1⟩
    | cons x gap =>
      obtain ⟨rfl, -⟩ := List.cons.inj hgap
      exact (hfront before p gap rfl r hp).elim
  · cases gap with
    | nil => exact ⟨List.append_nil front, (List.cons.inj hgap).1.symm⟩
    | cons x gap =>
      obtain ⟨rfl, -⟩ := List.cons.inj hgap
      exact (hbefore front q gap rfl s hq).elim

end

end Highlighting.CommandLine
