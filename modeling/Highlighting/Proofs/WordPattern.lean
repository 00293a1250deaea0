import Highlighting.Proofs.Spelling

/-! The text of the pattern for some words. Whatever the words hold, reading it gives one item for each of
their characters, so that it finds what the pattern `words` finds. -/

namespace Highlighting.Pattern

/-- Reading takes a text to its rest and adds what stands before, however many rounds there are to spare. -/
def Reads (s : Progress) (text : Text) (t : Progress) (rest : Text) : Prop :=
  ∀ n, text.length < n → ∃ k, rest.length < k ∧ Parser.readParts n s text = Parser.readParts k t rest

section

variable {s t u : Progress} {text rest last : Text} {c : Char}

lemma Reads.trans (h : Reads s text t rest) (h' : Reads t rest u last) : Reads s text u last := by
  intro n hn
  obtain ⟨k, hk, heq⟩ := h n hn
  obtain ⟨l, hl, heq'⟩ := h' k hk
  exact ⟨l, hl, heq.trans heq'⟩

lemma skip_eq (hs : s.flags.verbose = false) (text : Text) : s.flags.skip text = text := by
  cases text <;> simp [Flags.skip, Flags.takeWhile, hs]

lemma reads_part (hs : s.flags.verbose = false) (hpart : Parser.readPart s c text = .ok (t, rest))
    (hrest : rest.length ≤ text.length) : Reads s (c :: text) t rest := by
  intro n hn
  rw [List.length_cons] at hn
  obtain ⟨k, rfl⟩ := Nat.exists_eq_succ_of_ne_zero (Nat.ne_zero_of_lt hn)
  refine ⟨k, by omega, ?_⟩
  rw [Parser.readParts, skip_eq hs]
  simp only [hpart]
  rfl

lemma parse_of_reads (h : Reads .initial text t []) : Expression.parse text = t.finish := by
  obtain ⟨k, -, heq⟩ := h (text.length + 1) (Nat.lt_succ_self _)
  rw [Expression.parse, heq]
  cases k <;> rfl

lemma readPart_plain (hc : c ∉ special) : Parser.readPart s c text = .ok (s.literal c, text) := by
  unfold Parser.readPart
  split <;> simp_all [special]

lemma readPart_escaped (hc : c ∈ special) :
    Parser.readPart s '\\' (c :: text) = .ok (s.literal c, text) := by
  have hread : Escape.read s.flags (c :: text) = .ok (.literal c, text) := by
    simp only [special, List.mem_cons, List.not_mem_nil, or_false] at hc
    rcases hc with rfl | rfl | rfl | rfl | rfl | rfl | rfl | rfl | rfl | rfl | rfl | rfl | rfl | rfl | rfl |
      rfl | rfl | rfl <;> rfl
  rw [Parser.readPart, hread]
  rfl

end

namespace Progress

def items (flags : Flags) (word : Text) : List Expression := word.map fun c => .set (flags.char c) 0

def addAll (s : Progress) (es : List Expression) : Progress :=
  { s with level := { s.level with items := es.reverse ++ s.level.items } }

end Progress

section

variable {s : Progress}

lemma reads_escape (hs : s.flags.verbose = false) (word rest : Text) :
    Reads s (escape word ++ rest) (s.addAll (Progress.items s.flags word)) rest := by
  induction word generalizing s with
  | nil => exact fun n hn => ⟨n, hn, rfl⟩
  | cons c word ih =>
    have hnext := ih (s := s.literal c) hs
    have hitems : (s.literal c).addAll (Progress.items s.flags word) =
        s.addAll (Progress.items s.flags (c :: word)) := by
      simp [Progress.addAll, Progress.literal, Progress.add, Level.add, Progress.items]
    rw [← hitems]
    refine Reads.trans ?_ hnext
    rw [escape, List.flatMap_cons, List.append_assoc]
    by_cases hc : c ∈ special
    · rw [if_pos hc]
      exact reads_part hs (readPart_escaped hc) (by simp [escape])
    · rw [if_neg hc]
      exact reads_part hs (readPart_plain hc) (by simp [escape])

lemma reads_words (hs : s.flags.verbose = false) (hitems : s.level.items = []) (word : Text)
    (words : List Text) (rest : Text) : ∃ level : Level,
      Reads s (['|'].intercalate ((word :: words).map escape) ++ rest) { s with level := level } rest ∧
      level.expression = .oneOf (s.level.alternatives.reverse ++
        (word :: words).map fun w => .inOrder (Progress.items s.flags w)) ∧
      level.outerFlags = s.level.outerFlags ∧ level.group = s.level.group := by
  induction words generalizing s word with
  | nil =>
    have htext : ['|'].intercalate ([word].map escape) ++ rest = escape word ++ rest := by
      simp [List.intercalate]
    refine ⟨(s.addAll (Progress.items s.flags word)).level, ?_, ?_, rfl, rfl⟩
    · rw [htext]
      exact reads_escape hs word rest
    · simp [Level.expression, Level.current, Progress.addAll, hitems]
  | cons next words ih =>
    have hword := reads_escape hs word ('|' :: (['|'].intercalate ((next :: words).map escape) ++ rest))
    have hbar : Reads (s.addAll (Progress.items s.flags word))
        ('|' :: (['|'].intercalate ((next :: words).map escape) ++ rest))
        { s with level := (s.addAll (Progress.items s.flags word)).level.bar }
        (['|'].intercalate ((next :: words).map escape) ++ rest) :=
      reads_part hs rfl (Nat.le_refl _)
    obtain ⟨level, hwords, hexpression, houter, hgroup⟩ :=
      ih (s := { s with level := (s.addAll (Progress.items s.flags word)).level.bar }) hs rfl next
    refine ⟨level, ?_, ?_, houter, hgroup⟩
    · have htext : ['|'].intercalate ((word :: next :: words).map escape) ++ rest =
          escape word ++ ('|' :: (['|'].intercalate ((next :: words).map escape) ++ rest)) := by
        simp [List.intercalate]
      rw [htext]
      exact hword.trans (hbar.trans hwords)
    · rw [hexpression]
      simp [Level.bar, Level.current, Progress.addAll, hitems]

end

def wordFlags (ignoreCase : Bool) : Flags := { Flags.initial with ignoreCase := ignoreCase }

def wordsExpression (list : List String) (ignoreCase : Bool) : Expression :=
  .inOrder ((if ignoreCase then [.flags] else []) ++
    [.look .wordBoundary,
      .group none (.oneOf (list.map fun w => .inOrder (Progress.items (wordFlags ignoreCase) w.toList))),
      .look .wordBoundary])

section

variable (list : List String) (ignoreCase : Bool)

def flagged : Progress := if ignoreCase then Progress.initial.setFlags (wordFlags true) else .initial

lemma reads_flags (rest : Text) :
    Reads .initial ((if ignoreCase then "(?i)".toList else []) ++ rest) (flagged ignoreCase) rest := by
  cases ignoreCase with
  | false => exact fun n hn => ⟨n, hn, rfl⟩
  | true => exact reads_part rfl rfl (Nat.le_add_right rest.length 3)

lemma reads_list {s : Progress} (hs : s.flags.verbose = false) (hlevel : s.level = .start s.level.outerFlags none)
    (rest : Text) : ∃ level : Level,
      Reads s (['|'].intercalate (list.map fun w => escape w.toList) ++ rest) { s with level := level } rest ∧
      level.expression = .oneOf (list.map fun w => .inOrder (Progress.items s.flags w.toList)) ∧
      level.outerFlags = s.level.outerFlags ∧ level.group = none := by
  have hitems : s.level.items = [] := by rw [hlevel]; rfl
  have halternatives : s.level.alternatives = [] := by rw [hlevel]; rfl
  have hgroup : s.level.group = none := by rw [hlevel]; rfl
  cases list with
  | nil =>
    refine ⟨s.level, fun n hn => ⟨n, hn, rfl⟩, ?_, rfl, hgroup⟩
    simp [Level.expression, Level.current, hitems, halternatives, Expression.inOrder, Expression.oneOf]
  | cons w ws =>
    obtain ⟨level, hreads, hexpression, houter, hgroup'⟩ :=
      reads_words hs hitems w.toList (ws.map String.toList) rest
    refine ⟨level, ?_, ?_, houter, hgroup'.trans hgroup⟩
    · simpa [Function.comp_def] using hreads
    · rw [hexpression, halternatives]
      simp [Function.comp_def]

def edged : Progress := (flagged ignoreCase).add (.look .wordBoundary)

lemma reads_opening (rest : Text) : Reads (flagged ignoreCase) ("\\b(?:".toList ++ rest)
    ((edged ignoreCase).openGroup (edged ignoreCase).flags none) rest := by
  have hedge : Reads (flagged ignoreCase) ("\\b(?:".toList ++ rest) (edged ignoreCase)
      ("(?:".toList ++ rest) := by
    cases ignoreCase <;> exact reads_part rfl rfl (Nat.le_succ _)
  have hgroup : Reads (edged ignoreCase) ("(?:".toList ++ rest)
      ((edged ignoreCase).openGroup (edged ignoreCase).flags none) rest := by
    cases ignoreCase <;> exact reads_part rfl rfl (Nat.le_add_right rest.length 2)
  exact hedge.trans hgroup

lemma reads_closing {level : Level} (houter : level.outerFlags = (edged ignoreCase).flags)
    (hgroup : level.group = none) :
    Reads { (edged ignoreCase).openGroup (edged ignoreCase).flags none with level := level } [')', '\\', 'b']
      (((edged ignoreCase).add (.group none level.expression)).add (.look .wordBoundary)) [] := by
  obtain ⟨outerFlags, group, alternatives, items⟩ := level
  obtain rfl : outerFlags = (edged ignoreCase).flags := houter
  obtain rfl : group = none := hgroup
  have hclose : Reads { (edged ignoreCase).openGroup (edged ignoreCase).flags none with
        level := ⟨(edged ignoreCase).flags, none, alternatives, items⟩ } [')', '\\', 'b']
      ((edged ignoreCase).add (.group none
        (Level.expression ⟨(edged ignoreCase).flags, none, alternatives, items⟩))) ['\\', 'b'] := by
    cases ignoreCase <;> exact reads_part rfl rfl (Nat.le_refl _)
  refine hclose.trans ?_
  cases ignoreCase <;> exact reads_part rfl rfl (Nat.le_succ _)

lemma parse_wordsText :
    Expression.parse (wordsText list ignoreCase) = .ok (wordsExpression list ignoreCase) := by
  have hverbose : ((edged ignoreCase).openGroup (edged ignoreCase).flags none).flags.verbose = false := by
    cases ignoreCase <;> rfl
  have hclose : ")\\b".toList = [')', '\\', 'b'] := rfl
  obtain ⟨level, hwords, hexpression, houter, hgroup⟩ := reads_list list hverbose rfl [')', '\\', 'b']
  have hreads := (reads_flags ignoreCase _).trans ((reads_opening ignoreCase _).trans
    (hwords.trans (reads_closing ignoreCase houter hgroup)))
  rw [wordsText, hclose, parse_of_reads hreads, hexpression]
  cases ignoreCase <;> rfl

end

namespace Expression

lemma pattern_inOrder (es : List Expression) : (inOrder es).pattern = Pattern.inOrder (es.map pattern) := by
  induction es with
  | nil => rfl
  | cons e es ih =>
    cases es with
    | nil => rfl
    | cons e' es => exact congrArg (Pattern.seq e.pattern) ih

lemma pattern_oneOf (es : List Expression) : (oneOf es).pattern = Pattern.oneOf (es.map pattern) := by
  induction es with
  | nil => rfl
  | cons e es ih =>
    cases es with
    | nil => rfl
    | cons e' es => exact congrArg (Pattern.alt e.pattern) ih

lemma depth_inOrder {es : List Expression} {n : Nat} (h : ∀ e ∈ es, e.depth ≤ n) :
    (inOrder es).depth ≤ n + 1 := by
  induction es with
  | nil => exact Nat.zero_le _
  | cons e es ih =>
    have he := h e List.mem_cons_self
    have hes := ih fun e' he' => h e' (List.mem_cons_of_mem e he')
    cases es with
    | nil => exact Nat.le_succ_of_le he
    | cons e' es =>
      have he' := h e' (List.mem_cons_of_mem e List.mem_cons_self)
      have hcons : inOrder (e :: e' :: es) = seq e (inOrder (e' :: es)) := rfl
      rw [hcons, depth]
      cases es with
      | nil =>
        rw [inOrder]
        split <;> omega
      | cons e'' es =>
        have hcons' : inOrder (e' :: e'' :: es) = seq e' (inOrder (e'' :: es)) := rfl
        rw [hcons'] at hes ⊢
        rw [isSeq, if_pos rfl]
        omega

lemma depth_oneOf {es : List Expression} {n : Nat} (h : ∀ e ∈ es, e.depth ≤ n) :
    (oneOf es).depth ≤ n + 1 := by
  induction es with
  | nil => exact Nat.zero_le _
  | cons e es ih =>
    have he := h e List.mem_cons_self
    have hes := ih fun e' he' => h e' (List.mem_cons_of_mem e he')
    cases es with
    | nil => exact Nat.le_succ_of_le he
    | cons e' es =>
      have he' := h e' (List.mem_cons_of_mem e List.mem_cons_self)
      have hcons : oneOf (e :: e' :: es) = alt e (oneOf (e' :: es)) := rfl
      rw [hcons, depth]
      cases es with
      | nil =>
        rw [oneOf]
        split <;> omega
      | cons e'' es =>
        have hcons' : oneOf (e' :: e'' :: es) = alt e' (oneOf (e'' :: es)) := rfl
        rw [hcons'] at hes ⊢
        rw [isAlt, if_pos rfl]
        omega

end Expression

section

variable (list : List String) (ignoreCase : Bool)

lemma depth_wordsExpression : (wordsExpression list ignoreCase).depth ≤ maxDepth := by
  have hword : ∀ e ∈ list.map fun w => Expression.inOrder (Progress.items (wordFlags ignoreCase) w.toList),
      e.depth ≤ 1 := by
    intro e he
    obtain ⟨w, -, rfl⟩ := List.mem_map.mp he
    apply Expression.depth_inOrder
    intro e he
    obtain ⟨c, -, rfl⟩ := List.mem_map.mp he
    exact Nat.le_refl 0
  have hwords := Nat.succ_le_succ (Expression.depth_oneOf hword)
  have hall : (wordsExpression list ignoreCase).depth ≤ 4 := by
    apply Expression.depth_inOrder
    intro e he
    rcases List.mem_append.mp he with he | he
    · cases ignoreCase with
      | false => cases he
      | true => obtain rfl := List.mem_singleton.mp he; exact Nat.zero_le _
    · simp only [List.mem_cons, List.not_mem_nil, or_false] at he
      rcases he with rfl | rfl | rfl
      · exact Nat.zero_le _
      · exact hwords
      · exact Nat.zero_le _
  exact Nat.le_trans hall (by decide)

lemma pattern_wordsExpression : (wordsExpression list ignoreCase).pattern =
    inOrder ((if ignoreCase then [empty] else []) ++
      [look .wordBoundary, oneOf (list.map fun w => literal w.toList ignoreCase), look .wordBoundary]) := by
  have hword (w : String) : (Expression.inOrder (Progress.items (wordFlags ignoreCase) w.toList)).pattern =
      literal w.toList ignoreCase := by
    rw [Expression.pattern_inOrder, literal, Progress.items, List.map_map]
    cases ignoreCase <;> rfl
  rw [wordsExpression, Expression.pattern_inOrder]
  cases ignoreCase <;> simp [Expression.pattern, Expression.pattern_oneOf, Function.comp_def, hword]

lemma run_wordsExpression (f : Follow) (c : Cursor) :
    (wordsExpression list ignoreCase).pattern.run f c = (words list ignoreCase).run f c := by
  rw [pattern_wordsExpression, words]
  cases ignoreCase <;> rfl

lemma findAll_wordsExpression (text : Text) :
    (wordsExpression list ignoreCase).pattern.findAll text = (words list ignoreCase).findAll text := by
  rw [findAll, findAll, table_eq, table_eq]
  simp only [run_wordsExpression]

lemma compile_wordsText (name : String) : compile name (wordsText list ignoreCase) =
    if maxFootprint < (wordsExpression list ignoreCase).footprint then .error ⟨name, .tooLarge⟩
    else .ok (wordsExpression list ignoreCase).pattern := by
  have hdepth := Nat.not_lt.mpr (depth_wordsExpression list ignoreCase)
  have hparse : parse (wordsText list ignoreCase) =
      if maxFootprint < (wordsExpression list ignoreCase).footprint then .error .tooLarge
      else .ok (wordsExpression list ignoreCase).pattern := by
    rw [parse, parse_wordsText]
    exact if_neg hdepth
  rw [compile, hparse]
  by_cases hlarge : maxFootprint < (wordsExpression list ignoreCase).footprint
  · rw [if_pos hlarge, if_pos hlarge]
  · rw [if_neg hlarge, if_neg hlarge]

end

end Highlighting.Pattern
