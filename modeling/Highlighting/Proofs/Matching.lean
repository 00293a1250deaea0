import Highlighting.Pattern.Search
import Highlighting.Proofs.Backtracking
import Highlighting.Proofs.Boundaries

/-! Matches of a pattern, told by backtracking at the cursors of a text. What a search finds first is
the match that begins first, and whatever a match records lies between characters, inside the match. -/

namespace Highlighting

namespace Cursor

def Spans (c : Cursor) (own : Text) (d : Cursor) : Prop :=
  c.rest = own ++ d.rest ∧ d.offset = c.offset + Text.byteLength own

lemma Spans.trans {c d e : Cursor} {own rest : Text} (h : c.Spans own d) (h' : d.Spans rest e) :
    c.Spans (own ++ rest) e := by
  refine ⟨?_, ?_⟩
  · rw [h.1, h'.1, List.append_assoc]
  · rw [h'.2, h.2, Text.byteLength_append, Nat.add_assoc]

lemma Spans.offset_add_sub {c d : Cursor} {own : Text} (h : c.Spans own d) {i : Nat}
    (hi : Text.byteLength own ≤ i) : d.offset + (i - Text.byteLength own) = c.offset + i := by
  rw [h.2, Nat.add_assoc, Nat.add_sub_cancel' hi]

lemma Reaches.exists_text {c d : Cursor} (h : Reaches c d) : ∃ own, c.Spans own d := by
  induction h with
  | refl c => exact ⟨[], rfl, rfl⟩
  | @step c d e hn _ ih =>
    obtain ⟨own, hrest, hoffset⟩ := ih
    obtain ⟨previous, offset, rest⟩ := c
    cases rest with
    | nil => simp [next?] at hn
    | cons x rest =>
      simp only [next?, Option.some.injEq] at hn
      subst hn
      exact ⟨x :: own, by simpa using hrest, by rw [hoffset, Text.byteLength_cons, ← Nat.add_assoc]⟩

lemma exists_reaches (c : Cursor) {own behind : Text} (h : c.rest = own ++ behind) :
    ∃ d, Reaches c d ∧ d.rest = behind ∧ d.offset = c.offset + Text.byteLength own := by
  induction own generalizing c with
  | nil => exact ⟨c, .refl c, h, rfl⟩
  | cons x own ih =>
    obtain ⟨d, hd, hrest, hoffset⟩ := ih ⟨some x, c.offset + x.utf8Size, own ++ behind⟩ rfl
    refine ⟨d, .step (by simp [next?, h]) hd, hrest, ?_⟩
    rw [hoffset, Text.byteLength_cons, ← Nat.add_assoc]

lemma Reaches.offset_le {c d : Cursor} (h : Reaches c d) : c.offset ≤ d.offset := by
  obtain ⟨own, -, hoffset⟩ := h.exists_text
  omega

lemma Reaches.eq_or_next {c d : Cursor} (h : Reaches c d) :
    d = c ∨ ∃ e, c.next? = some e ∧ Reaches e d := by
  cases h with
  | refl => exact Or.inl rfl
  | step hn hd => exact Or.inr ⟨_, hn, hd⟩

lemma offset_next {c d : Cursor} (h : c.next? = some d) : c.offset < d.offset := by
  obtain ⟨previous, offset, rest⟩ := c
  cases rest with
  | nil => simp [next?] at h
  | cons x rest =>
    simp only [next?, Option.some.injEq] at h
    subst h
    exact Nat.lt_add_of_pos_right x.utf8Size_pos

lemma Reaches.offset_inj {c d e : Cursor} (hd : Reaches c d) (he : Reaches c e)
    (h : d.offset = e.offset) : d = e := by
  induction hd with
  | refl c =>
    rcases he.eq_or_next with rfl | ⟨c', hn, he⟩
    · rfl
    · have hlt := offset_next hn
      have hle := he.offset_le
      omega
  | step hn hd ih =>
    rcases he.eq_or_next with rfl | ⟨c', hn', he⟩
    · have hlt := offset_next hn
      have hle := hd.offset_le
      omega
    · obtain rfl := Option.some.inj (hn.symm.trans hn')
      exact ih he h

lemma Reaches.of_offset_le {c d e : Cursor} (hd : Reaches c d) (he : Reaches c e)
    (h : d.offset ≤ e.offset) : Reaches d e := by
  induction hd with
  | refl c => exact he
  | step hn hd ih =>
    rcases he.eq_or_next with rfl | ⟨c', hn', he⟩
    · have hlt := offset_next hn
      have hle := hd.offset_le
      omega
    · obtain rfl := Option.some.inj (hn.symm.trans hn')
      exact ih he h

lemma mem_all {previous : Option Char} {offset : Nat} {text : Text} {d : Cursor} :
    d ∈ Cursor.all previous offset text ↔ Reaches ⟨previous, offset, text⟩ d := by
  induction text generalizing previous offset with
  | nil =>
    rw [Cursor.all, List.mem_singleton]
    constructor
    · rintro rfl
      exact .refl _
    · intro h
      rcases h.eq_or_next with rfl | ⟨e, hn, -⟩
      · rfl
      · simp [next?] at hn
  | cons x rest ih =>
    rw [Cursor.all, List.mem_cons, ih]
    constructor
    · rintro (rfl | h)
      · exact .refl _
      · exact .step rfl h
    · intro h
      rcases h.eq_or_next with rfl | ⟨e, hn, he⟩
      · exact Or.inl rfl
      · simp only [next?, Option.some.injEq] at hn
        subst hn
        exact Or.inr he

lemma all_pairwise (previous : Option Char) (offset : Nat) (text : Text) :
    (Cursor.all previous offset text).Pairwise fun c d => c.offset < d.offset := by
  induction text generalizing previous offset with
  | nil => simp [Cursor.all]
  | cons x rest ih =>
    rw [Cursor.all, List.pairwise_cons]
    refine ⟨fun d hd => ?_, ih _ _⟩
    have hle := (mem_all.mp hd).offset_le
    have hx := x.utf8Size_pos
    simp only at hle ⊢
    omega

lemma Reaches.isBoundary {text : Text} {c : Cursor} (h : (start text).Reaches c) :
    text.IsBoundary c.offset := by
  obtain ⟨own, hrest, hoffset⟩ := h.exists_text
  exact ⟨own, c.rest, hrest, by simp [hoffset, start]⟩

lemma Reaches.offset_add {text : Text} {c : Cursor} (h : (start text).Reaches c) :
    c.offset + Text.byteLength c.rest = Text.byteLength text := by
  obtain ⟨own, hrest, hoffset⟩ := h.exists_text
  simp only [start] at hrest hoffset
  rw [hrest, Text.byteLength_append]
  omega

end Cursor

namespace Range

def Fits (r : Range) (text : Text) : Prop :=
  r.start ≤ r.stop ∧ text.IsBoundary r.start ∧ text.IsBoundary r.stop

lemma Fits.stop_le {r : Range} {text : Text} (h : r.Fits text) : r.stop ≤ Text.byteLength text :=
  h.2.2.le

lemma contains_iff {r : Range} {i : Nat} : r.contains i = true ↔ r.start ≤ i ∧ i < r.stop := by
  simp [contains]

end Range

namespace Ending

lemma openedAt?_append (i stop : Nat) (ms ns : List Mark) :
    openedAt? i ⟨stop, ms ++ ns⟩ = (openedAt? i ⟨stop, ns⟩).or (openedAt? i ⟨stop, ms⟩) := by
  simp [openedAt?]

lemma closedAt?_append (i stop : Nat) (ms ns : List Mark) :
    closedAt? i ⟨stop, ms ++ ns⟩ = (closedAt? i ⟨stop, ns⟩).or (closedAt? i ⟨stop, ms⟩) := by
  simp [closedAt?]

end Ending

namespace Pattern

def groups : Pattern → List Nat
  | empty => []
  | set _ => []
  | look _ => []
  | seq a b => a.groups ++ b.groups
  | alt a b => a.groups ++ b.groups
  | loop a _ => a.groups
  | group i a => i :: a.groups

/-- The marks of some groups on the way of a match from one cursor to another. -/
inductive Path (is : List Nat) : Cursor → List Mark → Cursor → Prop
  | move {c d : Cursor} : c.Reaches d → Path is c [] d
  | append {c d e : Cursor} {ms ns : List Mark} : Path is c ms d → Path is d ns e → Path is c (ms ++ ns) e
  | group {c d : Cursor} {ms : List Mark} {i : Nat} : i ∈ is → Path is c ms d →
      Path is c (.opened i c.offset :: (ms ++ [.closed i d.offset])) d

section

variable {is js : List Nat} {c d : Cursor} {ms : List Mark}

lemma Path.mono (hsub : is ⊆ js) (h : Path is c ms d) : Path js c ms d := by
  induction h with
  | move h => exact .move h
  | append _ _ ihc ihd => exact ihc.append ihd
  | group hi _ ih => exact ih.group (hsub hi)

lemma Path.mem_of_opened (h : Path is c ms d) {i offset : Nat} (hm : .opened i offset ∈ ms) : i ∈ is := by
  induction h with
  | move h => cases hm
  | append _ _ ihc ihd => exact (List.mem_append.mp hm).elim ihc ihd
  | group hi _ ih =>
    rcases List.mem_cons.mp hm with he | hm
    · cases he
      exact hi
    · exact ih (by simpa using hm)

lemma Path.reaches (h : Path is c ms d) : c.Reaches d := by
  induction h with
  | move h => exact h
  | append _ _ ihc ihd => exact ihc.trans ihd
  | group _ _ ih => exact ih

lemma Path.group_cursors (h : Path is c ms d) (i stop : Nat) :
    (Ending.openedAt? i ⟨stop, ms⟩ = none ∧ Ending.closedAt? i ⟨stop, ms⟩ = none) ∨
      ∃ x y, c.Reaches x ∧ x.Reaches y ∧ y.Reaches d ∧
        Ending.openedAt? i ⟨stop, ms⟩ = some x.offset ∧ Ending.closedAt? i ⟨stop, ms⟩ = some y.offset := by
  induction h with
  | move h => exact Or.inl ⟨rfl, rfl⟩
  | append hms hns ihm ihn =>
    rw [Ending.openedAt?_append, Ending.closedAt?_append]
    rcases ihn with ⟨ho, hc⟩ | ⟨x, y, hx, hxy, hy, ho, hc⟩
    · rw [ho, hc]
      rcases ihm with ⟨ho, hc⟩ | ⟨x, y, hx, hxy, hy, ho, hc⟩
      · exact Or.inl ⟨by simp [ho], by simp [hc]⟩
      · exact Or.inr ⟨x, y, hx, hxy, hy.trans hns.reaches, by simp [ho], by simp [hc]⟩
    · exact Or.inr ⟨x, y, hms.reaches.trans hx, hxy, hy, by simp [ho], by simp [hc]⟩
  | @group c d ms j _ hms ih =>
    have ho : Ending.openedAt? i ⟨stop, .opened j c.offset :: (ms ++ [.closed j d.offset])⟩ =
        (Ending.openedAt? i ⟨stop, ms⟩).or (if j = i then some c.offset else none) := by
      simp [Ending.openedAt?]
    have hc : Ending.closedAt? i ⟨stop, .opened j c.offset :: (ms ++ [.closed j d.offset])⟩ =
        (if j = i then some d.offset else none).or (Ending.closedAt? i ⟨stop, ms⟩) := by
      by_cases hj : j = i <;> simp [Ending.closedAt?, hj]
    rw [ho, hc]
    by_cases hj : j = i
    · rcases ih with ⟨ho, -⟩ | ⟨x, y, hx, hxy, hy, ho, -⟩
      · exact Or.inr ⟨c, d, .refl c, hms.reaches, .refl d, by simp [ho, hj], by simp [hj]⟩
      · exact Or.inr ⟨x, d, hx, hxy.trans hy, .refl d, by simp [ho], by simp [hj]⟩
    · simpa [hj] using ih

/-- Whatever a body finds, it finds by a path to a cursor where the rest follows. -/
def Leads (is : List Nat) (body : Follow → Follow) : Prop :=
  ∀ (c : Cursor) (f : Follow) (e : Ending), body f c = some e →
    ∃ d ms e', Path is c ms d ∧ f d = some e' ∧ e = ⟨e'.stop, ms ++ e'.marks⟩

lemma Leads.mono {body : Follow → Follow} (hsub : is ⊆ js) (h : Leads is body) : Leads js body := by
  intro c f e hf
  obtain ⟨d, ms, e', hp, hf', he⟩ := h c f e hf
  exact ⟨d, ms, e', hp.mono hsub, hf', he⟩

lemma prefer_eq_some {greedy : Bool} {a b : Option Ending} {e : Ending}
    (h : prefer greedy a b = some e) : a = some e ∨ b = some e := by
  cases greedy <;> cases a <;> cases b <;> simp_all [prefer]

lemma Leads.again {body : Follow → Follow} (hb : Leads is body) (greedy : Bool) (n : Nat) :
    Leads is fun f => Pattern.again body greedy f n := by
  induction n with
  | zero =>
    intro c f e h
    exact ⟨c, [], e, .move (.refl c), h, rfl⟩
  | succ n ih =>
    intro c f e h
    rcases prefer_eq_some h with h | h
    · obtain ⟨d, ms, e', hp, hf, rfl⟩ := hb c _ e h
      by_cases hlt : d.rest.length < c.rest.length
      · rw [if_pos hlt] at hf
        obtain ⟨d', ns, e'', hp', hf', rfl⟩ := ih d f e' hf
        exact ⟨d', ms ++ ns, e'', hp.append hp', hf', by simp⟩
      · simp [hlt] at hf
    · exact ⟨c, [], e, .move (.refl c), h, rfl⟩

lemma leads_run (p : Pattern) : Leads p.groups p.run := by
  induction p with
  | empty =>
    intro c f e h
    exact ⟨c, [], e, .move (.refl c), h, rfl⟩
  | set s =>
    rintro ⟨previous, offset, rest⟩ f e h
    cases rest with
    | nil => simp [run] at h
    | cons x rest =>
      by_cases hx : s.contains x
      · simp only [run, if_pos hx] at h
        exact ⟨_, [], e, .move (.step rfl (.refl _)), h, rfl⟩
      · simp [run, hx] at h
  | look l =>
    intro c f e h
    by_cases hl : l.holds c.previous c.rest.head?
    · rw [run, if_pos hl] at h
      exact ⟨c, [], e, .move (.refl c), h, rfl⟩
    · simp [run, hl] at h
  | seq a b iha ihb =>
    intro c f e h
    obtain ⟨d, ms, e', hp, hf, rfl⟩ := iha.mono (List.subset_append_left _ b.groups) c _ e h
    obtain ⟨d', ns, e'', hp', hf', rfl⟩ := ihb.mono (List.subset_append_right a.groups _) d f e' hf
    exact ⟨d', ms ++ ns, e'', hp.append hp', hf', by simp⟩
  | alt a b iha ihb =>
    intro c f e h
    rw [run, Option.orElse_eq_orElse, Option.orElse_eq_or, Option.or_eq_some_iff] at h
    rcases h with h | ⟨-, h⟩
    · exact iha.mono (List.subset_append_left _ b.groups) c f e h
    · exact ihb.mono (List.subset_append_right a.groups _) c f e h
  | loop a greedy iha =>
    intro c f e h
    obtain ⟨d, ms, e', hp, hf, rfl⟩ := iha c _ e h
    by_cases hlt : d.rest.length < c.rest.length
    · rw [if_pos hlt] at hf
      obtain ⟨d', ns, e'', hp', hf', rfl⟩ := iha.again greedy _ d f e' hf
      exact ⟨d', ms ++ ns, e'', hp.append hp', hf', by simp⟩
    · rw [if_neg hlt] at hf
      exact ⟨d, ms, e', hp, hf, rfl⟩
  | group i a iha =>
    intro c f e h
    rw [run, Option.map_eq_some_iff] at h
    obtain ⟨inner, h, rfl⟩ := h
    obtain ⟨d, ms, e', hp, hf, rfl⟩ := iha.mono (List.subset_cons_self i _) c _ inner h
    obtain ⟨e'', hf', rfl⟩ := Option.map_eq_some_iff.mp hf
    exact ⟨d, _, e'', hp.group List.mem_cons_self, hf', by simp [Ending.mark]⟩

end

/-- The pattern matches where the match begins, with the ending that it prefers there. -/
def IsMatch (p : Pattern) (text : Text) (m : Match) : Prop :=
  ∃ c, (Cursor.start text).Reaches c ∧ c.offset = m.start ∧ p.run done c = some m.ending

def NeverEmpty (p : Pattern) : Prop := ∀ text m, p.IsMatch text m → m.start < m.ending.stop

section

variable {p : Pattern} {text : Text} {m n : Match}

lemma IsMatch.path (h : p.IsMatch text m) : ∃ c d, (Cursor.start text).Reaches c ∧
    Path p.groups c m.ending.marks d ∧ c.offset = m.start ∧ d.offset = m.ending.stop := by
  obtain ⟨c, hc, hstart, hrun⟩ := h
  obtain ⟨d, ms, e, hp, hdone, he⟩ := leads_run p c done _ hrun
  obtain rfl := Option.some.inj hdone
  simp only [List.append_nil] at he
  exact ⟨c, d, hc, by simpa [he] using hp, hstart, by simp [he]⟩

lemma IsMatch.eq_of_start (hm : p.IsMatch text m) (hn : p.IsMatch text n) (h : m.start = n.start) :
    m = n := by
  obtain ⟨c, hc, hcm, hm⟩ := hm
  obtain ⟨d, hd, hdn, hn⟩ := hn
  obtain rfl := hc.offset_inj hd (by omega)
  rw [hm, Option.some.injEq] at hn
  cases m
  cases n
  simp_all

lemma IsMatch.group_fits (h : p.IsMatch text m) {i : Nat} {r : Range} (hr : m.group? i = some r) :
    r.Fits text ∧ m.start ≤ r.start ∧ r.stop ≤ m.ending.stop := by
  obtain ⟨c, d, hc, hp, hstart, hstop⟩ := h.path
  by_cases hi : i = 0
  · rw [Match.group?, if_pos hi, Option.some.injEq] at hr
    subst hr
    simp only [Match.range, Range.Fits, ← hstart, ← hstop]
    exact ⟨⟨hp.reaches.offset_le, hc.isBoundary, (hc.trans hp.reaches).isBoundary⟩, Nat.le_refl _,
      Nat.le_refl _⟩
  · rw [Match.group?, if_neg hi] at hr
    rcases hp.group_cursors i m.ending.stop with ⟨ho, -⟩ | ⟨x, y, hx, hxy, hy, ho, hcl⟩
    · simp [ho] at hr
    · simp only [ho, hcl, Option.pure_def, Option.bind_eq_bind, Option.bind_some, Option.some.injEq] at hr
      subst hr
      refine ⟨⟨hxy.offset_le, (hc.trans hx).isBoundary, (hc.trans (hx.trans hxy)).isBoundary⟩, ?_, ?_⟩
      · exact hstart ▸ hx.offset_le
      · exact hstop ▸ hy.offset_le

lemma IsMatch.fits (h : p.IsMatch text m) : m.range.Fits text := (h.group_fits (i := 0) rfl).1

lemma mem_table {start : Nat} {ending : Ending} :
    (start, some ending) ∈ p.table text ↔ p.IsMatch text ⟨start, ending⟩ := by
  simp only [table_eq, List.mem_map, Cursor.mem_all, IsMatch, Cursor.start, Prod.mk.injEq]

lemma Table.mem_allFrom {last : Option Nat} {table : Table} (h : m ∈ table.allFrom last) :
    (m.start, some m.ending) ∈ table := by
  fun_induction Table.allFrom last table with
  | case1 => simp at h
  | case2 last start rest ih => exact List.mem_cons_of_mem _ (ih h)
  | case3 last start ending rest _ ih => exact List.mem_cons_of_mem _ (ih h)
  | case4 last start ending rest _ ih =>
    rcases List.mem_cons.mp h with rfl | h
    · exact List.mem_cons_self
    · exact List.mem_cons_of_mem _ (ih h)

lemma isMatch_of_mem_findAll (h : m ∈ p.findAll text) : p.IsMatch text m :=
  mem_table.mp (Table.mem_allFrom h)

def FirstMatch (p : Pattern) (text : Text) (offset : Nat) (m : Match) : Prop :=
  p.IsMatch text m ∧ offset ≤ m.start ∧ ∀ n, p.IsMatch text n → offset ≤ n.start → m.start ≤ n.start

def NoMatchFrom (p : Pattern) (text : Text) (offset : Nat) : Prop :=
  ∀ m, p.IsMatch text m → m.start < offset

lemma FirstMatch.unique {offset : Nat} (hm : p.FirstMatch text offset m)
    (hn : p.FirstMatch text offset n) : m = n :=
  hm.1.eq_of_start hn.1 (Nat.le_antisymm (hm.2.2 n hn.1 hn.2.1) (hn.2.2 m hm.1 hm.2.1))

lemma NoMatchFrom.not_firstMatch {offset : Nat} (h : p.NoMatchFrom text offset) :
    ¬ p.FirstMatch text offset m := by
  intro hm
  have hlt := h m hm.1
  have hle := hm.2.1
  omega

lemma first?_eq_none {offset : Nat} :
    (p.table text).first? offset = none ↔ p.NoMatchFrom text offset := by
  rw [Table.first?, List.findSome?_eq_none_iff]
  constructor
  · intro h m hm
    have hentry := h _ (mem_table.mpr hm)
    by_contra hlt
    simp [Nat.not_lt.mp hlt] at hentry
  · rintro h ⟨start, ending⟩ hmem
    cases ending with
    | none => simp
    | some ending =>
      have hlt := h _ (mem_table.mp hmem)
      simp only at hlt
      simp [Nat.not_le.mpr hlt]

lemma first?_eq_some {offset : Nat} :
    (p.table text).first? offset = some m ↔ p.FirstMatch text offset m := by
  have hfirst {n : Match} (h : (p.table text).first? offset = some n) : p.FirstMatch text offset n := by
    have hpairwise := Cursor.all_pairwise none 0 text
    rw [Table.first?, table_eq, List.findSome?_map] at h
    obtain ⟨before, c, behind, hall, hc, hbefore⟩ := List.findSome?_eq_some_iff.mp h
    have hmem (d : Cursor) : d ∈ Cursor.all none 0 text ↔ (Cursor.start text).Reaches d := Cursor.mem_all
    have hreaches : (Cursor.start text).Reaches c := (hmem c).mp (by simp [hall])
    by_cases hle : offset ≤ c.offset
    · simp only [Function.comp_apply, if_pos hle, Option.map_eq_some_iff] at hc
      obtain ⟨ending, hrun, rfl⟩ := hc
      refine ⟨⟨c, hreaches, rfl, hrun⟩, hle, ?_⟩
      rintro k ⟨d, hd, hstart, hrun'⟩ hk
      rw [hall, List.pairwise_append, List.pairwise_cons] at hpairwise
      have hd' := (hmem d).mpr hd
      rw [hall, List.mem_append, List.mem_cons] at hd'
      rcases hd' with hd' | rfl | hd'
      · have hnone := hbefore d hd'
        simp [hstart, hk, hrun'] at hnone
      · exact Nat.le_of_eq hstart
      · exact hstart ▸ Nat.le_of_lt (hpairwise.2.1.1 d hd')
    · simp [hle] at hc
  constructor
  · exact hfirst
  · intro hm
    cases h : (p.table text).first? offset with
    | none => exact ((first?_eq_none.mp h).not_firstMatch hm).elim
    | some n => rw [(hfirst h).unique hm]

end

end Pattern

end Highlighting
