import Highlighting.Pattern.Backtracking

/-!
The table of a pattern holds the ending that backtracking finds at each place. Main statement:
`table_eq`.
-/
namespace Highlighting

inductive Cursor.Reaches : Cursor → Cursor → Prop
  | refl (c : Cursor) : Reaches c c
  | step {c d e : Cursor} : c.next? = some d → Reaches d e → Reaches c e

namespace Cursor

theorem length_of_next? {c d : Cursor} (h : c.next? = some d) :
    d.rest.length + 1 = c.rest.length := by
  obtain ⟨previous, offset, rest⟩ := c
  cases rest with
  | nil => simp [next?] at h
  | cons x rest =>
    simp only [next?, Option.some.injEq] at h
    subst h
    rfl

theorem Reaches.eq_or_lt {c d : Cursor} (h : Reaches c d) :
    d = c ∨ d.rest.length < c.rest.length := by
  induction h with
  | refl => exact Or.inl rfl
  | step hn _ ih =>
    have hl := length_of_next? hn
    rcases ih with rfl | hlt
    · exact Or.inr (by omega)
    · exact Or.inr (by omega)

theorem Reaches.trans {c d e : Cursor} (h : Reaches c d) (h' : Reaches d e) : Reaches c e := by
  induction h with
  | refl => exact h'
  | step hn _ ih => exact .step hn (ih h')

end Cursor

namespace Pattern

open Cursor

def AgreeFrom (c : Cursor) (f g : Follow) : Prop := ∀ d, Reaches c d → f d = g d

theorem AgreeFrom.ahead {c d : Cursor} {f g : Follow} (h : AgreeFrom c f g) (hd : Reaches c d) :
    AgreeFrom d f g :=
  fun e he => h e (hd.trans he)

def Local (body : Follow → Follow) : Prop := ∀ c f g, AgreeFrom c f g → body f c = body g c

theorem again_congr {body : Follow → Follow} (hb : Local body) (greedy : Bool) (n : Nat) :
    ∀ (c : Cursor) (f g : Follow), AgreeFrom c f g →
      again body greedy f n c = again body greedy g n c := by
  induction n with
  | zero => intro c f g h; exact h c (.refl c)
  | succ n ih =>
    intro c f g h
    have hc : f c = g c := h c (.refl c)
    have hbody := hb c
      (fun d => if d.rest.length < c.rest.length then again body greedy f n d else none)
      (fun d => if d.rest.length < c.rest.length then again body greedy g n d else none)
      (fun d hd => by simp only [ih d f g (h.ahead hd)])
    simp only [again, hc, hbody]

theorem local_run (p : Pattern) : Local p.run := by
  induction p with
  | empty => intro c f g h; exact h c (.refl c)
  | set s =>
    intro c f g h
    obtain ⟨previous, offset, rest⟩ := c
    cases rest with
    | nil => rfl
    | cons x rest =>
      have hn := h ⟨some x, offset + x.utf8Size, rest⟩ (.step rfl (.refl _))
      simp only [run, hn]
  | look l => intro c f g h; simp only [run, h c (.refl c)]
  | seq a b iha ihb =>
    intro c f g h
    exact iha c _ _ fun d hd => ihb d f g (h.ahead hd)
  | alt a b iha ihb => intro c f g h; simp only [run, iha c f g h, ihb c f g h]
  | loop a greedy iha =>
    intro c f g h
    refine iha c _ _ fun d hd => ?_
    simp only [again_congr iha greedy _ d f g (h.ahead hd), h d hd]
  | group i a iha =>
    intro c f g h
    have ha := iha c (fun d => (f d).map (.mark (.closed i d.offset)))
      (fun d => (g d).map (.mark (.closed i d.offset))) fun d hd => by simp only [h d hd]
    simp only [run, ha]

/-- More rounds than characters are left make no difference. -/
theorem again_rounds (body : Follow → Follow) (greedy : Bool) (f : Follow) (n m : Nat) :
    ∀ c : Cursor, c.rest.length < n → c.rest.length < m →
      again body greedy f n c = again body greedy f m c := by
  induction n generalizing m with
  | zero => intro c h; omega
  | succ n ih =>
    intro c hn hm
    cases m with
    | zero => omega
    | succ m =>
      have hrest : (fun d : Cursor => if d.rest.length < c.rest.length then
            again body greedy f n d else none) =
          fun d : Cursor => if d.rest.length < c.rest.length then
            again body greedy f m d else none := by
        funext d
        split
        · exact ih m d (by omega) (by omega)
        · rfl
      simp only [again, hrest]

def rounds (a : Pattern) (greedy : Bool) (f : Follow) : Follow :=
  fun c => again a.run greedy f (c.rest.length + 1) c

theorem rounds_eq (a : Pattern) (greedy : Bool) (f : Follow) (c : Cursor) :
    a.rounds greedy f c =
      prefer greedy
        (a.run (fun d => if d.rest.length < c.rest.length then a.rounds greedy f d else none) c)
        (f c) := by
  have hrest : (fun d : Cursor => if d.rest.length < c.rest.length then
        again a.run greedy f c.rest.length d else none) =
      fun d : Cursor => if d.rest.length < c.rest.length then a.rounds greedy f d else none := by
    funext d
    split
    · exact again_rounds _ _ _ _ _ d (by omega) (by omega)
    · rfl
  simp only [rounds] at hrest ⊢
  rw [again, hrest]

theorem run_loop (a : Pattern) (greedy : Bool) (f : Follow) (c : Cursor) :
    (loop a greedy).run f c =
      a.run (fun d => if d.rest.length < c.rest.length then a.rounds greedy f d else f d) c :=
  rfl

theorem rounds_congr (a : Pattern) (greedy : Bool) {c : Cursor} {f g : Follow}
    (h : AgreeFrom c f g) : a.rounds greedy f c = a.rounds greedy g c :=
  again_congr (local_run a) greedy _ c f g h

/-- What the place before a cursor has to know of it. -/
def known : (p : Pattern) → Follow → Cursor → p.Ahead
  | empty, _, _ => ()
  | set _, f, c => f c
  | look _, _, _ => ()
  | seq a b, f, c => (known a (b.run f) c, known b f c)
  | alt a b, f, c => (known a f c, known b f c)
  | loop a greedy, f, c => known a (a.rounds greedy f) c
  | group i a, f, c => known a (fun d => (f d).map (.mark (.closed i d.offset))) c

theorem known_congr (p : Pattern) (c : Cursor) (f g : Follow) (h : AgreeFrom c f g) :
    p.known f c = p.known g c := by
  induction p generalizing f g with
  | empty => rfl
  | set s => exact h c (.refl c)
  | look l => rfl
  | seq a b iha ihb =>
    exact Prod.ext (iha _ _ fun d hd => local_run b d f g (h.ahead hd)) (ihb f g h)
  | alt a b iha ihb => exact Prod.ext (iha f g h) (ihb f g h)
  | loop a greedy iha => exact iha _ _ fun d hd => rounds_congr a greedy (h.ahead hd)
  | group i a iha => exact iha _ _ fun d hd => by simp only [h d hd]

def knownNext (p : Pattern) (f : Follow) (c : Cursor) : p.Ahead :=
  match c.next? with
  | none => p.nothingAhead
  | some d => p.known f d

def atCursor (f : Follow) (c : Cursor) (v : Option Ending) : Follow :=
  fun d => if d.rest.length < c.rest.length then f d else v

theorem agreeFrom_atCursor {c : Cursor} {f g : Follow} {v : Option Ending} (hv : v = g c)
    (h : ∀ d, Reaches c d → d.rest.length < c.rest.length → f d = g d) :
    AgreeFrom c (atCursor f c v) g := by
  intro d hd
  rcases hd.eq_or_lt with rfl | hlt
  · simp [atCursor, hv]
  · simp [atCursor, hlt, h d hd hlt]

theorem knownNext_seq (a b : Pattern) (f : Follow) (c : Cursor) :
    (seq a b).knownNext f c = (a.knownNext (b.run f) c, b.knownNext f c) := by
  unfold knownNext
  split <;> rfl

theorem knownNext_alt (a b : Pattern) (f : Follow) (c : Cursor) :
    (alt a b).knownNext f c = (a.knownNext f c, b.knownNext f c) := by
  unfold knownNext
  split <;> rfl

theorem knownNext_loop (a : Pattern) (greedy : Bool) (f : Follow) (c : Cursor) :
    (loop a greedy).knownNext f c = a.knownNext (a.rounds greedy f) c := by
  unfold knownNext
  split <;> rfl

theorem knownNext_group (i : Nat) (a : Pattern) (f : Follow) (c : Cursor) :
    (group i a).knownNext f c =
      a.knownNext (fun d => (f d).map (.mark (.closed i d.offset))) c := by
  unfold knownNext
  split <;> rfl

theorem ending_eq (place : Place) (p : Pattern) (after : Option Ending) (ahead : p.Ahead) :
    ending place p after ahead = (p.step place after ahead).1 := by
  induction p generalizing after with
  | empty => rfl
  | set s => rfl
  | look l => rfl
  | seq a b iha ihb => simp only [ending, step, iha, ihb]
  | alt a b iha ihb => simp only [ending, step, iha, ihb]
  | loop a greedy iha => rfl
  | group i a iha => simp only [ending, step, iha]

/-- One step backwards through a text finds what backtracking finds. -/
theorem step_eq (p : Pattern) (c : Cursor) (f : Follow) (v : Option Ending) :
    p.step c.place v (p.knownNext f c) =
      (p.run (atCursor f c v) c, p.known (atCursor f c v) c) := by
  induction p generalizing f v with
  | empty => simp [step, run, known, atCursor]
  | set s =>
    obtain ⟨previous, offset, rest⟩ := c
    cases rest with
    | nil => simp [step, run, known, atCursor, place]
    | cons x rest =>
      by_cases hx : s.contains x <;> simp [step, run, known, knownNext, next?, atCursor, place, hx]
  | look l =>
    by_cases hl : l.holds c.previous c.rest.head? <;> simp [step, run, known, atCursor, place, hl]
  | seq a b iha ihb =>
    have hf : AgreeFrom c (atCursor (b.run f) c (b.run (atCursor f c v) c))
        (b.run (atCursor f c v)) := by
      refine agreeFrom_atCursor rfl fun d hd hlt => local_run b d _ _ fun e he => ?_
      have hle : e.rest.length < c.rest.length := by
        rcases he.eq_or_lt with rfl | h <;> omega
      simp [atCursor, hle]
    simp only [step, knownNext_seq, ihb, iha, run, known, local_run a c _ _ hf,
      known_congr a c _ _ hf]
  | alt a b iha ihb => simp only [step, knownNext_alt, iha, ihb, run, known]
  | loop a greedy iha =>
    have hahead : ∀ d, Reaches c d → d.rest.length < c.rest.length →
        a.rounds greedy f d = a.rounds greedy (atCursor f c v) d := by
      refine fun d hd hlt => rounds_congr a greedy fun e he => ?_
      have hle : e.rest.length < c.rest.length := by
        rcases he.eq_or_lt with rfl | h <;> omega
      simp [atCursor, hle]
    have hfirst : AgreeFrom c (atCursor (a.rounds greedy f) c v) fun d =>
        if d.rest.length < c.rest.length then a.rounds greedy (atCursor f c v) d
        else atCursor f c v d :=
      agreeFrom_atCursor (by simp [atCursor]) fun d hd hlt => by simp [hlt, hahead d hd hlt]
    have hnone : AgreeFrom c (atCursor (a.rounds greedy f) c none) fun d =>
        if d.rest.length < c.rest.length then a.rounds greedy (atCursor f c v) d else none :=
      agreeFrom_atCursor (by simp) fun d hd hlt => by simp [hlt, hahead d hd hlt]
    have hagain : prefer greedy (a.run (atCursor (a.rounds greedy f) c none) c) v =
        a.rounds greedy (atCursor f c v) c := by
      rw [rounds_eq, local_run a c _ _ hnone]
      simp [atCursor]
    have hlater : AgreeFrom c
        (atCursor (a.rounds greedy f) c (a.rounds greedy (atCursor f c v) c))
        (a.rounds greedy (atCursor f c v)) :=
      agreeFrom_atCursor rfl hahead
    simp only [step, ending_eq, knownNext_loop, iha, hagain, run_loop, known, local_run a c _ _ hfirst,
      known_congr a c _ _ hlater]
  | group i a iha =>
    have hf : AgreeFrom c
        (atCursor (fun d => (f d).map (.mark (.closed i d.offset))) c
          (v.map (.mark (.closed i c.offset))))
        fun d => (atCursor f c v d).map (.mark (.closed i d.offset)) :=
      agreeFrom_atCursor (by simp [atCursor]) fun d _ hlt => by simp [atCursor, hlt]
    simp only [step, knownNext_group, place, run, known] at iha ⊢
    simp only [iha, local_run a c _ _ hf, known_congr a c _ _ hf]

theorem atCursor_done (c : Cursor) : AgreeFrom c (atCursor done c (some ⟨c.offset, []⟩)) done :=
  agreeFrom_atCursor rfl fun _ _ _ => rfl

theorem tableFrom_eq (p : Pattern) (previous : Option Char) (offset : Nat) (text : Text) :
    p.tableFrom previous offset text =
      ((Cursor.all previous offset text).map fun c => (c.offset, p.run done c),
        p.known done ⟨previous, offset, text⟩) := by
  induction text generalizing previous offset with
  | nil =>
    have h := step_eq p ⟨previous, offset, []⟩ done (some ⟨offset, []⟩)
    simp only [knownNext, next?, place, List.head?_nil] at h
    have hd := atCursor_done ⟨previous, offset, []⟩
    simp only [tableFrom, Cursor.all, List.map, h, local_run p _ _ _ hd, known_congr p _ _ _ hd]
  | cons x rest ih =>
    have h := step_eq p ⟨previous, offset, x :: rest⟩ done (some ⟨offset, []⟩)
    simp only [knownNext, next?, place, List.head?_cons] at h
    have hd := atCursor_done ⟨previous, offset, x :: rest⟩
    simp only [tableFrom, Cursor.all, List.map, ih, h, local_run p _ _ _ hd,
      known_congr p _ _ _ hd]

/-- The table lists, for every place of the text, what backtracking finds there. -/
theorem table_eq (p : Pattern) (text : Text) :
    p.table text = (Cursor.all none 0 text).map fun c => (c.offset, p.run done c) := by
  simp only [table, tableFrom_eq]

end Pattern

end Highlighting
