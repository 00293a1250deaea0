import Highlighting.Proofs.Reading

/-! Greedy patterns that find the longest of all they could read. A greedy choice does so if what follows cannot
begin like what the choice would read. -/

namespace Highlighting

/-- What may be read between the text before and the text behind. -/
abbrev Readings := (before own behind : Text) → Prop

namespace Readings

def nothing : Readings := fun _ own _ => own = []

def located (l : Look) (P : Readings) : Readings :=
  fun before own behind => l.holds before.getLast? (own ++ behind).head? = true ∧ P before own behind

def after (A : Text → Prop) (P : Readings) : Readings :=
  fun before own behind => ∃ part rest, own = part ++ rest ∧ A part ∧ P (before ++ part) rest behind

def Begin (A : Text → Prop) (q : Char → Prop) : Prop := ∀ own, A own → ∃ x rest, own = x :: rest ∧ q x

def Avoid (P : Readings) (q : Char → Prop) : Prop := ∀ before x own behind, P before (x :: own) behind → ¬ q x

def Longest (P : Readings) (before text : Text) (e : Ending) : Prop :=
  ∃ own behind, text = own ++ behind ∧ P before own behind ∧ e = ⟨Text.byteLength (before ++ own), []⟩ ∧
    ∀ own' behind', text = own' ++ behind' → P before own' behind' → Text.byteLength own' ≤ Text.byteLength own

def Both (A B : Text → Prop) (own : Text) : Prop := ∃ a b, own = a ++ b ∧ A a ∧ B b

def OneOf (s : CharSet) (own : Text) : Prop := ∃ x, own = [x] ∧ s.contains x = true

def AllOf (s : CharSet) (own : Text) : Prop := ∀ x ∈ own, s.contains x = true

def RunOf (s : CharSet) (own : Text) : Prop := own ≠ [] ∧ ∀ x ∈ own, s.contains x = true

section

variable {A B : Text → Prop} {P : Readings} {q r : Char → Prop} {before own behind : Text}

lemma after_both : after (Both A B) P = after A (after B P) := by
  funext before own behind
  refine propext ⟨?_, ?_⟩
  · rintro ⟨_, rest, rfl, ⟨a, b, rfl, ha, hb⟩, hp⟩
    exact ⟨a, b ++ rest, by simp, ha, b, rest, rfl, hb, by simpa using hp⟩
  · rintro ⟨a, _, rfl, ha, b, rest, rfl, hb, hp⟩
    exact ⟨a ++ b, rest, by simp, ⟨a, b, rfl, ha, hb⟩, by simpa using hp⟩

lemma Begin.both (h : Begin A q) : Begin (Both A B) q := by
  rintro _ ⟨a, b, rfl, ha, -⟩
  obtain ⟨x, rest, rfl, hx⟩ := h a ha
  exact ⟨x, rest ++ b, rfl, hx⟩

lemma begin_oneOf (s : CharSet) : Begin (OneOf s) (s.contains · = true) := by
  rintro _ ⟨x, rfl, hx⟩
  exact ⟨x, [], rfl, hx⟩

lemma avoid_nothing (q : Char → Prop) : Avoid nothing q := fun _ _ _ _ h => (List.cons_ne_nil _ _ h).elim

lemma Avoid.located (h : Avoid P q) (l : Look) : Avoid (located l P) q :=
  fun before x own behind hp => h before x own behind hp.2

lemma begin_runOf (s : CharSet) : Begin (RunOf s) (s.contains · = true) := by
  rintro own ⟨hne, hall⟩
  obtain ⟨x, rest, rfl⟩ := List.exists_cons_of_ne_nil hne
  exact ⟨x, rest, rfl, hall x List.mem_cons_self⟩

lemma avoid_after (hA : Begin A r) (hqr : ∀ x, r x → ¬ q x) : Avoid (after A P) q := by
  rintro before x own behind ⟨part, rest, hown, hpart, -⟩
  obtain ⟨y, part, rfl, hy⟩ := hA part hpart
  obtain ⟨rfl, -⟩ := List.cons.inj hown
  exact hqr x hy

lemma Avoid.after (h : Avoid P q) (hA : Begin A r) (hqr : ∀ x, r x → ¬ q x) :
    Avoid (Readings.after (fun own => own = [] ∨ A own) P) q := by
  rintro before x own behind ⟨part, rest, hown, rfl | hpart, hp⟩
  · rw [List.nil_append] at hown
    rw [← hown] at hp
    exact h _ _ _ _ hp
  · exact avoid_after hA hqr before x own behind ⟨part, rest, hown, hpart, hp⟩

/-- A greedy run takes each character that it can, since nothing that may be read behind it begins with one. -/
lemma Longest.cons {s : CharSet} {text : Text} {x : Char} {e : Ending} (hP : Avoid P (s.contains · = true))
    (hx : s.contains x = true) (h : (Readings.after (AllOf s) P).Longest (before ++ [x]) text e) :
    (Readings.after (AllOf s) P).Longest before (x :: text) e := by
  obtain ⟨_, behind, rfl, ⟨part, rest, rfl, hpart, hp⟩, he, hmax⟩ := h
  refine ⟨x :: (part ++ rest), behind, rfl,
    ⟨x :: part, rest, rfl, List.forall_mem_cons.mpr ⟨hx, hpart⟩, by simpa using hp⟩, by simpa using he, ?_⟩
  rintro _ behind' htext ⟨part', rest', rfl, hpart', hp'⟩
  cases part' with
  | nil =>
    cases rest' with
    | nil => exact Nat.zero_le _
    | cons z rest' =>
      obtain ⟨rfl, -⟩ := List.cons.inj htext
      exact (hP _ _ _ _ hp' hx).elim
  | cons z part' =>
    obtain ⟨rfl, htail⟩ := List.cons.inj htext
    have hle := hmax (part' ++ rest') behind' htail
      ⟨part', rest', rfl, fun y hy => hpart' y (List.mem_cons_of_mem x hy), by simpa using hp'⟩
    simpa using hle

end

end Readings

namespace Pattern

open Cursor Readings

/-- Succeeds where something can be read, and ends with the longest of it. -/
structure FindsLongest (f : Follow) (P : Readings) : Prop where
  found : ∀ {before own behind : Text}, P before own behind → ∃ e, f (between before (own ++ behind)) = some e
  longest : ∀ {before text : Text} {e : Ending}, f (between before text) = some e → P.Longest before text e

section

variable {f g : Follow} {P Q : Readings} {A B : Text → Prop} {q : Char → Prop} {s : CharSet}

lemma findsLongest_done : FindsLongest done nothing := by
  refine ⟨fun {before own behind} h => ⟨_, rfl⟩, fun {before text e} h => ⟨[], text, rfl, rfl, ?_, ?_⟩⟩
  · rw [List.append_nil, ← Option.some.inj h]
    rfl
  · rintro own' behind' - rfl
    exact Nat.le_refl _

lemma FindsLongest.congr (h : FindsLongest f P)
    (hpq : ∀ before own behind, P before own behind ↔ Q before own behind) : FindsLongest f Q := by
  obtain rfl : P = Q := by
    funext before own behind
    exact propext (hpq before own behind)
  exact h

lemma FindsLongest.look (h : FindsLongest f P) (l : Look) : FindsLongest ((Pattern.look l).run f) (located l P) := by
  refine ⟨fun ⟨hl, hp⟩ => ?_, fun hrun => ?_⟩
  · obtain ⟨e, he⟩ := h.found hp
    exact ⟨e, run_look_eq_some.mpr ⟨hl, he⟩⟩
  · obtain ⟨hl, hrun⟩ := run_look_eq_some.mp hrun
    obtain ⟨own, behind, rfl, hp, he, hmax⟩ := h.longest hrun
    exact ⟨own, behind, rfl, ⟨hl, hp⟩, he, fun own' behind' htext hp' => hmax own' behind' htext hp'.2⟩

lemma FindsLongest.set (h : FindsLongest f P) (s : CharSet) :
    FindsLongest ((Pattern.set s).run f) (after (OneOf s) P) := by
  constructor
  · rintro before _ behind ⟨_, rest, rfl, ⟨x, rfl, hx⟩, hp⟩
    obtain ⟨e, he⟩ := h.found hp
    exact ⟨e, run_set_eq_some.mpr ⟨x, rest ++ behind, rfl, hx, he⟩⟩
  · intro before text e hrun
    obtain ⟨x, text, rfl, hx, hrun⟩ := run_set_eq_some.mp hrun
    obtain ⟨own, behind, rfl, hp, he, hmax⟩ := h.longest hrun
    refine ⟨x :: own, behind, rfl, ⟨[x], own, rfl, ⟨x, rfl, hx⟩, hp⟩, by simpa using he, ?_⟩
    rintro _ behind' htext ⟨_, rest, rfl, ⟨y, rfl, -⟩, hp'⟩
    obtain ⟨rfl, htail⟩ := List.cons.inj htext
    have hle := hmax rest behind' htail hp'
    simpa using hle

lemma FindsLongest.orElse (hf : FindsLongest f P) (hg : FindsLongest g Q)
    (hle : ∀ {before own behind own' behind' : Text}, own ++ behind = own' ++ behind' → P before own behind →
      Q before own' behind' → Text.byteLength own' ≤ Text.byteLength own) :
    FindsLongest (fun c => f c <|> g c) fun before own behind => P before own behind ∨ Q before own behind := by
  constructor
  · rintro before own behind (hp | hq)
    · obtain ⟨e, he⟩ := hf.found hp
      exact ⟨e, by rw [he]; rfl⟩
    · obtain ⟨e, he⟩ := hg.found hq
      cases hfirst : f (between before (own ++ behind)) with
      | none => exact ⟨e, he⟩
      | some e' => exact ⟨e', rfl⟩
  · intro before text e hrun
    cases hfirst : f (between before text) with
    | some e' =>
      rw [hfirst] at hrun
      obtain ⟨own, behind, rfl, hp, he, hmax⟩ := hf.longest (hfirst.trans hrun)
      refine ⟨own, behind, rfl, Or.inl hp, he, ?_⟩
      rintro own' behind' htext (hp' | hq')
      · exact hmax own' behind' htext hp'
      · exact hle htext hp hq'
    | none =>
      rw [hfirst] at hrun
      obtain ⟨own, behind, rfl, hq, he, hmax⟩ := hg.longest hrun
      refine ⟨own, behind, rfl, Or.inr hq, he, ?_⟩
      rintro own' behind' htext (hp' | hq')
      · obtain ⟨e', he'⟩ := hf.found hp'
        rw [← htext, hfirst] at he'
        cases he'
      · exact hmax own' behind' htext hq'

lemma FindsLongest.optional {a : Pattern} (ha : FindsLongest (a.run f) (after A P)) (hf : FindsLongest f P)
    (hA : Begin A q) (hP : Avoid P q) :
    FindsLongest ((optional a true).run f) (after (fun own => own = [] ∨ A own) P) := by
  have hrun : FindsLongest ((Pattern.optional a true).run f) fun before own behind =>
      after A P before own behind ∨ P before own behind := by
    refine ha.orElse hf fun {before own behind own' behind'} htext hp hp' => ?_
    obtain ⟨part, rest, rfl, hpart, -⟩ := hp
    obtain ⟨x, part, rfl, hx⟩ := hA part hpart
    cases own' with
    | nil => exact Nat.zero_le _
    | cons y own' =>
      obtain ⟨rfl, -⟩ := List.cons.inj htext
      exact (hP _ _ _ _ hp' hx).elim
  refine hrun.congr fun before own behind => ?_
  constructor
  · rintro (⟨part, rest, rfl, hpart, hp⟩ | hp)
    · exact ⟨part, rest, rfl, Or.inr hpart, hp⟩
    · exact ⟨[], own, rfl, Or.inl rfl, by rwa [List.append_nil]⟩
  · rintro ⟨part, rest, rfl, rfl | hpart, hp⟩
    · exact Or.inr (by rwa [List.append_nil] at hp)
    · exact Or.inl ⟨part, rest, rfl, hpart, hp⟩

lemma FindsLongest.exists_rounds (hf : FindsLongest f P) {before part rest behind : Text}
    (hpart : ∀ x ∈ part, s.contains x = true) (hp : P (before ++ part) rest behind) :
    ∃ e, (Pattern.set s).rounds true f (between before (part ++ rest ++ behind)) = some e := by
  induction part generalizing before with
  | nil =>
    obtain ⟨e, he⟩ := hf.found hp
    rw [List.append_nil] at he
    rw [(advances_set s).rounds_eq, List.nil_append, he]
    cases (Pattern.set s).run ((Pattern.set s).rounds true f) (between before (rest ++ behind)) with
    | none => exact ⟨e, rfl⟩
    | some e' => exact ⟨e', rfl⟩
  | cons x part ih =>
    have hx : s.contains x = true := hpart x List.mem_cons_self
    have hlater : P (before ++ [x] ++ part) rest behind := by simpa using hp
    obtain ⟨e, he⟩ := ih (fun y hy => hpart y (List.mem_cons_of_mem x hy)) hlater
    have hstep : (Pattern.set s).run ((Pattern.set s).rounds true f)
        (between before (x :: part ++ rest ++ behind)) = some e :=
      run_set_eq_some.mpr ⟨x, part ++ rest ++ behind, rfl, hx, he⟩
    exact ⟨e, by rw [(advances_set s).rounds_eq, hstep]; rfl⟩

lemma FindsLongest.longest_of_stopped (hf : FindsLongest f P) {before text : Text} {e : Ending}
    (hset : (Pattern.set s).run ((Pattern.set s).rounds true f) (between before text) = none)
    (hrun : f (between before text) = some e) :
    (after (AllOf s) P).Longest before text e := by
  obtain ⟨own, behind, rfl, hp, he, hmax⟩ := hf.longest hrun
  refine ⟨own, behind, rfl, ⟨[], own, rfl, List.forall_mem_nil _, by rwa [List.append_nil]⟩, he, ?_⟩
  rintro _ behind' htext ⟨part, rest, rfl, hpart, hp'⟩
  cases part with
  | nil => exact hmax rest behind' htext (by rwa [List.append_nil] at hp')
  | cons x part =>
    have hlater : P (before ++ [x] ++ part) rest behind' := by simpa using hp'
    obtain ⟨e', he'⟩ := hf.exists_rounds (fun y hy => hpart y (List.mem_cons_of_mem x hy)) hlater
    have hstep := run_set_eq_some.mpr ⟨x, part ++ rest ++ behind', rfl, hpart x List.mem_cons_self, he'⟩
    rw [htext] at hset
    cases hset.symm.trans hstep

lemma FindsLongest.rounds (hf : FindsLongest f P) (hP : Avoid P (s.contains · = true)) :
    FindsLongest ((Pattern.set s).rounds true f) (after (AllOf s) P) := by
  constructor
  · rintro before _ behind ⟨part, rest, rfl, hpart, hp⟩
    exact hf.exists_rounds hpart hp
  · intro before text e hrun
    rw [(advances_set s).rounds_eq] at hrun
    induction text generalizing before e with
    | nil => exact hf.longest_of_stopped (run_set_nil s) hrun
    | cons x text ih =>
      cases hset : (Pattern.set s).run ((Pattern.set s).rounds true f) (between before (x :: text)) with
      | none =>
        rw [hset] at hrun
        exact hf.longest_of_stopped hset hrun
      | some e' =>
        rw [hset] at hrun
        obtain rfl : e' = e := Option.some.inj hrun
        obtain ⟨y, text', heq, hx, hread⟩ := run_set_eq_some.mp hset
        obtain ⟨rfl, rfl⟩ := List.cons.inj heq
        rw [(advances_set s).rounds_eq] at hread
        exact (ih hread).cons hP hx

lemma FindsLongest.loop (hf : FindsLongest f P) (hP : Avoid P (s.contains · = true)) :
    FindsLongest ((Pattern.loop (Pattern.set s) true).run f) (after (RunOf s) P) := by
  have hrun : (Pattern.loop (Pattern.set s) true).run f = (Pattern.set s).run ((Pattern.set s).rounds true f) := by
    funext c
    exact (advances_set s).run_loop f c
  rw [hrun]
  refine ((hf.rounds hP).set s).congr fun before own behind => ?_
  rw [← after_both]
  have hkind : Both (OneOf s) (AllOf s) = RunOf s := by
    funext own
    refine propext ⟨?_, ?_⟩
    · rintro ⟨_, b, rfl, ⟨x, rfl, hx⟩, hb⟩
      exact ⟨List.cons_ne_nil x b, List.forall_mem_cons.mpr ⟨hx, hb⟩⟩
    · rintro ⟨hne, hall⟩
      obtain ⟨x, b, rfl⟩ := List.exists_cons_of_ne_nil hne
      obtain ⟨hx, hb⟩ := List.forall_mem_cons.mp hall
      exact ⟨[x], b, rfl, ⟨x, rfl, hx⟩, hb⟩
  rw [hkind]

lemma FindsLongest.of_isMatch {p : Pattern} {text : Text} {m : Match} (h : FindsLongest (p.run done) P)
    (hm : p.IsMatch text m) : ∃ before own behind, text = before ++ (own ++ behind) ∧
      Text.byteLength before = m.start ∧ Text.byteLength (before ++ own) = m.ending.stop ∧ P before own behind ∧
      ∀ own' behind', own ++ behind = own' ++ behind' → P before own' behind' →
        Text.byteLength own' ≤ Text.byteLength own := by
  obtain ⟨before, rest, rfl, hstart, hrun⟩ := isMatch_iff.mp hm
  obtain ⟨own, behind, rfl, hp, hending, hmax⟩ := h.longest hrun
  exact ⟨before, own, behind, rfl, hstart, by rw [hending], hp, hmax⟩

lemma FindsLongest.exists_isMatch {p : Pattern} (h : FindsLongest (p.run done) P) {before own behind : Text}
    (hp : P before own behind) (hne : own ≠ []) : ∃ m, p.IsMatch (before ++ (own ++ behind)) m ∧
      m.start = Text.byteLength before ∧ m.start < m.ending.stop := by
  obtain ⟨e, he⟩ := h.found hp
  obtain ⟨own', behind', htext, -, rfl, hmax⟩ := h.longest he
  have hle := hmax own behind rfl hp
  have hpos := Text.byteLength_pos hne
  refine ⟨⟨Text.byteLength before, _⟩, isMatch_iff.mpr ⟨before, own ++ behind, rfl, rfl, he⟩, rfl, ?_⟩
  simp only [Text.byteLength_append]
  omega

end

end Pattern

end Highlighting
