import Highlighting.Toml.Document
import Mathlib.Data.List.Nodup

/-! No table of a TOML document has a key twice, however deep it lies. -/

namespace Highlighting.Toml

mutual

/-- A value in which no table has a key twice. -/
inductive Value.Distinct : Value → Prop
  | string (s : String) : Value.Distinct (.string s)
  | boolean (b : Bool) : Value.Distinct (.boolean b)
  | integer (n : Int) : Value.Distinct (.integer n)
  | float : Value.Distinct .float
  | moment : Value.Distinct .moment
  | array {items : List Value} : (∀ value ∈ items, Value.Distinct value) → Value.Distinct (.array items)
  | table {origin : Origin} {entries : Entries} : Entries.Distinct entries → Value.Distinct (.table origin entries)
  | tables {elements : List Entries} :
      (∀ entries ∈ elements, Entries.Distinct entries) → Value.Distinct (.tables elements)

inductive Entries.Distinct : Entries → Prop
  | mk {entries : Entries} : (entries.map (·.1)).Nodup → (∀ entry ∈ entries, Value.Distinct entry.2) →
      Entries.Distinct entries

end

namespace Entries

variable {entries edited : Entries} {key : String} {value : Value}

lemma distinct_iff : entries.Distinct ↔ (entries.map (·.1)).Nodup ∧ ∀ entry ∈ entries, entry.2.Distinct :=
  ⟨fun ⟨h, h'⟩ => ⟨h, h'⟩, fun ⟨h, h'⟩ => ⟨h, h'⟩⟩

lemma distinct_nil : Entries.Distinct [] := ⟨List.nodup_nil, by simp⟩

lemma mem_of_lookup (h : entries.lookup key = some value) : (key, value) ∈ entries := by
  obtain ⟨before, behind, rfl, -⟩ := List.lookup_eq_some_iff.mp h
  simp

lemma Distinct.of_lookup (hd : entries.Distinct) (h : entries.lookup key = some value) : value.Distinct :=
  (distinct_iff.mp hd).2 _ (mem_of_lookup h)

lemma mem_put {entry : String × Value} (h : entry ∈ entries.put key value) :
    entry ∈ entries ∨ entry = (key, value) := by
  induction entries with
  | nil => simpa [put] using h
  | cons first rest ih =>
    rw [put] at h
    split at h
    · rename_i hk
      rcases List.mem_cons.mp h with rfl | h
      · exact .inr (by rw [hk])
      · exact .inl (.tail _ h)
    · rcases List.mem_cons.mp h with rfl | h
      · exact .inl (.head _)
      · exact (ih h).imp (.tail _) id

lemma Distinct.put (hd : entries.Distinct) (hv : value.Distinct) : (entries.put key value).Distinct := by
  induction entries with
  | nil => exact ⟨by simp [Entries.put], by simpa [Entries.put] using hv⟩
  | cons first rest ih =>
    obtain ⟨k, v⟩ := first
    simp only [distinct_iff, List.map_cons, List.nodup_cons, List.forall_mem_cons] at hd
    rw [Entries.put]
    split
    · exact distinct_iff.mpr ⟨List.nodup_cons.mpr hd.1, List.forall_mem_cons.mpr ⟨hv, hd.2.2⟩⟩
    · rename_i hk
      obtain ⟨hn, hr⟩ := distinct_iff.mp (ih (distinct_iff.mpr ⟨hd.1.2, hd.2.2⟩))
      refine distinct_iff.mpr ⟨List.nodup_cons.mpr ⟨?_, hn⟩, List.forall_mem_cons.mpr ⟨hd.2.1, hr⟩⟩
      intro hmem
      obtain ⟨entry, hentry, he⟩ := List.mem_map.mp hmem
      rcases mem_put hentry with h | rfl
      · exact hd.1.1 (List.mem_map.mpr ⟨entry, h, he⟩)
      · exact hk he.symm

lemma Distinct.filter (hd : entries.Distinct) (keep : String × Value → Bool) :
    Distinct (entries.filter keep) := by
  obtain ⟨hn, hv⟩ := distinct_iff.mp hd
  refine ⟨hn.sublist (List.filter_sublist.map _), fun entry h => hv entry (List.mem_of_mem_filter h)⟩

lemma Distinct.openTable (hd : entries.Distinct) (h : entries.openTable key = some edited) :
    edited.Distinct := by
  unfold Entries.openTable at h
  split at h
  · cases h
    exact hd.put (.table distinct_nil)
  · rename_i inner hl
    cases h
    cases hd.of_lookup hl with
    | table hi => exact (hd.filter _).put (.table hi)
  · cases h

lemma distinct_append_element {elements : List Entries} {last : Entries}
    (h : ∀ entries ∈ elements, entries.Distinct) (hl : last.Distinct) :
    (Value.tables (elements ++ [last])).Distinct := by
  refine .tables fun entries hentries => ?_
  rcases List.mem_append.mp hentries with hentries | hentries
  · exact h entries hentries
  · rwa [List.mem_singleton.mp hentries]

lemma Distinct.openElement (hd : entries.Distinct) (h : entries.openElement key = some edited) :
    edited.Distinct := by
  unfold Entries.openElement at h
  split at h
  · cases h
    exact hd.put (.tables (List.forall_mem_singleton.mpr distinct_nil))
  · rename_i elements hl
    cases h
    cases hd.of_lookup hl with
    | tables he => exact hd.put (distinct_append_element he distinct_nil)
  · cases h

lemma Distinct.put_changed {changed : Option Entries} {wrap : Entries → Value} (hd : entries.Distinct)
    (hw : ∀ inner, changed = some inner → (wrap inner).Distinct)
    (h : (do return entries.put key (wrap (← changed))) = some edited) : edited.Distinct := by
  obtain ⟨inner, hi, h⟩ := Option.bind_eq_some_iff.mp h
  cases h
  exact hd.put (hw inner hi)

lemma Distinct.put_last {elements : List Entries} {last : Entries} {changed : Option Entries}
    (hd : entries.Distinct) (hl : entries.lookup key = some (.tables elements)) (hlast : elements.getLast? = some last)
    (hw : ∀ inner, last.Distinct → changed = some inner → inner.Distinct)
    (h : (do return entries.put key (.tables (elements.dropLast ++ [← changed]))) = some edited) :
    edited.Distinct := by
  cases hd.of_lookup hl with
  | tables he =>
    refine hd.put_changed (fun inner hi => ?_) h
    refine distinct_append_element (fun entries hentries => he entries ?_) ?_
    · exact (List.dropLast_sublist elements).subset hentries
    · exact hw inner (he last (List.mem_of_getLast? hlast)) hi

lemma Distinct.underHeader {change : Entries → Option Entries} {path : List String}
    (hc : ∀ {old new : Entries}, old.Distinct → change old = some new → new.Distinct)
    (hd : entries.Distinct) (h : underHeader change path entries = some edited) : edited.Distinct := by
  fun_induction Entries.underHeader change path entries generalizing edited with
  | case1 => exact hc hd h
  | case2 entries key path hl ih => exact hd.put_changed (fun inner hi => .table (ih distinct_nil hi)) h
  | case3 => cases h
  | case4 entries key path origin inner hne hl ih =>
    cases hd.of_lookup hl with
    | table ho => exact hd.put_changed (fun inner hi => .table (ih ho hi)) h
  | case5 => cases h
  | case6 entries key path elements hl last hlast ih => exact hd.put_last hl hlast (fun _ ho hi => ih ho hi) h
  | case7 => cases h

lemma Distinct.insert {origin : Origin} {dotted : Bool} {path : List String} (hv : value.Distinct)
    (hd : entries.Distinct) (h : entries.insert value origin dotted path = some edited) : edited.Distinct := by
  fun_induction Entries.insert value origin dotted path entries generalizing edited with
  | case1 => cases h
  | case2 => cases h
  | case3 origin dotted key entries hnew hl =>
    cases h
    exact hd.put hv
  | case4 => cases h
  | case5 origin dotted key rest entries hrest hl ih =>
    exact hd.put_changed (fun inner hi => .table (ih distinct_nil hi)) h
  | case6 origin dotted key rest entries hrest origin' inner hl ho ih =>
    cases hd.of_lookup hl with
    | table ho => exact hd.put_changed (fun inner hi => .table (ih ho hi)) h
  | case7 => cases h
  | case8 => cases h
  | case9 origin dotted key rest entries hrest elements hl last hlast ih =>
    exact hd.put_last hl hlast (fun _ ho hi => ih ho hi) h
  | case10 => cases h

end Entries

section Reading

lemma distinct_inlineTable {pairs : List (List String × Value)} {entries : Entries}
    (hp : ∀ pair ∈ pairs, pair.2.Distinct) (h : inlineTable? pairs = some entries) : entries.Distinct := by
  have hrun : ∀ {start : Entries}, start.Distinct →
      pairs.foldlM (fun entries pair => Entries.insert pair.2 .inline false pair.1 entries) start = some entries →
      entries.Distinct := by
    clear h
    induction pairs with
    | nil => intro start hs h; cases h; exact hs
    | cons pair rest ih =>
      intro start hs h
      obtain ⟨next, hn, h⟩ := Option.bind_eq_some_iff.mp h
      exact ih (fun p hm => hp p (.tail _ hm)) (hs.insert (hp pair (.head _)) hn) h
  exact hrun Entries.distinct_nil h

lemma distinct_scalar {text : Text} {value : Value} (h : scalar? text = some value) : value.Distinct := by
  unfold scalar? at h
  split at h
  · cases h
    exact .boolean true
  split at h
  · cases h
    exact .boolean false
  split at h
  · cases h
    exact .moment
  split at h
  · cases h
    exact .integer _
  split at h
  · cases h
    exact .float
  · cases h

lemma distinct_readScalar {text rest : Text} {value : Value} (h : readScalar text = some (value, rest)) :
    value.Distinct := by
  have hmap {word behind : Text} (h : (scalar? word).map (·, behind) = some (value, rest)) : value.Distinct := by
    obtain ⟨v, hv, he⟩ := Option.map_eq_some_iff.mp h
    cases he
    exact distinct_scalar hv
  simp only [readScalar] at h
  split at h
  · split at h
    · exact hmap h
    · exact hmap h
  · exact hmap h

lemma distinct_read (rounds : Nat) :
    (∀ {depth text value rest}, readValue rounds depth text = some (value, rest) → value.Distinct) ∧
    (∀ {depth text items rest}, readItems rounds depth text = some (items, rest) →
      ∀ value ∈ items, value.Distinct) ∧
    (∀ {depth text pairs rest}, readPairs rounds depth text = some (pairs, rest) →
      ∀ pair ∈ pairs, pair.2.Distinct) := by
  -- the readers call each other with one round less, so that one induction serves all three
  induction rounds with
  | zero => simp [readValue, readItems, readPairs]
  | succ rounds ih =>
    obtain ⟨hvalue, hitems, hpairs⟩ := ih
    refine ⟨?_, ?_, ?_⟩
    · intro depth text value rest h
      unfold readValue at h
      split at h
      · obtain ⟨⟨s, rest⟩, -, he⟩ := Option.map_eq_some_iff.mp h
        cases he
        exact .string s
      · obtain ⟨⟨s, rest⟩, -, he⟩ := Option.map_eq_some_iff.mp h
        cases he
        exact .string s
      · split at h
        · cases h
        · obtain ⟨⟨items, rest⟩, hi, he⟩ := Option.map_eq_some_iff.mp h
          cases he
          exact .array (hitems hi)
      · split at h
        · cases h
        · cases h
          exact .table Entries.distinct_nil
        · obtain ⟨⟨pairs, rest⟩, hp, h⟩ := Option.bind_eq_some_iff.mp h
          obtain ⟨entries, ht, h⟩ := Option.bind_eq_some_iff.mp h
          cases h
          exact .table (distinct_inlineTable (hpairs hp) ht)
      · exact distinct_readScalar h
    · intro depth text items rest h
      unfold readItems at h
      split at h
      · cases h
        simp
      · obtain ⟨⟨item, behind⟩, hi, h⟩ := Option.bind_eq_some_iff.mp h
        dsimp only at h
        split at h
        · obtain ⟨⟨more, rest⟩, hm, h⟩ := Option.bind_eq_some_iff.mp h
          cases h
          exact List.forall_mem_cons.mpr ⟨hvalue hi, hitems hm⟩
        · cases h
          exact List.forall_mem_singleton.mpr (hvalue hi)
        · cases h
    · intro depth text pairs rest h
      unfold readPairs at h
      obtain ⟨⟨key, behind⟩, -, h⟩ := Option.bind_eq_some_iff.mp h
      dsimp only at h
      split at h
      · obtain ⟨⟨value, behind⟩, hv, h⟩ := Option.bind_eq_some_iff.mp h
        dsimp only at h
        split at h
        · obtain ⟨⟨more, rest⟩, hm, h⟩ := Option.bind_eq_some_iff.mp h
          cases h
          exact List.forall_mem_cons.mpr ⟨hvalue hv, hpairs hm⟩
        · cases h
          exact List.forall_mem_singleton.mpr (hvalue hv)
        · cases h
      · cases h

def Line.Distinct : Line → Prop
  | .pair _ value => value.Distinct
  | _ => True

lemma distinct_readLine {text rest : Text} {line : Line} (h : readLine text = some (line, rest)) :
    line.Distinct := by
  unfold readLine at h
  split at h
  · obtain ⟨⟨key, behind⟩, -, h⟩ := Option.bind_eq_some_iff.mp h
    dsimp only at h
    split at h
    · obtain ⟨⟨path, last⟩, -, h⟩ := Option.bind_eq_some_iff.mp h
      cases h
      trivial
    · cases h
  · obtain ⟨⟨key, behind⟩, -, h⟩ := Option.bind_eq_some_iff.mp h
    dsimp only at h
    split at h
    · obtain ⟨⟨path, last⟩, -, h⟩ := Option.bind_eq_some_iff.mp h
      cases h
      trivial
    · cases h
  · obtain ⟨⟨key, behind⟩, -, h⟩ := Option.bind_eq_some_iff.mp h
    dsimp only at h
    split at h
    · obtain ⟨⟨value, behind⟩, hv, h⟩ := Option.bind_eq_some_iff.mp h
      cases h
      exact (distinct_read _).1 hv
    · cases h

lemma distinct_readLines {rounds : Nat} {text : Text} {lines : List Line} (h : readLines rounds text = some lines) :
    ∀ line ∈ lines, line.Distinct := by
  induction rounds generalizing text lines with
  | zero => cases h
  | succ rounds ih =>
    unfold readLines at h
    split at h
    · cases h
      simp
    · obtain ⟨⟨line, rest⟩, hl, h⟩ := Option.bind_eq_some_iff.mp h
      obtain ⟨behind, -, h⟩ := Option.bind_eq_some_iff.mp h
      obtain ⟨more, hm, h⟩ := Option.bind_eq_some_iff.mp h
      cases h
      exact List.forall_mem_cons.mpr ⟨distinct_readLine hl, ih hm⟩

lemma Building.distinct_add {b next : Building} {line : Line} (hd : b.root.Distinct) (hl : line.Distinct)
    (h : b.add line = some next) : next.root.Distinct := by
  cases line with
  | header path key =>
    obtain ⟨root, hr, h⟩ := Option.bind_eq_some_iff.mp h
    cases h
    exact hd.underHeader (fun ho hn => ho.openTable hn) hr
  | element path key =>
    obtain ⟨root, hr, h⟩ := Option.bind_eq_some_iff.mp h
    cases h
    exact hd.underHeader (fun ho hn => ho.openElement hn) hr
  | pair key value =>
    obtain ⟨root, hr, h⟩ := Option.bind_eq_some_iff.mp h
    cases h
    exact hd.underHeader (fun ho hn => ho.insert hl hn) hr

lemma Building.distinct_addAll {b built : Building} {lines : List Line} (hd : b.root.Distinct)
    (hl : ∀ line ∈ lines, line.Distinct) (h : lines.foldlM Building.add b = some built) : built.root.Distinct := by
  induction lines generalizing b with
  | nil => cases h; exact hd
  | cons line rest ih =>
    obtain ⟨next, hn, h⟩ := Option.bind_eq_some_iff.mp h
    exact ih (distinct_add hd (hl line (.head _)) hn) (fun l hm => hl l (.tail _ hm)) h

end Reading

section Settling

lemma keys_settleEntries {entries settled : Entries} (h : settleEntries? entries = some settled) :
    settled.map (·.1) = entries.map (·.1) := by
  induction entries generalizing settled with
  | nil => cases h; rfl
  | cons entry rest ih =>
    obtain ⟨key, value⟩ := entry
    rw [settleEntries?] at h
    obtain ⟨first, -, h⟩ := Option.bind_eq_some_iff.mp h
    obtain ⟨more, hm, h⟩ := Option.bind_eq_some_iff.mp h
    cases h
    simp [ih hm]

mutual

lemma Value.Distinct.settle : ∀ {value settled : Value}, value.Distinct → settle? value = some settled →
    settled.Distinct
  | .array items, settled, hd, h => by
    rw [settle?] at h
    obtain ⟨more, hm, h⟩ := Option.bind_eq_some_iff.mp h
    cases h
    cases hd with
    | array hi => exact .array (distinct_settleItems hi hm)
  | .table origin entries, settled, hd, h => by
    cases hd with
    | table he => exact he.settleTable h
  | .tables elements, settled, hd, h => by
    rw [settle?] at h
    obtain ⟨more, hm, h⟩ := Option.bind_eq_some_iff.mp h
    cases h
    cases hd with
    | tables he => exact .array (distinct_settleElements he hm)
  | .string _, _, hd, h => by cases h; exact hd
  | .boolean _, _, hd, h => by cases h; exact hd
  | .integer _, _, hd, h => by cases h; exact hd
  | .float, _, hd, h => by cases h; exact hd
  | .moment, _, hd, h => by cases h; exact hd

lemma Entries.Distinct.settleTable : ∀ {entries : Entries} {origin : Origin} {settled : Value},
    entries.Distinct → settleTable? origin entries = some settled → settled.Distinct
  | [], origin, settled, hd, h => by
    rw [settleTable?] at h
    cases h
    exact .table hd
  | (key, value) :: rest, origin, settled, hd, h => by
    unfold settleTable? at h
    split at h
    · split at h
      · split at h
        · cases h
          exact .moment
        · cases h
      · cases h
    · obtain ⟨first, hf, h⟩ := Option.bind_eq_some_iff.mp h
      obtain ⟨more, hm, h⟩ := Option.bind_eq_some_iff.mp h
      cases h
      obtain ⟨hk, hv⟩ := Entries.distinct_iff.mp hd
      have hn : (((key, first) :: more).map (·.1)).Nodup := by
        rw [List.map_cons, keys_settleEntries hm]
        exact hk
      obtain ⟨hv, hrest⟩ := List.forall_mem_cons.mp hv
      exact .table ⟨hn, List.forall_mem_cons.mpr ⟨hv.settle hf, distinct_settleEntries hrest hm⟩⟩

lemma distinct_settleEntries : ∀ {entries settled : Entries}, (∀ entry ∈ entries, entry.2.Distinct) →
    settleEntries? entries = some settled → ∀ entry ∈ settled, entry.2.Distinct
  | [], settled, hd, h => by cases h; simp
  | (key, value) :: rest, settled, hd, h => by
    rw [settleEntries?] at h
    obtain ⟨first, hf, h⟩ := Option.bind_eq_some_iff.mp h
    obtain ⟨more, hm, h⟩ := Option.bind_eq_some_iff.mp h
    cases h
    obtain ⟨hv, hrest⟩ := List.forall_mem_cons.mp hd
    exact List.forall_mem_cons.mpr ⟨hv.settle hf, distinct_settleEntries hrest hm⟩

lemma distinct_settleItems : ∀ {items settled : List Value}, (∀ value ∈ items, value.Distinct) →
    settleItems? items = some settled → ∀ value ∈ settled, value.Distinct
  | [], settled, hd, h => by cases h; simp
  | value :: rest, settled, hd, h => by
    rw [settleItems?] at h
    obtain ⟨first, hf, h⟩ := Option.bind_eq_some_iff.mp h
    obtain ⟨more, hm, h⟩ := Option.bind_eq_some_iff.mp h
    cases h
    obtain ⟨hv, hrest⟩ := List.forall_mem_cons.mp hd
    exact List.forall_mem_cons.mpr ⟨hv.settle hf, distinct_settleItems hrest hm⟩

lemma distinct_settleElements : ∀ {elements : List Entries} {settled : List Value},
    (∀ entries ∈ elements, entries.Distinct) → settleElements? elements = some settled →
    ∀ value ∈ settled, value.Distinct
  | [], settled, hd, h => by cases h; simp
  | entries :: rest, settled, hd, h => by
    rw [settleElements?] at h
    obtain ⟨first, hf, h⟩ := Option.bind_eq_some_iff.mp h
    obtain ⟨more, hm, h⟩ := Option.bind_eq_some_iff.mp h
    cases h
    obtain ⟨hv, hrest⟩ := List.forall_mem_cons.mp hd
    exact List.forall_mem_cons.mpr ⟨hv.settleTable hf, distinct_settleElements hrest hm⟩

end

end Settling

theorem distinct_parse {text : Text} {document : Entries} (h : parse? text = some document) :
    document.Distinct := by
  obtain ⟨lines, hl, h⟩ := Option.bind_eq_some_iff.mp h
  obtain ⟨built, hb, h⟩ := Option.bind_eq_some_iff.mp h
  obtain ⟨hn, hv⟩ := Entries.distinct_iff.mp
    (Building.distinct_addAll Entries.distinct_nil (distinct_readLines hl) hb)
  refine ⟨?_, distinct_settleEntries hv h⟩
  rw [keys_settleEntries h]
  exact hn

end Highlighting.Toml
