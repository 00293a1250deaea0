import Highlighting.Proofs.BlockMeaning
import Highlighting.Proofs.Lines
import Highlighting.Proofs.Reading

/-! The tokens at both ends of a closed block comment. A docstring ends with the first triple quote behind the
one that opens it, of whatever kind that is. -/

namespace Highlighting

namespace Pattern

open Cursor

section

variable {p : Pattern} {tokens : List Text} {text : Text} {m : Match}

lemma Spells.exists_token (hp : p.Spells tokens) (hm : p.IsMatch text m) : ∃ token ∈ tokens,
    text.StandsAt token m.start ∧ m.ending.stop = m.start + Text.byteLength token := by
  obtain ⟨before, rest, htext, hstart, hrun⟩ := Pattern.isMatch_iff.mp hm
  rw [hp (between before rest), Option.map_eq_some_iff] at hrun
  obtain ⟨token, htoken, hending⟩ := hrun
  obtain ⟨hmem, behind, hrest⟩ := token?_eq_some htoken
  refine ⟨token, hmem, ⟨before, behind, ?_, hstart⟩, ?_⟩
  · rw [hrest]
    exact htext
  · rw [← hending, ← hstart]
    rfl

lemma Spells.isMatch_of_standsAt (hp : p.Spells tokens) {token : Text} (ht : token ∈ tokens) {n : Nat}
    (h : text.StandsAt token n) : ∃ m, p.IsMatch text m ∧ m.start = n := by
  obtain ⟨before, behind, htext, hbefore⟩ := h
  have hsome : (token? tokens (token ++ behind)).isSome :=
    List.find?_isSome.mpr ⟨token, ht, List.isPrefixOf_iff_prefix.mpr (List.prefix_append token behind)⟩
  obtain ⟨found, hfound⟩ := Option.isSome_iff_exists.mp hsome
  refine ⟨⟨n, ⟨n + Text.byteLength found, []⟩⟩, Pattern.isMatch_iff.mpr ⟨before, _, htext, hbefore, ?_⟩, rfl⟩
  rw [hp, ← hbefore]
  exact congrArg _ hfound

end

end Pattern

namespace Delimiters

section

variable {d : Delimiters} {t : CommentTokens} {text : Text} {comments : List BlockComment} {c : BlockComment}

lemma Scan.exists_matches {offset : Nat} (h : Scan d text offset comments) (hc : c ∈ comments)
    (hclosed : c.closed = true) : ∃ m n, d.opening.IsMatch text m ∧ d.closing.FirstMatch text m.ending.stop n ∧
      c.range = ⟨m.start, n.ending.stop⟩ := by
  induction h with
  | done => cases hc
  | @closed _ m n _ hm hn _ ih =>
    rcases List.mem_cons.mp hc with rfl | hc
    · exact ⟨m, n, hm.1, hn, rfl⟩
    · exact ih hc
  | unclosed =>
    obtain rfl := List.mem_singleton.mp hc
    cases hclosed

lemma Scan.exists_tokens {offset : Nat} (h : Scan d text offset comments) (hd : d.Spell t) (hc : c ∈ comments)
    (hclosed : c.closed = true) : ∃ opening ∈ t.opening, ∃ closing ∈ t.closing, ∃ n,
      text.StandsAt opening c.range.start ∧ text.StandsAt closing n ∧
      c.range.start + Text.byteLength opening ≤ n ∧ c.range.stop = n + Text.byteLength closing ∧
      ∀ token ∈ t.closing, ∀ k, text.StandsAt token k → c.range.start + Text.byteLength opening ≤ k → n ≤ k := by
  obtain ⟨m, n, hm, ⟨hn, hle, hfirst⟩, hrange⟩ := h.exists_matches hc hclosed
  obtain ⟨opening, hopening, hstart, hbehind⟩ := hd.1.exists_token hm
  obtain ⟨closing, hclosing, hstands, hstop⟩ := hd.2.exists_token hn
  rw [hbehind] at hle hfirst
  rw [hrange]
  refine ⟨opening, hopening, closing, hclosing, n.start, hstart, hstands, hle, hstop, ?_⟩
  intro token htoken k hk hlek
  obtain ⟨other, hother, rfl⟩ := hd.2.isMatch_of_standsAt htoken hk
  exact hfirst other hother hlek

end

end Delimiters

def tripleQuotes : List Text := ["\"\"\"".toList, "\x27\x27\x27".toList]

/-- One of some tokens is at both ends of a range, and nowhere between them. -/
def EndsAsItBegins (tokens : List Text) (text : Text) (r : Range) : Prop :=
  ∃ token ∈ tokens, ∃ n, text.StandsAt token r.start ∧ text.StandsAt token n ∧
    r.start + Text.byteLength token ≤ n ∧ r.stop = n + Text.byteLength token ∧
    ∀ k, text.StandsAt token k → r.start + Text.byteLength token ≤ k → n ≤ k

lemma byteLength_tripleQuote {token : Text} (h : token ∈ tripleQuotes) : Text.byteLength token = 3 := by
  revert token
  decide

lemma endsAsItBegins_iff {text opening closing : Text} {r : Range} {n : Nat} (ho : opening ∈ tripleQuotes)
    (hc : closing ∈ tripleQuotes) (hstart : text.StandsAt opening r.start) (hstands : text.StandsAt closing n)
    (hle : r.start + 3 ≤ n) (hstop : r.stop = n + 3)
    (hfirst : ∀ token ∈ tripleQuotes, ∀ k, text.StandsAt token k → r.start + 3 ≤ k → n ≤ k) :
    EndsAsItBegins tripleQuotes text r ↔ ∀ token ∈ tripleQuotes, ∀ k, text.StandsAt token k →
      r.start + 3 ≤ k → k + 3 ≤ r.stop → token = opening := by
  have hunique {a b : Text} {k : Nat} (ha : a ∈ tripleQuotes) (hb : b ∈ tripleQuotes)
      (hka : text.StandsAt a k) (hkb : text.StandsAt b k) : a = b :=
    hka.unique hkb ((byteLength_tripleQuote ha).trans (byteLength_tripleQuote hb).symm)
  constructor
  · -- both ends of the range leave one place for the closing token, and no other token has room behind it
    rintro ⟨same, hsame, n', hbegin, hend, -, hstop', -⟩ token htoken k hk hlek hkle
    rw [byteLength_tripleQuote hsame] at hstop'
    obtain rfl : n' = n := by omega
    have hlast := hfirst token htoken k hk hlek
    obtain rfl : k = n' := by omega
    exact (hunique htoken hsame hk hend).trans (hunique hsame ho hbegin hstart)
  · intro hall
    obtain rfl : closing = opening := hall closing hc n hstands hle (Nat.le_of_eq hstop.symm)
    refine ⟨closing, hc, n, hstart, hstands, ?_⟩
    rw [byteLength_tripleQuote hc]
    exact ⟨hle, hstop, hfirst closing hc⟩

namespace Grammar

/-- A docstring that is closed begins with a triple quote and ends with the first triple quote behind it. That
is of the same kind exactly if there is none of the other kind in the docstring. -/
theorem docstring_ends_with_next_triple_quote (text : Text) :
    ∃ comments, Language.python.grammar.BlockComments text .normal comments ∧
      ∀ c ∈ comments, c.closed = true → ∃ opening ∈ tripleQuotes, ∃ closing ∈ tripleQuotes, ∃ n,
        text.StandsAt opening c.range.start ∧ text.StandsAt closing n ∧
        c.range.start + 3 ≤ n ∧ c.range.stop = n + 3 ∧
        (∀ token ∈ tripleQuotes, ∀ k, text.StandsAt token k → c.range.start + 3 ≤ k → n ≤ k) ∧
        (EndsAsItBegins tripleQuotes text c.range ↔ ∀ token ∈ tripleQuotes, ∀ k, text.StandsAt token k →
          c.range.start + 3 ≤ k → k + 3 ≤ c.range.stop → token = opening) := by
  have hblock : tripleQuoteDelimiters.BlockScan text .normal (Language.python.grammar.comments text .normal) :=
    blockComments_language .python text .normal
  refine ⟨_, hblock, fun c hc hclosed => ?_⟩
  cases hblock with
  | outside hscan =>
    obtain ⟨opening, ho, closing, hc', n, hstart, hstands, hle, hstop, hfirst⟩ :=
      hscan.exists_tokens Delimiters.tripleQuoteDelimiters_spell hc hclosed
    rw [byteLength_tripleQuote ho] at hle hfirst
    rw [byteLength_tripleQuote hc'] at hstop
    exact ⟨opening, ho, closing, hc', n, hstart, hstands, hle, hstop, hfirst,
      endsAsItBegins_iff ho hc' hstart hstands hle hstop hfirst⟩

/-- The single quotes inside the docstring close it, and the double quotes that should have closed it open the
next one. -/
theorem docstring_not_closed_by_its_opener :
    Language.python.grammar.BlockComments "\"\"\" \x27\x27\x27 \"\"\"".toList .normal
        [⟨⟨0, 7⟩, true⟩, ⟨⟨8, 11⟩, false⟩] ∧
      ¬ EndsAsItBegins tripleQuotes "\"\"\" \x27\x27\x27 \"\"\"".toList ⟨0, 7⟩ := by
  have hscan := blockComments_language .python "\"\"\" \x27\x27\x27 \"\"\"".toList .normal
  have hcomments : Language.python.grammar.comments "\"\"\" \x27\x27\x27 \"\"\"".toList .normal =
      [⟨⟨0, 7⟩, true⟩, ⟨⟨8, 11⟩, false⟩] := by decide
  have hnone : ∀ token ∈ tripleQuotes, ¬ (Text.StandsAt "\"\"\" \x27\x27\x27 \"\"\"".toList token 0 ∧
      Text.StandsAt "\"\"\" \x27\x27\x27 \"\"\"".toList token 4) := by decide
  rw [hcomments] at hscan
  refine ⟨hscan, ?_⟩
  rintro ⟨token, htoken, n, hstart, hend, -, hstop, -⟩
  have hseven : 7 = n + Text.byteLength token := hstop
  rw [byteLength_tripleQuote htoken] at hseven
  obtain rfl : n = 4 := by omega
  exact hnone token htoken ⟨hstart, hend⟩

end Grammar

end Highlighting
