import Highlighting.Proofs.Spelling

/-! A scanner that reads a text once, from left to right, and is at each character inside or outside a
comment. Over a stretch of text it claims all bytes or none. -/

namespace Highlighting

def BlockState.other : BlockState → BlockState
  | .normal => .inComment
  | .inComment => .normal

def CommentTokens.leaving (t : CommentTokens) : BlockState → List Text
  | .normal => t.opening
  | .inComment => t.closing

/-- The place between two characters: inside or outside a comment, and behind how much of a token that
was found. -/
structure Scanner where
  mode : BlockState
  skip : Nat
  deriving DecidableEq, Repr

lemma CommentTokens.InLine.leaving {t : CommentTokens} (ht : t.InLine) (mode : BlockState) :
    ∀ token ∈ t.leaving mode, token ≠ [] ∧ '\n' ∉ token := by
  cases mode with
  | normal => exact fun token hmem => ht token (List.mem_append_left _ hmem)
  | inComment => exact fun token hmem => ht token (List.mem_append_right _ hmem)

namespace Scanner

open Pattern

def outside : Scanner := ⟨.normal, 0⟩

/-- One character further, with the text from this character on in sight. A token that stands here is
skipped in the mode that it leads to. -/
def advance (t : CommentTokens) : Scanner → Text → Scanner
  | ⟨mode, skip + 1⟩, _ => ⟨mode, skip⟩
  | ⟨mode, 0⟩, text =>
    match token? (t.leaving mode) text with
    | some token => ⟨mode.other, token.length - 1⟩
    | none => ⟨mode, 0⟩

def read (t : CommentTokens) : Scanner → (own ahead : Text) → Scanner
  | s, [], _ => s
  | s, c :: own, ahead => read t (s.advance t (c :: (own ++ ahead))) own ahead

/-- The bytes of some characters, with more text ahead of them, that belong to comments. A character does
not if the scanner is outside on both its sides. -/
def claims (t : CommentTokens) : Scanner → (own ahead : Text) → List Bool
  | _, [], _ => []
  | s, c :: own, ahead =>
    let next := s.advance t (c :: (own ++ ahead))
    List.replicate c.utf8Size (s != outside || next != outside) ++ claims t next own ahead

section

variable {t : CommentTokens} {s next last : Scanner} {own rest ahead : Text} {claimed : Bool}

lemma read_append (s : Scanner) (own rest ahead : Text) :
    read t s (own ++ rest) ahead = read t (read t s own (rest ++ ahead)) rest ahead := by
  induction own generalizing s with
  | nil => rfl
  | cons c own ih => simp only [List.cons_append, read, ih, List.append_assoc]

lemma claims_append (s : Scanner) (own rest ahead : Text) : claims t s (own ++ rest) ahead =
    claims t s own (rest ++ ahead) ++ claims t (read t s own (rest ++ ahead)) rest ahead := by
  induction own generalizing s with
  | nil => rfl
  | cons c own ih => simp only [List.cons_append, claims, read, ih, List.append_assoc]

@[simp] lemma length_claims (s : Scanner) (own ahead : Text) :
    (claims t s own ahead).length = Text.byteLength own := by
  induction own generalizing s with
  | nil => rfl
  | cons c own ih => rw [claims, List.length_append, List.length_replicate, ih, Text.byteLength_cons]

def Passes (t : CommentTokens) (s : Scanner) (own ahead : Text) (claimed : Bool) (next : Scanner) : Prop :=
  read t s own ahead = next ∧ claims t s own ahead = List.replicate (Text.byteLength own) claimed

lemma Passes.nil (s : Scanner) (ahead : Text) (claimed : Bool) : Passes t s [] ahead claimed s := ⟨rfl, rfl⟩

lemma Passes.cons {c : Char} (hc : (s != outside || s.advance t (c :: (own ++ ahead)) != outside) = claimed)
    (h : Passes t (s.advance t (c :: (own ++ ahead))) own ahead claimed next) :
    Passes t s (c :: own) ahead claimed next := by
  refine ⟨h.1, ?_⟩
  rw [claims, h.2, hc, Text.byteLength_cons, List.replicate_append_replicate]

lemma Passes.append (h : Passes t s own (rest ++ ahead) claimed next)
    (h' : Passes t next rest ahead claimed last) : Passes t s (own ++ rest) ahead claimed last := by
  refine ⟨?_, ?_⟩
  · rw [read_append, h.1, h'.1]
  · rw [claims_append, h.1, h.2, h'.2, Text.byteLength_append, List.replicate_append_replicate]

lemma Passes.claims_iff (h : Passes t s own (rest ++ ahead) claimed next) {i : Nat} :
    (claims t s (own ++ rest) ahead)[i]? = some true ↔
      (i < Text.byteLength own ∧ claimed = true) ∨
        (Text.byteLength own ≤ i ∧ (claims t next rest ahead)[i - Text.byteLength own]? = some true) := by
  rw [claims_append, h.1, h.2, List.getElem?_append, List.length_replicate]
  by_cases hi : i < Text.byteLength own
  · rw [if_pos hi, List.getElem?_replicate, if_pos hi, Option.some.injEq]
    simp [hi, Nat.not_le.mpr hi]
  · rw [if_neg hi]
    simp [hi, Nat.not_lt.mp hi]

lemma passes_skip (mode : BlockState) (own ahead : Text) :
    Passes t ⟨mode, own.length⟩ own ahead true ⟨mode, 0⟩ := by
  induction own with
  | nil => exact Passes.nil _ _ _
  | cons c own ih => exact Passes.cons (by simp [outside]) ih

lemma advance_of_token {mode : BlockState} {text token : Text}
    (h : token? (t.leaving mode) text = some token) :
    advance t ⟨mode, 0⟩ text = ⟨mode.other, token.length - 1⟩ := by simp only [advance, h]

lemma advance_of_no_token {mode : BlockState} {text : Text} (h : token? (t.leaving mode) text = none) :
    advance t ⟨mode, 0⟩ text = ⟨mode, 0⟩ := by simp only [advance, h]

lemma passes_token {mode : BlockState} {token : Text} (hne : token ≠ [])
    (h : token? (t.leaving mode) (token ++ ahead) = some token) :
    Passes t ⟨mode, 0⟩ token ahead true ⟨mode.other, 0⟩ := by
  cases token with
  | nil => exact (hne rfl).elim
  | cons c own =>
    have hadvance : advance t ⟨mode, 0⟩ (c :: (own ++ ahead)) = ⟨mode.other, own.length⟩ :=
      advance_of_token h
    refine Passes.cons ?_ ?_
    · rw [hadvance]
      cases mode <;> simp [outside, BlockState.other]
    · rw [hadvance]
      exact passes_skip mode.other own ahead

lemma passes_quiet {mode : BlockState} (h : Quiet (t.leaving mode) own ahead) :
    Passes t ⟨mode, 0⟩ own ahead (mode == .inComment) ⟨mode, 0⟩ := by
  induction own with
  | nil => exact Passes.nil _ _ _
  | cons c own ih =>
    have hadvance : advance t ⟨mode, 0⟩ (c :: (own ++ ahead)) = ⟨mode, 0⟩ :=
      advance_of_no_token (h [] (c :: own) rfl (List.cons_ne_nil c own))
    refine Passes.cons ?_ ?_
    · rw [hadvance]
      cases mode <;> simp [outside]
    · rw [hadvance]
      exact ih h.tail

end

end Scanner

end Highlighting
