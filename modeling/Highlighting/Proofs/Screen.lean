import Highlighting.Display.Terminal
import Mathlib.Logic.Function.Basic

/-! A screen that reads what is written to a terminal, one character after another. Escape sequences change
its pen, and all other characters are printed with the pen of the moment. -/

namespace Highlighting

inductive Foreground where
  | default
  | palette (index : Nat)
  | mixture (red green blue : Nat)
  deriving DecidableEq, Repr

structure Pen where
  foreground : Foreground := .default
  bold : Bool := false
  italic : Bool := false
  deriving DecidableEq, Repr

namespace Foreground

def ansi : List Color :=
  [.black, .red, .green, .yellow, .blue, .magenta, .cyan, .white, .brightBlack, .brightRed, .brightGreen,
    .brightYellow, .brightBlue, .brightMagenta, .brightCyan, .brightWhite]

def ofColor : Color → Foreground
  | .default => .default
  | .rgb r g b => .mixture r.toNat g.toNat b.toNat
  | color => .palette (ansi.idxOf color)

def toColor? : Foreground → Option Color
  | .default => some .default
  | .palette index => ansi[index]?
  | .mixture r g b => some (.rgb (.ofNat r) (.ofNat g) (.ofNat b))

lemma toColor?_ofColor (color : Color) : (ofColor color).toColor? = some color := by
  cases color with
  | rgb r g b => simp [ofColor, toColor?]
  | _ => rfl

lemma ofColor_injective : Function.Injective ofColor := by
  intro a b h
  apply Option.some.inj
  rw [← toColor?_ofColor a, h, toColor?_ofColor]

end Foreground

namespace Pen

def plain : Pen := {}

def ofStyle (style : Style) : Pen := ⟨.ofColor style.fg, style.bold, style.italic⟩

def set : Pen → List Nat → Pen
  | pen, [] => pen
  | _, 0 :: rest => set plain rest
  | pen, 1 :: rest => set { pen with bold := true } rest
  | pen, 3 :: rest => set { pen with italic := true } rest
  | pen, 38 :: 5 :: index :: rest => set { pen with foreground := .palette index } rest
  | pen, 38 :: 2 :: r :: g :: b :: rest => set { pen with foreground := .mixture r g b } rest
  | pen, 39 :: rest => set { pen with foreground := .default } rest
  | pen, _ :: rest => set pen rest

end Pen

/-- Whether a screen is between sequences, behind an ESC, or in a sequence with some parameters behind it
and another one begun. -/
inductive ScreenMode where
  | text
  | escape
  | sequence (parameters : List Nat) (begun : Nat)
  deriving DecidableEq, Repr

structure Screen where
  cells : List (Char × Pen) := []
  pen : Pen := .plain
  mode : ScreenMode := .text
  deriving DecidableEq, Repr

namespace Screen

def feed (s : Screen) (c : Char) : Screen :=
  match s.mode with
  | .text =>
    if c = '\x1b' then { s with mode := .escape } else { s with cells := s.cells ++ [(c, s.pen)] }
  | .escape => { s with mode := if c = '[' then .sequence [] 0 else .text }
  | .sequence parameters begun =>
    if c.isDigit then { s with mode := .sequence parameters (10 * begun + (c.toNat - '0'.toNat)) }
    else if c = ';' then { s with mode := .sequence (parameters ++ [begun]) 0 }
    else if c = 'm' then { s with pen := s.pen.set (parameters ++ [begun]), mode := .text }
    else { s with mode := .text }

def read (s : Screen) (text : Text) : Screen := text.foldl feed s

@[simp] lemma read_nil (s : Screen) : s.read [] = s := rfl

@[simp] lemma read_cons (s : Screen) (c : Char) (text : Text) :
    s.read (c :: text) = (s.feed c).read text := rfl

@[simp] lemma read_append (s : Screen) (a b : Text) : s.read (a ++ b) = (s.read a).read b :=
  List.foldl_append

lemma read_digits {cells : List (Char × Pen)} {pen : Pen} {parameters : List Nat} {digits : Text}
    (h : ∀ c ∈ digits, c.isDigit) (begun : Nat) :
    read ⟨cells, pen, .sequence parameters begun⟩ digits =
      ⟨cells, pen, .sequence parameters (Nat.ofDigitChars 10 digits begun)⟩ := by
  induction digits generalizing begun with
  | nil => rfl
  | cons c digits ih =>
    have hc : c.isDigit = true := h c List.mem_cons_self
    simp only [read_cons, feed, hc, if_true, Nat.ofDigitChars_cons]
    exact ih (fun d hd => h d (List.mem_cons_of_mem c hd)) _

lemma isDigit_decimal (n : Nat) : ∀ c ∈ decimal n, c.isDigit :=
  fun _ hc => Nat.isDigit_of_mem_toDigits (by decide) (by decide) hc

@[simp] lemma read_decimal (cells : List (Char × Pen)) (pen : Pen) (parameters : List Nat) (n : Nat) :
    read ⟨cells, pen, .sequence parameters 0⟩ (decimal n) = ⟨cells, pen, .sequence parameters n⟩ := by
  rw [read_digits (isDigit_decimal n), decimal, Nat.ofDigitChars_toDigits (by decide) (by decide)]

@[simp] lemma read_separator (cells : List (Char × Pen)) (pen : Pen) (parameters : List Nat) (n : Nat)
    (rest : Text) : read ⟨cells, pen, .sequence parameters n⟩ (';' :: rest) =
      read ⟨cells, pen, .sequence (parameters ++ [n]) 0⟩ rest := rfl

lemma read_attributes {cells : List (Char × Pen)} {pen : Pen} {parameters : List Nat} {n : Nat} {body : Text}
    (h : read ⟨cells, pen, .sequence [] 0⟩ body = ⟨cells, pen, .sequence parameters n⟩) :
    read ⟨cells, pen, .text⟩ (Terminal.attributes body) = ⟨cells, pen.set (parameters ++ [n]), .text⟩ := by
  have hopened : read ⟨cells, pen, .text⟩ (Terminal.attributes body) =
      (read ⟨cells, pen, .sequence [] 0⟩ body).read ['m'] := read_append _ body ['m']
  rw [hopened, h]
  rfl

lemma read_foreground (cells : List (Char × Pen)) (pen : Pen) (color : Color) :
    read ⟨cells, pen, .text⟩ (Terminal.attributes (Terminal.foreground color)) =
      ⟨cells, { pen with foreground := .ofColor color }, .text⟩ := by
  cases color with
  | rgb r g b =>
    have hmixture : read ⟨cells, pen, .sequence [] 0⟩ (Terminal.foreground (.rgb r g b)) =
        ⟨cells, pen, .sequence [38, 2, r.toNat, g.toNat] b.toNat⟩ := by
      have hkind (rest : Text) : read ⟨cells, pen, .sequence [] 0⟩ ('3' :: '8' :: ';' :: '2' :: ';' :: rest) =
          read ⟨cells, pen, .sequence [38, 2] 0⟩ rest := rfl
      simp only [Terminal.foreground, List.cons_append, List.nil_append, hkind, read_append, read_decimal,
        read_separator]
    rw [read_attributes hmixture]
    rfl
  | _ => rfl

def showing (cells : List (Char × Pen)) : Screen := ⟨cells, .plain, .text⟩

lemma read_opening (cells : List (Char × Pen)) (style : Style) :
    (showing cells).read (Terminal.opening style) = ⟨cells, .ofStyle style, .text⟩ := by
  obtain ⟨fg, bold, italic⟩ := style
  rw [Terminal.opening, read_append, read_append, showing, read_foreground]
  cases bold <;> cases italic <;> rfl

lemma read_printed {text : Text} (h : '\x1b' ∉ text) (cells : List (Char × Pen)) (pen : Pen) :
    read ⟨cells, pen, .text⟩ text = ⟨cells ++ text.map fun c => (c, pen), pen, .text⟩ := by
  induction text generalizing cells with
  | nil => simp
  | cons c text ih =>
    rw [List.mem_cons, not_or] at h
    obtain ⟨hc, htext⟩ := h
    simp only [read_cons, feed, if_neg (Ne.symm hc), ih htext, List.map_cons, List.append_assoc,
      List.singleton_append]

end Screen

end Highlighting
