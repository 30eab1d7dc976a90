import Socks5.Text.Blank
import Socks5.Text.Split
import Socks5.Text.Width

/-! Texts broken into lines of a given width. Lines end between words; a word that is too long for a
line of its own is cut into pieces, or loses its end to an ellipsis. -/
namespace Socks5.Console

/-! ## Tabs -/

def tabStop : Nat := 8

def blanks (n : Nat) : List Char := List.replicate n ' '

/-- A tab goes to the next stop, and takes one column at least. -/
def expandFrom (column : Nat) : List Char → List Char
  | [] => []
  | c :: s =>
    if c = '\t' then
      let n := tabStop - column % tabStop
      blanks n ++ expandFrom (column + n) s
    else c :: expandFrom (column + Text.charWidth c) s

/-! ## Words -/

/-- Words with the blanks behind them; the first has those before it too. `inWord` tells whether a
word has begun. -/
def wordsFrom (inWord : Bool) : List Char → List (List Char)
  | [] => []
  | [c] => [[c]]
  | c :: d :: s =>
    let inWord := inWord || !Text.isSpacing c
    match wordsFrom inWord (d :: s) with
    | w :: ws => if inWord ∧ Text.isSpacing c ∧ !Text.isSpacing d then [c] :: w :: ws else (c :: w) :: ws
    | [] => [[c]]

def words (s : List Char) : List (List Char) := wordsFrom false s

theorem flatten_wordsFrom (b : Bool) (s : List Char) : (wordsFrom b s).flatten = s := by
  fun_induction wordsFrom b s <;> simp_all

/-- No character is lost between the words. -/
theorem flatten_words (s : List Char) : (words s).flatten = s := flatten_wordsFrom false s

def stripEnd (s : List Char) : List Char := (s.reverse.dropWhile Text.isSpacing).reverse

/-! ## Lines -/

inductive Overflow where
  | fold
  | ellipsis
  deriving DecidableEq, Repr

/-- A word in pieces that each fit a line. -/
def chopFrom (width used : Nat) : List Char → List (List Char)
  | [] => [[]]
  | c :: s =>
    let w := Text.charWidth c
    let fits := used + w ≤ width
    match chopFrom width (if fits then used + w else w) s with
    | p :: ps => if fits then (c :: p) :: ps else [] :: (c :: p) :: ps
    | [] => [[c]]

theorem flatten_chopFrom (width used : Nat) (s : List Char) : (chopFrom width used s).flatten = s := by
  induction s generalizing used with
  | nil => rfl
  | cons c s ih =>
    simp only [chopFrom]
    have := ih (if used + Text.charWidth c ≤ width then used + Text.charWidth c else Text.charWidth c)
    split
    · next h => rw [h] at this; split <;> simp_all
    · next h => rw [h] at this; simp_all

/-- The lines that are finished, and the one that is being filled with the columns that it takes. -/
structure Wrapping where
  finished : List (List Char) := []
  line : List Char := []
  used : Nat := 0

namespace Wrapping

/-- Ends the line, unless nothing stands before the end at all. -/
def newLine (w : Wrapping) : Wrapping :=
  if w.finished = [] ∧ w.line = [] then w else ⟨w.finished ++ [w.line], [], 0⟩

def append (s : List Char) (w : Wrapping) : Wrapping :=
  { w with line := w.line ++ s, used := w.used + Text.width s }

/-- Puts a word on the line if it fits there without the blanks behind it. -/
def add (overflow : Overflow) (width : Nat) (w : Wrapping) (word : List Char) : Wrapping :=
  let length := Text.width (stripEnd word)
  if w.used + length ≤ width then w.append word
  else if length ≤ width ∨ overflow = .ellipsis then w.newLine.append word
  else (chopFrom width 0 word).foldl (fun w piece => w.newLine.append piece) w

def lines (w : Wrapping) : List (List Char) := w.finished ++ [w.line]

def contents (w : Wrapping) : List Char := w.lines.flatten

theorem contents_newLine (w : Wrapping) : w.newLine.contents = w.contents := by
  unfold Wrapping.newLine; split <;> simp [contents, lines]

theorem contents_append (s : List Char) (w : Wrapping) : (w.append s).contents = w.contents ++ s := by
  simp [append, contents, lines]

theorem contents_pieces (ps : List (List Char)) (w : Wrapping) :
    (ps.foldl (fun w piece => w.newLine.append piece) w).contents = w.contents ++ ps.flatten := by
  induction ps generalizing w with
  | nil => simp
  | cons p ps ih => simp [ih, contents_append, contents_newLine]

theorem contents_add (overflow : Overflow) (width : Nat) (w : Wrapping) (word : List Char) :
    (w.add overflow width word).contents = w.contents ++ word := by
  simp only [add]
  repeat' split
  · exact contents_append ..
  · simp [contents_append, contents_newLine]
  · simp [contents_pieces, flatten_chopFrom]

end Wrapping

/-- One line of text broken into as many as it takes. -/
def breakLine (overflow : Overflow) (width : Nat) (s : List Char) : List (List Char) :=
  ((words s).foldl (Wrapping.add overflow width) {}).lines

/-- Breaking a line takes nothing from it and adds nothing to it. -/
theorem flatten_breakLine (overflow : Overflow) (width : Nat) (s : List Char) :
    (breakLine overflow width s).flatten = s := by
  have (ws : List (List Char)) (w : Wrapping) :
      (ws.foldl (Wrapping.add overflow width) w).contents = w.contents ++ ws.flatten := by
    induction ws generalizing w with
    | nil => simp
    | cons word ws ih => simp [ih, Wrapping.contents_add]
  have := this (words s) {}
  rw [flatten_words] at this
  simpa [breakLine, Wrapping.contents, Wrapping.lines] using this

/-! ## Fitting a line -/

/-- Of the blanks at the end those fall away that are too many. -/
def trimExcess (width : Nat) (s : List Char) : List Char :=
  let spare := s.length - (stripEnd s).length
  s.take (s.length - min spare (s.length - width))

/-- As many characters as fit. -/
def takeFitting (width : Nat) : List Char → List Char
  | [] => []
  | c :: s =>
    let w := Text.charWidth c
    if w ≤ width then c :: takeFitting (width - w) s else []

theorem width_takeFitting_le (width : Nat) (s : List Char) :
    Text.width (takeFitting width s) ≤ width := by
  induction s generalizing width with
  | nil => simp [takeFitting]
  | cons c s ih =>
    simp only [takeFitting]
    split
    · have := ih (width - Text.charWidth c)
      simp; omega
    · simp

def pad (width : Nat) (s : List Char) : List Char := s ++ blanks (width - Text.width s)

def cropped (width : Nat) (s : List Char) : List Char := pad width (takeFitting width s)

def truncate (overflow : Overflow) (width : Nat) (s : List Char) : List Char :=
  if Text.width s ≤ width then s
  else match overflow with
    | .fold => cropped width s
    | .ellipsis => cropped (width - 1) s ++ ['…']

/-- The lines of a text, none wider than the width. -/
def wrap (overflow : Overflow) (width : Nat) (s : List Char) : List (List Char) :=
  (Text.split '\n' s).flatMap fun line =>
    (breakLine overflow width (expandFrom 0 line)).map fun l => truncate overflow width (trimExcess width l)

def centre (width : Nat) (s : List Char) : List Char :=
  let s := stripEnd s
  pad width (blanks ((width - Text.width s) / 2) ++ s)

end Socks5.Console
