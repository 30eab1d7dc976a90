/-! How alike two words are, and which of some words come close to one that was mistyped. -/
namespace Socks5.CommandLine

def commonStart : List Char → List Char → Nat
  | a :: as, b :: bs => if a = b then commonStart as bs + 1 else 0
  | _, _ => 0

/-- A stretch that two words share: where it begins in either, and its length. -/
structure Shared where
  left : Nat := 0
  right : Nat := 0
  length : Nat := 0
  deriving DecidableEq, Repr

/-- The longest shared stretch; of several the first. -/
def longestShared (a b : List Char) : Shared :=
  (List.range a.length).foldl (fun best i => (List.range b.length).foldl (fun best j =>
    let n := commonStart (a.drop i) (b.drop j)
    if best.length < n then ⟨i, j, n⟩ else best) best) {}

/-- The characters in the longest shared stretch, and in those before and behind it. -/
def sharedFrom : Nat → List Char → List Char → Nat
  | 0, _, _ => 0
  | fuel + 1, a, b =>
    let s := longestShared a b
    if s.length = 0 then 0
    else sharedFrom fuel (a.take s.left) (b.take s.right) + s.length +
      sharedFrom fuel (a.drop (s.left + s.length)) (b.drop (s.right + s.length))

def shared (a b : String) : Nat := sharedFrom a.length a.toList b.toList

/-- Two words, each with the characters that it shares with a third, and the length of both. -/
structure Likeness where
  word : String
  shared : Nat
  total : Nat

/-- Three fifths of both words are shared. -/
def Likeness.isClose (l : Likeness) : Bool := 3 * l.total ≤ 10 * l.shared

/-- The closer word comes first, and of words as close the last in order. -/
def Likeness.before (l m : Likeness) : Bool :=
  l.shared * m.total > m.shared * l.total ||
    (l.shared * m.total = m.shared * l.total && decide (m.word ≤ l.word))

/-- Up to three of the words that come close. -/
def similar (word : String) (words : List String) : List String :=
  let likes := words.map fun w => (⟨w, shared w word, w.length + word.length⟩ : Likeness)
  (((likes.filter Likeness.isClose).mergeSort Likeness.before).take 3).map (·.word)

end Socks5.CommandLine
