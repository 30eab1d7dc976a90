import Socks5.Bytes

/-! A place in a document, with the line and the column that it is on. -/
namespace Socks5.Yaml

def isBreak (c : Char) : Bool := [0x0A, 0x0D, 0x85, 0x2028, 0x2029].contains c.toNat

/-- A line ends with a break or with the text. -/
def endsLine (c : Option Char) : Bool := c.all isBreak

/-- The end, a break or a space. -/
def isGap (c : Option Char) : Bool := c.all fun c => c = ' ' || isBreak c

/-- A gap or a tab. -/
def isWideGap (c : Option Char) : Bool := c.all fun c => c = ' ' || c = '\t' || isBreak c

def isWord (c : Char) : Bool := c.isAlphanum || c = '-' || c = '_'

structure Cursor where
  rest : List Char
  index : Nat := 0
  line : Nat := 0
  column : Nat := 0
  deriving Repr

namespace Cursor

def peek (c : Cursor) : Option Char := c.rest.head?

def peekAt (n : Nat) (c : Cursor) : Option Char := c.rest[n]?

/-- One character on. Of a carriage return and a line feed the latter ends the line; a byte order
mark takes no column. -/
def next (c : Cursor) : Cursor :=
  match c.rest with
  | [] => c
  | x :: r =>
    if x = '\r' ∧ r.head? = some '\n' then ⟨r, c.index + 1, c.line, c.column + 1⟩
    else if isBreak x then ⟨r, c.index + 1, c.line + 1, 0⟩
    else ⟨r, c.index + 1, c.line, if x.toNat = 0xFEFF then c.column else c.column + 1⟩

def skip : Nat → Cursor → Cursor
  | 0, c => c
  | n + 1, c => skip n c.next

/-- The characters up to the first that fails the test. -/
def span (p : Char → Bool) (c : Cursor) : List Char × Cursor :=
  let s := c.rest.takeWhile p
  (s, c.skip s.length)

def skipWhile (p : Char → Bool) (c : Cursor) : Cursor := (c.span p).2

def skipSpaces : Cursor → Cursor := skipWhile (· = ' ')

/-- A line break, if one is here, as the characters that it stands for. -/
def lineBreak (c : Cursor) : List Char × Cursor :=
  match c.rest with
  | '\r' :: '\n' :: _ => (['\n'], c.skip 2)
  | x :: _ =>
    if isBreak x then ([if x.toNat < 0x2028 then '\n' else x], c.next) else ([], c)
  | [] => ([], c)

/-- At the start of a line, a mark that begins or ends a document. -/
def atMark (mark : List Char) (c : Cursor) : Bool :=
  mark.isPrefixOf c.rest && isWideGap (c.peekAt 3)

def atDocumentMark (c : Cursor) : Bool := c.atMark ['-', '-', '-'] || c.atMark ['.', '.', '.']

/-- What stands between the last token of a line and its break: spaces, and perhaps a comment. -/
def endOfLine? (c : Cursor) : Option Cursor :=
  let c := c.skipSpaces
  let c := if c.peek = some '#' then c.skipWhile (!isBreak ·) else c
  if endsLine c.peek then some c.lineBreak.2 else none

end Cursor
end Socks5.Yaml
