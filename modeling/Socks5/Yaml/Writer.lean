import Socks5.Number.Layout
import Socks5.Text.Quoted
import Socks5.Yaml.Tag

/-! Values written as documents in block style, in ASCII, with long texts folded. -/
namespace Socks5.Yaml.Writer

/-- Texts are folded where a line would get longer. -/
def width : Nat := 80

def lineAt (indent : Nat) : List Char := '\n' :: List.replicate indent ' '

/-! ## What a text looks like -/

def isVisible (c : Char) : Bool := ' ' ≤ c && c ≤ '~'

def isBlankMark (c : Char) : Bool := [0, 9, 0x0A, 0x0D, 0x20, 0x85, 0x2028, 0x2029].contains c.toNat

/-- The characters that a plain scalar cannot begin with. -/
def firstMarks : List Char :=
  ['#', ',', '[', ']', Char.ofNat 0x7B, Char.ofNat 0x7D, '&', '*', '!', '|', '>', '\'', '"', '%', '@', Char.ofNat 0x60]

/-- Whether a sign of the language shows up behind the first character. -/
def hasMark (blankBefore : Bool) : List Char → Bool
  | [] => false
  | c :: r =>
    (c = ':' && r.head?.all isBlankMark) || (c = '#' && blankBefore) || hasMark (isBlankMark c) r

def looksMarked (s : List Char) : Bool :=
  match s with
  | [] => false
  | c :: r =>
    ['-', '-', '-'].isPrefixOf s || ['.', '.', '.'].isPrefixOf s || firstMarks.contains c
      || ((c = '?' || c = ':' || c = '-') && r.head?.all isBlankMark) || hasMark (isBlankMark c) r

/-- Whether a space stands right behind a line break, or a line break right behind a space. -/
def hasPair (first second : Char) : List Char → Bool
  | a :: b :: r => (a = first && b = second) || hasPair first second (b :: r)
  | _ => false

def isBlankOrBreak (c : Char) : Bool := c = ' ' || c = '\n'

inductive Style where
  | plain
  | single
  | double
  deriving DecidableEq, Repr

def needsEscape (s : List Char) : Bool := s.any fun c => c ≠ '\n' && !isVisible c

def allowsPlain (s : List Char) : Bool :=
  s ≠ [] && !needsEscape s && !s.contains '\n' && s.head? ≠ some ' ' && s.getLast? ≠ some ' '
    && !looksMarked s

def allowsSingle (s : List Char) : Bool :=
  !needsEscape s && !hasPair '\n' ' ' s && !hasPair ' ' '\n' s

/-- Plain if it reads back as a text, else between the simplest quotes that hold it. A key stays on
one line. -/
def styleOf (isKey : Bool) (s : List Char) : Style :=
  if allowsPlain s ∧ Kind.ofPlain s = .text then .plain
  else if allowsSingle s ∧ !(isKey ∧ s.contains '\n') then .single
  else .double

/-! ## Texts

Each is written from a column on; a line that is broken goes on at the indentation. -/

/-- A lone space where the line has got too long is left out for a line break. -/
def plain (split : Bool) (indent : Nat) (afterSpace : Bool) (column : Nat) : List Char → List Char
  | [] => []
  | ' ' :: c :: r =>
    if c ≠ ' ' ∧ !afterSpace ∧ split ∧ width < column then
      lineAt indent ++ plain split indent false indent (c :: r)
    else ' ' :: plain split indent true (column + 1) (c :: r)
  | c :: r => c :: plain split indent false (column + 1) r

/-- The same between single quotes, where a quote is written twice and line breaks are written as
empty lines. -/
def single (split : Bool) (indent : Nat) (atBreak afterSpace : Bool) (column : Nat) :
    List Char → List Char
  | [] => ['\'']
  | '\n' :: r =>
    let out := if atBreak then ['\n'] else ['\n', '\n']
    let out := if r.head? = some '\n' then out else out ++ List.replicate indent ' '
    out ++ single split indent true false indent r
  | ' ' :: c :: r =>
    if c ≠ ' ' ∧ !afterSpace ∧ split ∧ width < column then
      lineAt indent ++ single split indent false false indent (c :: r)
    else ' ' :: single split indent false true (column + 1) (c :: r)
  | '\'' :: r => '\'' :: '\'' :: single split indent false false (column + 2) r
  | c :: r => c :: single split indent false false (column + 1) r

def shortEscapes : List (Nat × Char) :=
  [(0, '0'), (7, 'a'), (8, 'b'), (9, 't'), (0x0A, 'n'), (0x0B, 'v'), (0x0C, 'f'), (0x0D, 'r'),
   (0x1B, 'e'), (0x22, '"'), (0x5C, '\\'), (0x85, 'N'), (0xA0, '_'), (0x2028, 'L'), (0x2029, 'P')]

def escape (c : Char) : List Char :=
  match shortEscapes.lookup c.toNat with
  | some e => ['\\', e]
  | none => (Text.escapeCode c.toNat).map fun d => if 'a' ≤ d ∧ d ≤ 'f' then d.toUpper else d

/-- Between double quotes. A line is broken behind a backslash, and a space that begins the next line
is marked by another. -/
def double (split : Bool) (indent : Nat) (isFirst afterEscape : Bool) (column : Nat) :
    List Char → List Char
  | [] => ['"']
  | c :: r =>
    let escaped := !isVisible c || c = '"' || c = '\\'
    let inside := split && !isFirst && r ≠ []
    let spaceMark (next : Option Char) : List Char := if next = some ' ' then ['\\'] else []
    if escaped then
      let out := escape c
      let column := column + out.length
      if inside ∧ width + 1 < column then
        let mark := spaceMark r.head?
        out ++ '\\' :: lineAt indent ++ mark ++ double split indent false true (indent + mark.length) r
      else out ++ double split indent false true column r
    else if inside ∧ (c = ' ' ∨ afterEscape) ∧ width < column then
      let mark := spaceMark (some c)
      '\\' :: lineAt indent ++ mark ++ c :: double split indent false false (indent + mark.length + 1) r
    else c :: double split indent false false (column + 1) r

def text (isKey : Bool) (indent column : Nat) (s : String) : List Char :=
  let s := s.toList
  match styleOf isKey s with
  | .plain => plain (!isKey) indent false column s
  | .single => '\'' :: single (!isKey) indent false true (column + 1) s
  | .double => '"' :: double (!isKey) indent true false (column + 1) s

/-! ## Values -/

/-- Doubles have a point in the mantissa, and the special values a point in front. -/
def floatLayout : Number.Layout :=
  { Number.Layout.standard with infinity := ".inf", notANumber := ".nan", padMantissa := true }

def scalar (isKey : Bool) (indent column : Nat) : Value → List Char
  | .null => "null".toList
  | .bool b => (if b then "true" else "false").toList
  | .int n => (toString n).toList
  | .float x => (floatLayout.write x).toList
  | .text s => text isKey indent column s
  | v => text isKey indent column v.shown

mutual

/-- A value behind a key or a dash that ends at a column. A list below a key stands at the
indentation of the key. -/
def value (indent column : Nat) (belowKey : Bool) : Value → List Char
  | .list [] => " []".toList
  | .map [] => " \x7b\x7d".toList
  | .list xs =>
    if belowKey then lines '\n' indent (items indent xs)
    else ' ' :: joined (indent + 2) (items (indent + 2) xs)
  | .map es =>
    if belowKey then lines '\n' (indent + 2) (entries (indent + 2) es)
    else ' ' :: joined (indent + 2) (entries (indent + 2) es)
  | v => ' ' :: scalar false (indent + 2) (column + 1) v

def items (indent : Nat) : List Value → List (List Char)
  | [] => []
  | v :: vs => ('-' :: value indent (indent + 1) false v) :: items indent vs

def entries (indent : Nat) : List (Value × Value) → List (List Char)
  | [] => []
  | (k, v) :: es =>
    let key := scalar true indent indent k ++ [':']
    (key ++ value indent (indent + key.length) true v) :: entries indent es

/-- Lines at an indentation, each begun anew. -/
def lines (brk : Char) (indent : Nat) : List (List Char) → List Char
  | [] => []
  | l :: ls => brk :: List.replicate indent ' ' ++ l ++ lines brk indent ls

/-- Lines of which the first stands where the writer is. -/
def joined (indent : Nat) : List (List Char) → List Char
  | [] => []
  | l :: ls => l ++ lines '\n' indent ls

end

/-- The document of a mapping. -/
def write (es : List (Value × Value)) : String :=
  String.ofList (joined 0 (entries 0 es) ++ ['\n'])

end Socks5.Yaml.Writer
