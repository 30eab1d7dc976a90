import Socks5.Text.Blank
import Socks5.Text.Digit

/-! Integer literals: a sign, a base prefix, digits in groups parted by single underscores, with
blanks around the whole. Digits and blanks of other scripts count as those of ASCII. -/
namespace Socks5.Number
open Text

/-- The longest decimal numeral that is read. -/
def maxDigits : Nat := 4300

/-- The ASCII character that a digit or a blank stands for. -/
def plain (c : Char) : Char :=
  if c.toNat < 128 then c
  else if isBlank c then ' '
  else match digitValue? c with
    | some d => Char.ofNat (48 + d)
    | none => '?'

def digitIn? (base : Nat) (c : Char) : Option Nat :=
  let n := if '0' ≤ c ∧ c ≤ '9' then c.toNat - 48
    else if 'a' ≤ c ∧ c ≤ 'z' then c.toNat - 87
    else if 'A' ≤ c ∧ c ≤ 'Z' then c.toNat - 55
    else base
  if n < base then some n else none

/-- The digits of a numeral that may have a single underscore between two digits. -/
def grouped? (base : Nat) : List Char → Option (List Nat)
  | [] => none
  | [c] => (digitIn? base c).map ([·])
  | c :: d :: rest => do
    let n ← digitIn? base c
    let ns ← if d = '_' then grouped? base rest else grouped? base (d :: rest)
    return n :: ns

def ofDigits (base : Nat) (ds : List Nat) : Nat := ds.foldl (fun n d => base * n + d) 0

/-- A numeral behind a base prefix, which may end in an underscore of its own. -/
def prefixed? (base : Nat) : List Char → Option Nat
  | '_' :: r => (grouped? base r).map (ofDigits base)
  | r => (grouped? base r).map (ofDigits base)

/-- A decimal numeral; only zero may begin with the digit zero unless `zeros` allows it. -/
def decimal? (zeros : Bool) (r : List Char) : Option Nat := do
  let ds ← grouped? 10 r
  let n := ofDigits 10 ds
  if ds.length ≤ maxDigits ∧ (zeros ∨ n = 0 ∨ ds.head? ≠ some 0) then some n else none

def unsigned? : List Char → Option Nat
  | '0' :: c :: r =>
    if c = 'x' ∨ c = 'X' then prefixed? 16 r
    else if c = 'o' ∨ c = 'O' then prefixed? 8 r
    else if c = 'b' ∨ c = 'B' then prefixed? 2 r
    else decimal? false ('0' :: c :: r)
  | r => decimal? false r

def signed? (read : List Char → Option Nat) : List Char → Option Int
  | '+' :: r => (read r).map Int.ofNat
  | '-' :: r => (read r).map fun n => -Int.ofNat n
  | r => (read r).map Int.ofNat

/-- A numeral of a base, which may have the prefix of that base. -/
def unsignedIn? (base : Nat) (r : List Char) : Option Nat :=
  let marks := if base = 16 then ['x', 'X'] else if base = 8 then ['o', 'O'] else ['b', 'B']
  if base = 10 then decimal? true r
  else match r with
    | '0' :: c :: t => if marks.contains c then prefixed? base t else (grouped? base r).map (ofDigits base)
    | r => (grouped? base r).map (ofDigits base)

def numeral (s : List Char) : List Char := trimBy Bytes.isAsciiBlank (s.map plain)

/-- A literal whose prefix tells its base. -/
def literal? (s : List Char) : Option Int := signed? unsigned? (numeral s)

/-- A decimal literal, with any number of leading zeros. -/
def integer? (s : List Char) : Option Int := signed? (decimal? true) (numeral s)

/-- A literal of a base that is known. -/
def inBase? (base : Nat) (s : List Char) : Option Int := signed? (unsignedIn? base) (numeral s)

/-- The digits that a decimal literal begins with. -/
def leadingDigits (s : List Char) : List Char :=
  match numeral s with
  | '+' :: r | '-' :: r => r.takeWhile Char.isDigit
  | r => r.takeWhile Char.isDigit

end Socks5.Number
