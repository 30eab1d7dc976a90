import Socks5.Bytes
import Socks5.Text.Printable

/-! Quoted forms of texts and of byte strings: between single quotes, or between double quotes if
there are single quotes inside and no double ones, with an escape for whatever is not shown. -/
namespace Socks5.Text

def hexDigits (width n : Nat) : List Char :=
  match width with
  | 0 => []
  | w + 1 => hexDigits w (n / 16) ++ [Bytes.hexDigit (n % 16)]

/-- The shortest of the three numeric escapes that holds the code point. -/
def escapeCode (n : Nat) : List Char :=
  if n < 0x100 then '\\' :: 'x' :: hexDigits 2 n
  else if n < 0x10000 then '\\' :: 'u' :: hexDigits 4 n
  else '\\' :: 'U' :: hexDigits 8 n

def escapeBy (shown : Char → Bool) (mark c : Char) : List Char :=
  if c = mark ∨ c = '\\' then ['\\', c]
  else if c = '\n' then ['\\', 'n']
  else if c = '\r' then ['\\', 'r']
  else if c = '\t' then ['\\', 't']
  else if shown c then [c]
  else escapeCode c.toNat

def quoteMark (s : List Char) : Char := if s.contains '\'' && !s.contains '"' then '"' else '\''

def quoteBy (shown : Char → Bool) (s : List Char) : List Char :=
  let mark := quoteMark s
  mark :: s.flatMap (escapeBy shown mark) ++ [mark]

def quote (s : String) : String := String.ofList (quoteBy isPrintable s.toList)

/-- Bytes are shown as ASCII characters where these are visible. -/
def quoteBytes (bs : Bytes) : String :=
  String.ofList ('b' :: quoteBy (fun c => ' ' ≤ c && c ≤ '~') (bs.map fun b => Char.ofNat b.toNat))

end Socks5.Text
