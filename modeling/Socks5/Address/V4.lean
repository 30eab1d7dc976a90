import Socks5.Bytes
import Socks5.Text.Split

/-! IPv4 addresses as dotted quads, read strictly: four decimal numbers without leading zeros. -/
namespace Socks5

structure IPv4 where
  a : UInt8
  b : UInt8
  c : UInt8
  d : UInt8
  deriving DecidableEq, Repr

namespace IPv4

def bytes (x : IPv4) : Bytes := [x.a, x.b, x.c, x.d]

/-- The address of four bytes; bytes that are missing count as zero. -/
def ofBytes (bs : Bytes) : IPv4 := ⟨bs.getD 0 0, bs.getD 1 0, bs.getD 2 0, bs.getD 3 0⟩

@[simp] theorem ofBytes_bytes (x : IPv4) : ofBytes x.bytes = x := rfl

def ofNat (n : Nat) : IPv4 :=
  ⟨.ofNat (n >>> 24), .ofNat (n >>> 16), .ofNat (n >>> 8), .ofNat n⟩

def octetText (b : UInt8) : List Char := (toString b.toNat).toList

def text (x : IPv4) : List Char := Text.join '.' (x.bytes.map octetText)

def digitsValue (s : List Char) : Nat := s.foldl (fun n c => 10 * n + (c.toNat - 48)) 0

def octet? (s : List Char) : Option UInt8 :=
  if s ≠ [] ∧ s.length ≤ 3 ∧ s.all Char.isDigit ∧ (s.head? ≠ some '0' ∨ s = ['0']) ∧ digitsValue s < 256
  then some (UInt8.ofNat (digitsValue s)) else none

def parse? (s : List Char) : Option IPv4 :=
  match (Text.split '.' s).mapM octet? with
  | some [a, b, c, d] => some ⟨a, b, c, d⟩
  | _ => none

end IPv4
end Socks5
