/-! Binary floating point numbers taken apart. -/
namespace Socks5.Number

/-- What a double stands for: `finite negative m q` is m · 2^q with its sign. -/
inductive Parts where
  | nan
  | infinite (negative : Bool)
  | finite (negative : Bool) (mantissa : Nat) (exponent : Int)
  deriving DecidableEq, Repr

def partsOfBits (bits : Nat) : Parts :=
  let negative := 1 <<< 63 ≤ bits
  let exponent : Nat := (bits >>> 52) % 2048
  let fraction : Nat := bits % (1 <<< 52)
  if exponent = 2047 then if fraction = 0 then .infinite negative else .nan
  else if exponent = 0 then .finite negative fraction (-1074)
  else .finite negative (1 <<< 52 + fraction) ((exponent : Int) - 1075)

def parts (x : Float) : Parts := partsOfBits x.toBits.toNat

/-- m · 2^q as a quotient of natural numbers. -/
def quotient (m : Nat) (q : Int) : Nat × Nat :=
  match q with
  | .ofNat k => (m <<< k, 1)
  | .negSucc k => (m, 1 <<< (k + 1))

/-- The exact value of a finite double. -/
def toRat? (x : Float) : Option Rat :=
  match parts x with
  | .finite negative m q =>
    let (n, d) := quotient m q
    let r := mkRat n d
    some (if negative then -r else r)
  | _ => none

end Socks5.Number
