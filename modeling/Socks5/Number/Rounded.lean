import Socks5.Number.Layout

/-! Doubles with a count of digits given beforehand. A half goes to the even neighbour. -/
namespace Socks5.Number

/-- The natural number nearest to n/d. -/
def roundDiv (n d : Nat) : Nat :=
  let t := n / d
  let twice := 2 * (n % d)
  if d < twice ∨ (twice = d ∧ t % 2 = 1) then t + 1 else t

/-- Digits with a mark before the last `places` of them. -/
def marked (places : Nat) (keepMark : Bool) (digits : Nat) : List Char :=
  let ds := (toString digits).toList
  let ds := zeros (places + 1 - ds.length) ++ ds
  let (whole, fraction) := ds.splitAt (ds.length - places)
  if places = 0 ∧ !keepMark then whole else whole ++ '.' :: fraction

/-- n/d with `places` digits behind the mark. -/
def fixed (n d places : Nat) (keepMark : Bool) : List Char :=
  marked places keepMark (roundDiv (n * powerOfTen places) d)

/-- The digits of n/d, `places` of them behind the first, and the exponent of the first. -/
def significant (n d places : Nat) : Nat × Int :=
  if n = 0 then (0, 0)
  else
    let e := pointOf n d 700 - 1
    let (num, den) := scale n d (places - e)
    let t := roundDiv num den
    if t = powerOfTen (places + 1) then (powerOfTen places, e + 1) else (t, e)

/-- n/d with one digit before the mark and an exponent. -/
def withExponent (n d places : Nat) (keepMark : Bool) : List Char :=
  let (t, e) := significant n d places
  marked places keepMark t ++ exponentText e

/-- Zeros at the end behind a mark, and then the mark itself, fall away. -/
def dropTail (s : List Char) : List Char :=
  if s.contains '.' then
    let r := s.reverse.dropWhile (· = '0')
    (if r.head? = some '.' then r.tail else r).reverse
  else s

/-- n/d with `count` digits in all, in the plain notation if the exponent is in reach of these. -/
def general (n d count : Nat) (keepTail : Bool) : List Char :=
  let count := max count 1
  let (t, e) := significant n d (count - 1)
  let trim (s : List Char) := if keepTail then s else dropTail s
  if -4 ≤ e ∧ e < count then trim (fixed n d (count - 1 - e).toNat keepTail)
  else trim (marked (count - 1) keepTail t) ++ exponentText e

end Socks5.Number
