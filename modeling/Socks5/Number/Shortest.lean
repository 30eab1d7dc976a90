import Socks5.Number.Binary

/-! The shortest decimal numeral that reads back as a double: of all decimals inside the interval of
reals that round to it, those with the fewest digits, and of these the nearest. -/
namespace Socks5.Number

/-- A decimal 0.d₁d₂… · 10^point with the digits of the number `digits`. -/
structure Scientific where
  digits : Nat
  point : Int
  deriving DecidableEq, Repr

/-- The reals that round to a double, times 4 · 2^-q: its own mantissa, the ends, and whether the
ends belong to it. -/
structure Rounding where
  value : Nat
  low : Nat
  high : Nat
  closed : Bool

/-- Below a power of two the neighbour is only half as far. -/
def rounding (m : Nat) (q : Int) : Rounding where
  value := 4 * m
  low := if m = 1 <<< 52 ∧ q ≠ -1074 then 4 * m - 1 else 4 * m - 2
  high := 4 * m + 2
  closed := m % 2 = 0

/-- The exponent `p` with 10^(p-1) ≤ n/d < 10^p, for n and d positive: first counted up, then down. -/
def pointOf (n d : Nat) : Nat → Int
  | 0 => 0
  | fuel + 1 =>
    if d ≤ n then pointOf n (10 * d) fuel + 1
    else if d ≤ 10 * n then 0
    else pointOf (10 * n) d fuel - 1

/-- One with `k` zeros. -/
def powerOfTen (k : Nat) : Nat := Nat.pow 10 k

/-- n · 10^e / d, as a quotient. -/
def scale (n d : Nat) (e : Int) : Nat × Nat :=
  match e with
  | .ofNat k => (n * powerOfTen k, d)
  | .negSucc k => (n, d * powerOfTen (k + 1))

def Rounding.holds (r : Rounding) (x : Nat) (unit : Nat) : Bool :=
  if r.closed then r.low * unit ≤ x && x ≤ r.high * unit else r.low * unit < x && x < r.high * unit

/-- Of the two neighbours of the value on the grid of `count` digits, the nearer one that reads
back. The grid is t · den/num in the scale of the rounding interval. -/
def onGrid? (r : Rounding) (num den : Nat) : Option Nat :=
  let t := r.value * num / den
  let below := r.holds (t * den) num
  let above := r.holds ((t + 1) * den) num
  let gapBelow := r.value * num - t * den
  let gapAbove := (t + 1) * den - r.value * num
  if below ∧ (¬above ∨ gapBelow < gapAbove ∨ (gapBelow = gapAbove ∧ t % 2 = 0)) then some t
  else if above then some (t + 1)
  else none

def shortestFrom (r : Rounding) (n d : Nat) (point : Int) (count : Nat) : Nat → Scientific
  | 0 => ⟨0, point⟩
  | fuel + 1 =>
    let (num, den) := scale n d (count - point)
    match onGrid? r num den with
    | some t => if t = powerOfTen count then ⟨1, point + 1⟩ else ⟨t, point⟩
    | none => shortestFrom r n d point (count + 1) fuel

def stripZeros (n : Nat) : Nat → Nat
  | 0 => n
  | fuel + 1 => if n ≠ 0 ∧ n % 10 = 0 then stripZeros (n / 10) fuel else n

/-- The shortest digits of m · 2^q, for m positive. -/
def shortest (m : Nat) (q : Int) : Scientific :=
  let r := rounding m q
  let (n, d) := quotient 1 (q - 2)
  let s := shortestFrom r n d (pointOf (r.value * n) d 700) 1 18
  { s with digits := stripZeros s.digits 20 }

end Socks5.Number
