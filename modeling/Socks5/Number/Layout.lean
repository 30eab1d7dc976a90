import Socks5.Number.Shortest

/-! Texts of doubles. -/
namespace Socks5.Number

/-- Where a decimal is written with an exponent, and how the special values are spelled. -/
structure Layout where
  /-- The points from which the plain notation is used, both ends included. -/
  plainFrom : Int
  plainTo : Int
  infinity : String
  notANumber : String
  /-- A mantissa of one digit gets a zero behind the mark. -/
  padMantissa : Bool

/-- Plain from 0.0001 up to below 10^16, always with a mark. -/
def Layout.standard : Layout := ⟨-3, 16, "inf", "nan", false⟩

def zeros (n : Nat) : List Char := List.replicate n '0'

def Scientific.plainText (s : Scientific) : List Char :=
  let ds := (toString s.digits).toList
  if s.point ≤ 0 then '0' :: '.' :: zeros (-s.point).toNat ++ ds
  else if ds.length ≤ s.point.toNat then ds ++ zeros (s.point.toNat - ds.length) ++ ['.', '0']
  else ds.take s.point.toNat ++ '.' :: ds.drop s.point.toNat

def exponentText (e : Int) : List Char :=
  let ds := (toString e.natAbs).toList
  'e' :: (if e < 0 then '-' else '+') :: zeros (2 - ds.length) ++ ds

def Scientific.exponentForm (padMantissa : Bool) (s : Scientific) : List Char :=
  let mantissa := match (toString s.digits).toList with
    | [d] => if padMantissa then [d, '.', '0'] else [d]
    | d :: ds => d :: '.' :: ds
    | [] => []
  mantissa ++ exponentText (s.point - 1)

def Layout.write (l : Layout) (x : Float) : String :=
  let signed (negative : Bool) (s : List Char) := String.ofList (if negative then '-' :: s else s)
  match parts x with
  | .nan => l.notANumber
  | .infinite negative => signed negative l.infinity.toList
  | .finite negative 0 _ => signed negative ['0', '.', '0']
  | .finite negative m q =>
    let s := shortest m q
    signed negative <|
      if l.plainFrom ≤ s.point ∧ s.point ≤ l.plainTo then s.plainText else s.exponentForm l.padMantissa

def floatText (x : Float) : String := Layout.standard.write x

end Socks5.Number
