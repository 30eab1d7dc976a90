import Socks5.Number.Literal

/-! Decimal numerals read as doubles. -/
namespace Socks5.Number

/-- An unsigned numeral: the digits before the mark, those after it, and the exponent. -/
structure Numeral where
  whole : List Nat
  fraction : List Nat
  exponent : Int
  deriving DecidableEq, Repr

def takeDigits (s : List Char) : List Nat × List Char :=
  ((s.takeWhile Char.isDigit).map fun c => c.toNat - 48, s.dropWhile Char.isDigit)

/-- The exponent behind `e`; without digits there is none. -/
def exponent? : List Char → Option Int
  | [] => some 0
  | c :: r =>
    if c = 'e' ∨ c = 'E' then
      let (negative, r) := match r with
        | '+' :: r => (false, r)
        | '-' :: r => (true, r)
        | r => (false, r)
      let (ds, rest) := takeDigits r
      if ds.isEmpty ∨ !rest.isEmpty then none
      else
        let n : Int := ofDigits 10 ds
        some (if negative then -n else n)
    else none

/-- Digits with at most one mark and an optional exponent; the mark needs a digit on one side. -/
def Numeral.read? (s : List Char) : Option Numeral :=
  let (whole, r) := takeDigits s
  let (fraction, r) := match r with
    | '.' :: r => takeDigits r
    | r => ([], r)
  if whole.isEmpty ∧ fraction.isEmpty then none
  else (exponent? r).map (⟨whole, fraction, ·⟩)

/-- Beyond the exponents of doubles the result is infinite or zero. -/
def Numeral.toFloat (n : Numeral) : Float :=
  let ds := n.whole ++ n.fraction
  let m := ofDigits 10 ds
  let e := n.exponent - n.fraction.length
  if m = 0 then 0.0
  else if 400 < e + ds.length ∧ 400 < e + (toString m).length then 1.0 / 0.0
  else if e + (toString m).length < -400 then 0.0
  else match e with
    | .ofNat k => Float.ofScientific m false k
    | .negSucc k => Float.ofScientific m true (k + 1)

def withSign (s : List Char) (read : List Char → Option Float) : Option Float :=
  match s with
  | '+' :: r => read r
  | '-' :: r => (read r).map (-·)
  | r => read r

/-- The words for infinity and for no number, in any case. -/
def floatWord? (s : List Char) : Option Float :=
  let w := s.map Char.toLower
  if w = "inf".toList ∨ w = "infinity".toList then some (1.0 / 0.0)
  else if w = "nan".toList then some (0.0 / 0.0)
  else none

def float? (s : List Char) : Option Float :=
  withSign s fun r => floatWord? r <|> (Numeral.read? r).map Numeral.toFloat

end Socks5.Number
