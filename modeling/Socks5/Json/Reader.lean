import Socks5.Number.Decimal
import Socks5.Value

/-! JSON texts read as values. The words for the special doubles are taken too, and of entries with
one key the last counts, in the place of the first. -/
namespace Socks5.Json

def skipBlanks (s : List Char) : List Char :=
  s.dropWhile fun c => c = ' ' ∨ c = '\t' ∨ c = '\n' ∨ c = '\r'

/-- What a text begins with is taken off it. -/
def after? (word s : List Char) : Option (List Char) :=
  if word.isPrefixOf s then some (s.drop word.length) else none

/-! ## Texts -/

def unit? (s : List Char) : Option (Nat × List Char) := do
  let ds ← (s.take 4).mapM Bytes.hexValue?
  if ds.length = 4 then some (Number.ofDigits 16 ds, s.drop 4) else none

/-- An escaped code unit; a pair of surrogates makes one character. -/
def escaped? (s : List Char) : Option (Char × List Char) := do
  let (n, r) ← unit? s
  if 0xD800 ≤ n ∧ n < 0xDC00 then
    match (after? ['\\', 'u'] r).bind unit? with
    | some (m, r') =>
      if 0xDC00 ≤ m ∧ m < 0xE000 then
        some (Char.ofNat (0x10000 + (n - 0xD800) * 0x400 + (m - 0xDC00)), r')
      else some (Char.ofNat 0xFFFD, r)
    | none => some (Char.ofNat 0xFFFD, r)
  else if 0xDC00 ≤ n ∧ n < 0xE000 then some (Char.ofNat 0xFFFD, r)
  else some (Char.ofNat n, r)

def shortEscape? : Char → Option Char
  | '"' => some '"'
  | '\\' => some '\\'
  | '/' => some '/'
  | 'b' => some (Char.ofNat 8)
  | 'f' => some (Char.ofNat 12)
  | 'n' => some '\n'
  | 'r' => some '\r'
  | 't' => some '\t'
  | _ => none

/-- The characters up to the closing quote, and what follows it. -/
def chars? : Nat → List Char → Option (List Char × List Char)
  | 0, _ => none
  | _, [] => none
  | fuel + 1, c :: r => do
    if c = '"' then return ([], r)
    if c.toNat < 32 then none
    let (d, r) ← if c ≠ '\\' then some (c, r) else match r with
      | 'u' :: r => escaped? r
      | e :: r => (shortEscape? e).map (·, r)
      | [] => none
    let (ds, r) ← chars? fuel r
    return (d :: ds, r)

def text? (s : List Char) : Option (String × List Char) :=
  (chars? s.length s).map fun (cs, r) => (String.ofList cs, r)

/-! ## Numbers -/

def exponentSpan (r : List Char) : List Char × List Char :=
  match r with
  | e :: t =>
    if e = 'e' ∨ e = 'E' then
      let (sign, t) := match t with
        | '+' :: u => (['+'], u)
        | '-' :: u => (['-'], u)
        | t => ([], t)
      if (t.takeWhile Char.isDigit) = [] then ([], r)
      else (e :: sign ++ t.takeWhile Char.isDigit, t.dropWhile Char.isDigit)
    else ([], r)
  | [] => ([], [])

def fractionSpan (r : List Char) : List Char × List Char :=
  match r with
  | '.' :: t =>
    if (t.takeWhile Char.isDigit) = [] then ([], r)
    else ('.' :: t.takeWhile Char.isDigit, t.dropWhile Char.isDigit)
  | _ => ([], r)

/-- Without fraction and exponent the number is an integer, of bounded length. -/
def unsigned? (s : List Char) : Option (Value × List Char) := do
  let digits := s.takeWhile Char.isDigit
  let whole := if digits.head? = some '0' then ['0'] else digits
  if whole = [] then none
  let (fraction, r) := fractionSpan (s.drop whole.length)
  let (exponent, r) := exponentSpan r
  if fraction = [] ∧ exponent = [] then
    if Number.maxDigits < whole.length then none
    return (.int (Number.ofDigits 10 (Number.takeDigits whole).1), r)
  else
    let n ← Number.Numeral.read? (whole ++ fraction ++ exponent)
    return (.float n.toFloat, r)

def negated : Value → Value
  | .int n => .int (-n)
  | .float x => .float (-x)
  | v => v

def number? : List Char → Option (Value × List Char)
  | '-' :: r => (unsigned? r).map fun (v, r) => (negated v, r)
  | r => unsigned? r

/-! ## Values -/

def words : List (String × Value) :=
  [("null", .null), ("true", .bool true), ("false", .bool false), ("NaN", .float (0.0 / 0.0)),
   ("Infinity", .float (1.0 / 0.0)), ("-Infinity", .float (-1.0 / 0.0))]

def word? (s : List Char) : Option (Value × List Char) :=
  words.findSome? fun (w, v) => (after? w.toList s).map (v, ·)

/-- Puts an entry in; a key that is there keeps its place. -/
def put (k v : Value) : List (Value × Value) → List (Value × Value)
  | [] => [(k, v)]
  | (k', v') :: es => if k' == k then (k', v) :: es else (k', v') :: put k v es

mutual

def value? : Nat → List Char → Option (Value × List Char)
  | 0, _ => none
  | fuel + 1, s =>
    match s with
    | '"' :: r => (text? r).map fun (t, r) => (.text t, r)
    | '[' :: r =>
      match skipBlanks r with
      | ']' :: r => some (.list [], r)
      | r => (items? fuel r).map fun (vs, r) => (.list vs, r)
    | c :: r =>
      if c.toNat = 0x7B then
        let r := skipBlanks r
        if r.head?.map Char.toNat = some 0x7D then some (.map [], r.tail)
        else (entries? fuel [] r).map fun (es, r) => (.map es, r)
      else (word? s).orElse fun _ => number? s
    | [] => none

def items? : Nat → List Char → Option (List Value × List Char)
  | 0, _ => none
  | fuel + 1, s => do
    let (v, r) ← value? fuel s
    match skipBlanks r with
    | ',' :: r =>
      let (vs, r) ← items? fuel (skipBlanks r)
      return (v :: vs, r)
    | ']' :: r => return ([v], r)
    | _ => none

def entries? : Nat → List (Value × Value) → List Char → Option (List (Value × Value) × List Char)
  | 0, _, _ => none
  | fuel + 1, seen, s => do
    let r ← after? ['"'] s
    let (k, r) ← text? r
    let r ← after? [':'] (skipBlanks r)
    let (v, r) ← value? fuel (skipBlanks r)
    let seen := put (.text k) v seen
    match skipBlanks r with
    | ',' :: r => entries? fuel seen (skipBlanks r)
    | c :: r => if c.toNat = 0x7D then return (seen, r) else none
    | [] => none

end

def read? (s : String) : Option Value := do
  let s := skipBlanks s.toList
  let (v, r) ← value? (s.length + 1) s
  if skipBlanks r = [] then some v else none

end Socks5.Json
