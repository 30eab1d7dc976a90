import Socks5.Number.Literal
import Socks5.Number.Rounded
import Socks5.Value

/-! Texts with places for values. A place begins with a percent sign and may name a key in round
brackets; then come flags, a width, a precision, and a letter for the way the value is written. Two
percent signs stand for one. -/
namespace Socks5.Log

inductive FillError where
  | tooFew
  | tooMany
  | incomplete
  | incompleteKey
  | noMapping
  | noKey (key : String)
  | widthNoInt
  | notNumber (letter : Char) (kind : String)
  | notInteger (letter : Char) (kind : String)
  | notReal (kind : String)
  | notChar
  | noSuchChar
  | infinite
  | unsupported (letter : Char) (index : Nat)
  deriving DecidableEq, Repr

def FillError.message : FillError → String
  | tooFew => "not enough arguments for format string"
  | tooMany => "not all arguments converted during string formatting"
  | incomplete => "incomplete format"
  | incompleteKey => "incomplete format key"
  | noMapping => "format requires a mapping"
  | noKey key => Text.quote key
  | widthNoInt => "* wants int"
  | notNumber c kind => s!"%{c} format: a real number is required, not {kind}"
  | notInteger c kind => s!"%{c} format: an integer is required, not {kind}"
  | notReal kind => s!"must be real number, not {kind}"
  | notChar => "%c requires int or char"
  | noSuchChar => "%c arg not in range(0x110000)"
  | infinite => "cannot convert float infinity to integer"
  | unsupported c index =>
    let shown := if 31 ≤ c.toNat ∧ c.toNat ≤ 126 then c else '?'
    let code := String.ofList (Nat.toDigits 16 c.toNat)
    s!"unsupported format character '{shown}' (0x{code}) at index {index}"

/-! ## Values to fill in -/

/-- The values still to be used, and the mapping that keys are looked up in. -/
structure Supply where
  next : List Value
  byKey : Option (List (Value × Value)) := none
  deriving Repr

/-- A mapping that stands alone and holds something is a supply by key. -/
def Supply.ofArgs : List Value → Supply
  | [.map (e :: es)] => ⟨[.map (e :: es)], some (e :: es)⟩
  | vs => ⟨vs, none⟩

def Supply.take (s : Supply) : Except FillError (Value × Supply) :=
  match s.next with
  | v :: vs => .ok (v, { s with next := vs })
  | [] => .error .tooFew

/-- Of a mapping any part may be left over. -/
def Supply.finish (s : Supply) : Except FillError Unit :=
  if s.byKey.isNone ∧ s.next ≠ [] then .error .tooMany else .ok ()

/-! ## Places -/

structure Place where
  left : Bool := false
  plus : Bool := false
  blank : Bool := false
  alternate : Bool := false
  zero : Bool := false
  width : Nat := 0
  precision : Option Nat := none
  deriving Repr

/-- A number's text in parts: the sign, what stands before the digits, and the digits. -/
structure Digits where
  negative : Bool
  base : List Char := []
  digits : List Char

def fillUp (c : Char) (n : Nat) : List Char := List.replicate n c

def Place.pad (p : Place) (s : List Char) : List Char :=
  if p.left then s ++ fillUp ' ' (p.width - s.length) else fillUp ' ' (p.width - s.length) ++ s

/-- Zeros stand between the sign and the digits, blanks before both. -/
def Place.number (p : Place) (d : Digits) : List Char :=
  let sign := if d.negative then ['-'] else if p.plus then ['+'] else if p.blank then [' '] else []
  let front := sign ++ d.base
  if p.zero ∧ !p.left then front ++ fillUp '0' (p.width - (front ++ d.digits).length) ++ d.digits
  else p.pad (front ++ d.digits)

def Place.text (p : Place) (s : String) : List Char :=
  p.pad (match p.precision with
    | some n => s.toList.take n
    | none => s.toList)

def isUpper (c : Char) : Bool := 'A' ≤ c && c ≤ 'Z'

def raiseIf (b : Bool) (s : List Char) : List Char := if b then s.map Char.toUpper else s

/-- A quoted form in ASCII alone. -/
def asciiShown (v : Value) : String :=
  String.ofList (v.shown.toList.flatMap fun c => if c.toNat < 128 then [c] else Text.escapeCode c.toNat)

/-! ## Numbers -/

def truncated? (x : Float) : Option Int :=
  (Number.toRat? x).map fun r => Int.tdiv r.num r.den

def integerOf (letter : Char) (v : Value) : Except FillError Int :=
  let based := letter = 'o' ∨ letter = 'x' ∨ letter = 'X'
  match v.toInt?, v with
  | some n, _ => .ok n
  | none, .float x =>
    if based then .error (.notInteger letter v.kind)
    else match truncated? x with
      | some n => .ok n
      | none => .error .infinite
  | none, v => .error (if based then .notInteger letter v.kind else .notNumber letter v.kind)

def Place.integer (p : Place) (letter : Char) (n : Int) : List Char :=
  let (base, mark) := match letter with
    | 'o' => (8, "0o")
    | 'x' => (16, "0x")
    | 'X' => (16, "0X")
    | _ => (10, "")
  let ds := raiseIf (letter = 'X') (Nat.toDigits base n.natAbs)
  p.number
    { negative := n < 0
      base := if p.alternate then mark.toList else []
      digits := fillUp '0' (p.precision.getD 1 - ds.length) ++ ds }

def doubleOf (v : Value) : Except FillError Float :=
  match v.toInt?, v with
  | some n, _ => .ok (Float.ofInt n)
  | none, .float x => .ok x
  | none, v => .error (.notReal v.kind)

/-- Six digits are written where no precision is given. -/
def Place.double (p : Place) (letter : Char) (x : Float) : List Char :=
  let write (n d : Nat) : List Char :=
    let places := p.precision.getD 6
    match letter.toLower with
    | 'e' => Number.withExponent n d places p.alternate
    | 'f' => Number.fixed n d places p.alternate
    | _ => Number.general n d places p.alternate
  let (negative, digits) : Bool × List Char := match Number.parts x with
    | .nan => (false, "nan".toList)
    | .infinite negative => (negative, "inf".toList)
    | .finite negative m q =>
      let (n, d) := Number.quotient m q
      (negative, write n d)
  p.number { negative, digits := raiseIf (isUpper letter) digits }

def charOf (v : Value) : Except FillError Char :=
  match v.toInt?, v with
  | some n, _ => if 0 ≤ n ∧ n < 0x110000 then .ok (Char.ofNat n.toNat) else .error .noSuchChar
  | none, .text s => match s.toList with
    | [c] => .ok c
    | _ => .error .notChar
  | none, _ => .error .notChar

/-- A value at its place. -/
def Place.write (p : Place) (letter : Char) (index : Nat) (v : Value) : Except FillError (List Char) :=
  if letter = 's' then .ok (p.text v.display)
  else if letter = 'r' then .ok (p.text v.shown)
  else if letter = 'a' then .ok (p.text (asciiShown v))
  else if ['d', 'i', 'u', 'o', 'x', 'X'].contains letter then
    (integerOf letter v).map (p.integer letter)
  else if ['e', 'f', 'g', 'E', 'F', 'G'].contains letter then (doubleOf v).map (p.double letter)
  else if letter = 'c' then (charOf v).map fun c => p.text (String.singleton c)
  else .error (.unsupported letter index)

/-! ## Reading a place -/

/-- The text up to the bracket that closes the key; brackets inside it come in pairs. -/
def keyFrom (depth : Nat) : List Char → Option (List Char × List Char)
  | [] => none
  | ')' :: r => if depth = 0 then some ([], r) else (keyFrom (depth - 1) r).map fun (k, r) => (')' :: k, r)
  | c :: r => (keyFrom (if c = '(' then depth + 1 else depth) r).map fun (k, r) => (c :: k, r)

/-- A key makes its value the only one in the supply. -/
def readKey (s : List Char) (u : Supply) : Except FillError (List Char × Supply) :=
  match s, u.byKey with
  | '(' :: _, none => .error .noMapping
  | '(' :: r, some es => match keyFrom 0 r with
    | none => .error .incompleteKey
    | some (k, r) => match es.lookup (.text (String.ofList k)) with
      | some v => .ok (r, { u with next := [v] })
      | none => .error (.noKey (String.ofList k))
  | s, _ => .ok (s, u)

def isFlag (c : Char) : Bool := ['-', '+', ' ', '#', '0'].contains c

def Place.ofFlags (fs : List Char) : Place where
  left := fs.contains '-'
  plus := fs.contains '+'
  blank := fs.contains ' '
  alternate := fs.contains '#'
  zero := fs.contains '0'

/-- A number written out, or taken from the supply where a star stands. -/
def readSize (s : List Char) (u : Supply) : Except FillError (Option Int × List Char × Supply) :=
  match s with
  | '*' :: r => do
    let (v, u) ← u.take
    match v.toInt? with
    | some n => .ok (some n, r, u)
    | none => .error .widthNoInt
  | s =>
    let ds := s.takeWhile Char.isDigit
    .ok (if ds = [] then none else some (Number.ofDigits 10 (ds.map fun c => c.toNat - 48)),
      s.dropWhile Char.isDigit, u)

def readPrecision (s : List Char) (u : Supply) : Except FillError (Option Nat × List Char × Supply) :=
  match s with
  | '.' :: r => (readSize r u).map fun (n, r, u) => (some (n.getD 0).toNat, r, u)
  | s => .ok (none, s, u)

/-- A width below zero is one for a value that stands on the left. -/
def Place.widen (p : Place) : Option Int → Place
  | none => p
  | some n => { p with width := n.natAbs, left := p.left || n < 0 }

/-- Letters that once told a number's size say nothing. -/
def dropSize : List Char → List Char
  | 'h' :: r | 'l' :: r | 'L' :: r => r
  | r => r

/-- What a place behind its percent sign is filled with. `length` is that of the whole template. -/
def fillPlace (length : Nat) (s : List Char) (u : Supply) :
    Except FillError (List Char × List Char × Supply) := do
  let (s, u) ← readKey s u
  let p := Place.ofFlags (s.takeWhile isFlag)
  let (width, s, u) ← readSize (s.dropWhile isFlag) u
  let (precision, s, u) ← readPrecision s u
  match dropSize s with
  | [] => .error .incomplete
  | letter :: r => do
    let (v, u) ← u.take
    let out ← { p.widen width with precision }.write letter (length - r.length - 1) v
    .ok (out, r, u)

/-- Each step reads one character at least, so the length of the text is fuel enough. -/
def fillFrom (length : Nat) (u : Supply) : Nat → List Char → Except FillError (List Char)
  | 0, _ => u.finish.map fun _ => []
  | _, [] => u.finish.map fun _ => []
  | fuel + 1, '%' :: '%' :: r => (fillFrom length u fuel r).map ('%' :: ·)
  | fuel + 1, '%' :: r => do
    let (out, r, u) ← fillPlace length r u
    return out ++ (← fillFrom length u fuel r)
  | fuel + 1, c :: r => (fillFrom length u fuel r).map (c :: ·)

/-- Fills a template. Without any value it is a text like any other. -/
def fill (template : String) (args : List Value) : Except FillError String :=
  if args = [] then .ok template
  else
    let s := template.toList
    (fillFrom s.length (.ofArgs args) s.length s).map String.ofList

end Socks5.Log
