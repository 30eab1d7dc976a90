import Socks5.Address
import Socks5.Number.Decimal
import Socks5.Text.Utf8
import Socks5.Validation.Problem
import Socks5.Wire.Code

/-! Values taken for what a field holds, with the leniency of forms and variables: numbers may come
as text, truth as a number or a word, and a text as its bytes. -/
namespace Socks5

/-- Takes a value, or tells all that is wrong with it. -/
abbrev Convert (α : Type) := Value → Except (List Problem) α

namespace Convert

def fail (p : Problem) : Except (List Problem) α := .error [p]

/-- What is read from a text, be it given as such or by its bytes. -/
def reading (read : String → Except (List Problem) α) (garbled : Problem) (bs : Bytes) : Except (List Problem) α :=
  match Text.ofUtf8? bs with
  | some s => read s
  | none => fail garbled

def text : Convert String
  | .text s => .ok s
  | .bytes bs => reading .ok .notUtf8 bs
  | _ => fail .notText

/-! ## Integers -/

/-- An integer with single underscores between digits, perhaps with a fraction of zeros. -/
def integerText? (s : List Char) : Option Int :=
  let (whole, fraction) := Text.cut '.' (Text.trimBy Text.isBlank s)
  if fraction.elim true (fun z => z ≠ [] ∧ z.all (· = '0')) then
    Number.signed? (fun r => (Number.grouped? 10 r).map (Number.ofDigits 10)) whole
  else none

def ofFloat (x : Float) : Except (List Problem) Int :=
  match Number.toRat? x with
  | none => fail .notFinite
  | some r =>
    if r.den ≠ 1 then fail .fractional
    else if r.num.natAbs < 1 <<< 63 then .ok r.num
    else fail .integerTooLong

/-- Zeros that pad a numeral do not count for its length. -/
def integerOf (s : String) : Except (List Problem) Int :=
  match integerText? s.toList with
  | none => fail .integerUnreadable
  | some n => if (Nat.toDigits 10 n.natAbs).length ≤ Number.maxDigits then .ok n else fail .integerTooLong

def integer : Convert Int
  | .int n => .ok n
  | .bool b => .ok (if b then 1 else 0)
  | .float x => ofFloat x
  | .text s => integerOf s
  | .bytes bs => reading integerOf .integerUnreadable bs
  | _ => fail .notInteger

/-! ## Other scalars -/

def underscored (s : List Char) : List Char :=
  if s.head? = some '_' ∨ s.getLast? = some '_' then s else s.filter (· ≠ '_')

def doubled : List Char → Bool
  | '_' :: '_' :: _ => true
  | _ :: s => doubled s
  | [] => false

def numberOf (s : String) : Except (List Problem) Float :=
  let s := Text.trimBy Text.isBlank s.toList
  match if doubled s then none else Number.float? (underscored s) with
  | some x => .ok x
  | none => fail .numberUnreadable

def number : Convert Float
  | .float x => .ok x
  | .int n => let x := Float.ofInt n; if x.isInf then fail .notNumber else .ok x
  | .bool b => .ok (if b then 1.0 else 0.0)
  | .text s => numberOf s
  | .bytes bs => reading numberOf .numberUnreadable bs
  | _ => fail .notNumber

def yesWords : List String := ["1", "on", "t", "true", "y", "yes"]

def noWords : List String := ["0", "off", "f", "false", "n", "no"]

def flagOf (s : String) : Except (List Problem) Bool :=
  let w := String.ofList (s.toList.map Char.toLower)
  if yesWords.contains w then .ok true
  else if noWords.contains w then .ok false
  else fail .boolUnreadable

def flag : Convert Bool
  | .bool b => .ok b
  | .int 0 => .ok false
  | .int 1 => .ok true
  | .int n => fail (if n.natAbs < 1 <<< 63 then .boolUnreadable else .notBool)
  | .float x =>
    match ofFloat x with
    | .ok 0 => .ok false
    | .ok 1 => .ok true
    | .ok _ => fail .boolUnreadable
    | .error _ => fail .notBool
  | .text s => flagOf s
  | .bytes bs => reading flagOf .boolUnreadable bs
  | _ => fail .notBool

/-! ## Codes and addresses -/

def code (codes : List Nat) (ofCode? : Int → Option α) : Convert α := fun v =>
  match (integer v).toOption.bind ofCode? with
  | some a => .ok a
  | none => fail (.notAmong codes)

def command : Convert Command := code [1, 2] Command.ofCode?

def replyCode : Convert ReplyCode := code [0, 1, 2, 3, 4, 5, 6, 7, 8] ReplyCode.ofCode?

/-- A text denotes an address; a number is one by its bits, of the smaller family that holds it. -/
def address? : Value → Option Address
  | .text s => Address.parse? s.toList
  | v => do
    let n ← v.toInt?
    if 0 ≤ n ∧ n.toNat < UInt32.size then some (.v4 (.ofNat n.toNat))
    else if 0 ≤ n ∧ n.toNat < 1 <<< 128 then some (.v6 (.ofNat n.toNat))
    else none

def address : Convert Address := fun v =>
  match address? v with
  | some a => .ok a
  | none => .error [.notIPv4, .notIPv6]

/-! ## Conditions -/

def optional (c : Convert α) : Convert (Option α)
  | .null => .ok none
  | v => some <$> c v

def check (c : Convert α) (problem? : α → Option Problem) : Convert α := fun v => do
  let a ← c v
  match problem? a with
  | some p => fail p
  | none => .ok a

def atLeast (bound n : Int) : Option Problem := if n < bound then some (.below bound) else none

def within (low high n : Int) : Option Problem :=
  if high < n then some (.above high) else atLeast low n

def port (low : Int) : Convert Int := check integer (within low 65535)

/-! ## Records -/

/-- A field of a record by its name: the value given for it, or what it is without one. -/
def field (given : List (String × Value)) (name : String) (default : Except (List Problem) α)
    (c : Convert α) : Except (List Complaint) α :=
  let result := match given.lookup name with
    | some v => (c v, v)
    | none => (default, .map (given.map fun (k, v) => (.text k, v)))
  result.1.mapError fun ps => ps.map fun p => ⟨[name], p, result.2⟩

def required (given : List (String × Value)) (name : String) (c : Convert α) :
    Except (List Complaint) α := field given name (fail .missing) c

theorem field_of_ok {given : List (String × Value)} {name : String} {v : Value}
    {d : Except (List Problem) α} {c : Convert α} {a : α} (h : given.lookup name = some v)
    (hc : c v = .ok a) : field given name d c = .ok a := by
  rw [field, h]
  dsimp only
  rw [hc]
  rfl

theorem field_of_error {given : List (String × Value)} {name : String} {v : Value}
    {d : Except (List Problem) α} {c : Convert α} {ps : List Problem} (h : given.lookup name = some v)
    (hc : c v = .error ps) : field given name d c = .error (ps.map fun p => ⟨[name], p, v⟩) := by
  rw [field, h]
  dsimp only
  rw [hc]
  rfl

/-- Both results, or all complaints of both. -/
def both (a : Except (List Complaint) α) (b : Except (List Complaint) β) :
    Except (List Complaint) (α × β) :=
  match a, b with
  | .ok a, .ok b => .ok (a, b)
  | .error e, .ok _ => .error e
  | .ok _, .error e => .error e
  | .error e, .error f => .error (e ++ f)

end Convert
end Socks5
