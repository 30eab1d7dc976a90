import Socks5.Number.Decimal
import Socks5.Text.Split
import Socks5.Value

/-! The kinds of scalars: which kind a plain scalar has by its looks, and what a text of a kind
stands for. -/
namespace Socks5.Yaml

/-- The kinds of version 1.1 of the language. -/
inductive Kind where
  | null | bool | int | float | text | timestamp | merge | default
  | binary | sequence | mapping | set | pairs | orderedMap
  deriving DecidableEq, Repr

namespace Kind

def named : List (String × Kind) :=
  [("null", null), ("bool", bool), ("int", int), ("float", float), ("str", text),
   ("timestamp", timestamp), ("merge", merge), ("value", default), ("binary", binary),
   ("seq", sequence), ("map", mapping), ("set", set), ("pairs", pairs), ("omap", orderedMap)]

def space : String := "tag:yaml.org,2002:"

def ofTag? (tag : String) : Option Kind :=
  named.findSome? fun (name, kind) => if tag = space ++ name then some kind else none

/-- Whether values of the kind are made first and filled later. -/
def isCollection : Kind → Bool
  | sequence | mapping | set | pairs | orderedMap => true
  | _ => false

/-! ## Looks -/

def digitOr (c d : Char) : Bool := d.isDigit || d = c

/-- A sign, which may be left out. -/
def unsigned (s : List Char) : List Char :=
  match s with
  | '+' :: r | '-' :: r => r
  | r => r

def words (base : String) : List (List Char) :=
  let upperFirst := match base.toList with
    | c :: r => c.toUpper :: r
    | [] => []
  [base.toList, upperFirst, base.toList.map Char.toUpper]

def yesForms : List (List Char) := ["yes", "true", "on"].flatMap words

def noForms : List (List Char) := ["no", "false", "off"].flatMap words

def nullForms : List (List Char) := [] :: ['~'] :: words "null"

/-- Numbers below sixty behind colons. -/
def isSixties (part : List Char) : Bool :=
  match part with
  | [d] => d.isDigit
  | [t, d] => '0' ≤ t && t ≤ '5' && d.isDigit
  | _ => false

def startsDigit (s : List Char) : Bool := s.head?.any Char.isDigit

def looksInt (s : List Char) : Bool :=
  match unsigned s with
  | '0' :: r => match r with
    | [] => true
    | 'b' :: ds => ds ≠ [] && ds.all fun d => d = '0' || d = '1' || d = '_'
    | 'x' :: ds => ds ≠ [] && ds.all fun d => (Bytes.hexValue? d).isSome || d = '_'
    | ds => ds.all fun d => ('0' ≤ d && d ≤ '7') || d = '_'
  | r =>
    match Text.split ':' r with
    | first :: more => startsDigit first && first.all (digitOr '_') && more.all isSixties
    | [] => false

/-- An exponent has a sign. -/
def looksExponent (s : List Char) : Bool :=
  match s with
  | [] => true
  | e :: sign :: ds =>
    (e = 'e' || e = 'E') && (sign = '+' || sign = '-') && ds ≠ [] && ds.all Char.isDigit
  | _ => false

def looksFloat (s : List Char) : Bool :=
  let u := unsigned s
  match u with
  | '.' :: r =>
    ((words "inf").contains r) || (s = u && (r = "nan".toList || r = "NaN".toList || r = "NAN".toList))
      || (s = u && startsDigit r && looksExponent (r.dropWhile (digitOr '_')))
  | _ =>
    let (whole, fraction) := Text.cut '.' u
    match fraction with
    | none => false
    | some f =>
      match Text.split ':' whole with
      | [w] => startsDigit w && w.all (digitOr '_') && looksExponent (f.dropWhile (digitOr '_'))
      | w :: ws => startsDigit w && w.all (digitOr '_') && ws.all isSixties && f.all (digitOr '_')
      | [] => false

/-- Digits taken off the front: at least one, and at most so many. -/
def digits? (most : Nat) (s : List Char) : Option (Nat × List Char) :=
  let ds := (s.take most).takeWhile Char.isDigit
  if ds = [] then none
  else some (Number.ofDigits 10 (ds.map fun d => d.toNat - 48), s.drop ds.length)

def exactly? (n : Nat) (s : List Char) : Option (Nat × List Char) :=
  if (s.take n).length = n ∧ (s.take n).all Char.isDigit then digits? n s else none

def after? (c : Char) : List Char → Option (List Char)
  | d :: r => if c = d then some r else none
  | [] => none

/-- A date as its text gives it, perhaps with a time of the day and with the minutes by which that is ahead
of the time at longitude zero. -/
structure Timestamp where
  year : Nat
  month : Nat
  day : Nat
  clock : Option (Nat × Nat × Nat) := none
  ahead : Int := 0
  deriving DecidableEq, Repr

/-- The zone behind a time of the day, which may be left out. -/
def zone? (s : List Char) : Option Int :=
  match s.dropWhile fun c => c = ' ' ∨ c = '\t' with
  | [] => if s = [] then some 0 else none
  | ['Z'] => some 0
  | sign :: r =>
    let signed (n : Nat) : Int := if sign = '-' then -n else n
    if sign ≠ '+' ∧ sign ≠ '-' then none
    else match digits? 2 r with
      | some (h, []) => some (signed (60 * h))
      | some (h, ':' :: m) => match exactly? 2 m with
        | some (m, []) => some (signed (60 * h + m))
        | _ => none
      | _ => none

def timestamp? (s : List Char) : Option Timestamp := do
  let (year, r) ← exactly? 4 s
  let (month, r') ← digits? 2 (← after? '-' r)
  let (day, r'') ← digits? 2 (← after? '-' r')
  if r'' = [] then some { year, month, day }
  else
    let r ← match r'' with
      | 'T' :: r | 't' :: r => some r
      | ' ' :: _ | '\t' :: _ => some (r''.dropWhile fun c => c = ' ' ∨ c = '\t')
      | _ => none
    let (hour, r) ← digits? 2 r
    let (minute, r) ← exactly? 2 (← after? ':' r)
    let (second, r) ← exactly? 2 (← after? ':' r)
    let r := match r with
      | '.' :: f => f.dropWhile Char.isDigit
      | r => r
    return ⟨year, month, day, some (hour, minute, second), ← zone? r⟩

/-- Without a time of the day, month and day have two digits each. -/
def looksTimestamp (s : List Char) : Bool :=
  (timestamp? s).any fun t => t.clock.isSome || s.length = 10

/-- The kind that a plain scalar has by its looks. -/
def ofPlain (s : List Char) : Kind :=
  if (yesForms ++ noForms).contains s then bool
  else if looksFloat s then float
  else if looksInt s then int
  else if s = ['<', '<'] then merge
  else if nullForms.contains s then null
  else if looksTimestamp s then timestamp
  else if s = ['='] then default
  else text

end Kind

/-! ## What a text stands for -/

/-- A part of a date or of a time of the day that is out of its range. -/
inductive TimeError where
  | year (n : Nat)
  | month
  | day
  | hour
  | minute
  | second
  | zone (minutes : Int)
  deriving DecidableEq, Repr

def TimeError.message : TimeError → String
  | year n => s!"year {n} is out of range"
  | month => "month must be in 1..12"
  | day => "day is out of range for month"
  | hour => "hour must be in 0..23"
  | minute => "minute must be in 0..59"
  | second => "second must be in 0..59"
  | zone minutes =>
    let seconds := 60 * minutes.emod 1440
    let rest := if seconds = 0 then "" else s!", seconds={seconds}"
    "offset must be a timedelta strictly between -timedelta(hours=24) and timedelta(hours=24), " ++
      s!"not datetime.timedelta(days={minutes.ediv 1440}{rest})."

/-- What keeps a text of some kind from standing for anything. -/
inductive ScalarError where
  | notInteger (base : Nat) (text : String)
  | tooManyDigits (count : Nat)
  | notNumber (text : String)
  | outOfRange (e : TimeError)
  /-- A number without a single character. -/
  | noNumber
  | notBool (word : String)
  | notTimestamp
  /-- An escape with a number beyond the last character. -/
  | noCharacter (code : Nat)
  deriving DecidableEq, Repr

namespace ScalarError

def message : ScalarError → String
  | notInteger base text =>
    s!"invalid literal for int() with base {base}: {String.ofList ((Text.quote text).toList.take 200)}"
  | tooManyDigits n =>
    s!"Exceeds the limit ({Number.maxDigits} digits) for integer string conversion: value has {n} digits; " ++
      "use sys.set_int_max_str_digits() to increase the limit"
  | notNumber text => s!"could not convert string to float: {Text.quote text}"
  | outOfRange e => e.message
  | noNumber => "string index out of range"
  | notBool word => Text.quote word
  | notTimestamp => "'NoneType' object has no attribute 'groupdict'"
  | noCharacter code =>
    if code < 0x80000000 then "chr() arg not in range(0x110000)" else "Python int too large to convert to C int"

/-- Whether the text has the form of its kind and a value of no use, rather than no form at all. -/
def isValue : ScalarError → Bool
  | notInteger _ _ | tooManyDigits _ | notNumber _ | outOfRange _ => true
  | noNumber | notBool _ | notTimestamp => false
  | noCharacter code => code < 0x80000000

end ScalarError

/-- What keeps a text from standing for a value. -/
inductive ReadError where
  /-- The text is no document of the language, or one that does not hold data only. -/
  | malformed
  | scalar (e : ScalarError)
  deriving DecidableEq, Repr

/-- What has to be there for a text to be a document. -/
def required (x : Option α) : Except ReadError α := x.elim (.error .malformed) .ok

namespace Kind

def boolOf (s : List Char) : Except ScalarError Bool :=
  let w := s.map Char.toLower
  if yesForms.contains w then .ok true
  else if noForms.contains w then .ok false
  else .error (.notBool (String.ofList w))

def sixties (parts : List Int) : Int := parts.foldl (fun n p => 60 * n + p) 0

def integerIn (base : Nat) (s : List Char) : Except ScalarError Int :=
  match Number.inBase? base s with
  | some n => .ok n
  | none =>
    let digits := (Number.leadingDigits s).length
    .error (if base = 10 ∧ Number.maxDigits < digits then .tooManyDigits digits
      else .notInteger base (String.ofList s))

def integerOf (s : List Char) : Except ScalarError Int := do
  let s := s.filter (· ≠ '_')
  let n ← match unsigned s with
    | [] => .error .noNumber
    | ['0'] => .ok 0
    | '0' :: 'b' :: ds => integerIn 2 ds
    | '0' :: 'x' :: ds => integerIn 16 ds
    | '0' :: ds => integerIn 8 ('0' :: ds)
    | r => ((Text.split ':' r).mapM (integerIn 10)).map sixties
  return if s.head? = some '-' then -n else n

def floatIn (s : List Char) : Except ScalarError Float :=
  match Number.float? (Text.trimBy Text.isBlank s) with
  | some x => .ok x
  | none => .error (.notNumber (String.ofList s))

def floatOf (s : List Char) : Except ScalarError Float := do
  let s := (s.filter (· ≠ '_')).map Char.toLower
  let sign (x : Float) : Float := if s.head? = some '-' then -x else x
  if s = [] then .error .noNumber
  else match unsigned s with
    | ['.', 'i', 'n', 'f'] => return sign (1.0 / 0.0)
    | ['.', 'n', 'a', 'n'] => return 0.0 / 0.0
    | r =>
      let parts ← (Text.split ':' r).mapM floatIn
      return sign (parts.reverse.foldl (fun (sum, base) p => (sum + p * base, base * 60.0)) (0.0, 1.0)).1

/-- What of a date is out of range, if anything: its zone is looked at first. -/
def Timestamp.error? (t : Timestamp) : Option TimeError :=
  let leap := t.year % 4 = 0 && (t.year % 100 ≠ 0 || t.year % 400 = 0)
  let last := [31, if leap then 29 else 28, 31, 30, 31, 30, 31, 31, 30, 31, 30, 31].getD (t.month - 1) 0
  let (hour, minute, second) := t.clock.getD (0, 0, 0)
  if 1440 ≤ t.ahead.natAbs then some (.zone t.ahead)
  else if t.year = 0 then some (.year t.year)
  else if t.month = 0 ∨ 12 < t.month then some .month
  else if t.day = 0 ∨ last < t.day then some .day
  else if 23 < hour then some .hour
  else if 59 < minute then some .minute
  else if 59 < second then some .second
  else none

def timestampOf (s : List Char) : Except ScalarError Timestamp :=
  match timestamp? s with
  | none => .error .notTimestamp
  | some t => match t.error? with
    | some e => .error (.outOfRange e)
    | none => .ok t

end Kind
end Socks5.Yaml
