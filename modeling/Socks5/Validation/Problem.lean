import Socks5.Value

/-! What can be wrong with a value that is given for a field, and how that is worded. -/
namespace Socks5

inductive Problem where
  | missing
  | notText
  | notUtf8
  | notInteger
  | integerUnreadable
  | integerTooLong
  | fractional
  | notFinite
  | notNumber
  | numberUnreadable
  | notBool
  | boolUnreadable
  | below (bound : Int)
  | above (bound : Int)
  | notGreater (bound : Int)
  /-- None of the codes that are allowed. -/
  | notAmong (codes : List Nat)
  | notIPv4
  | notIPv6
  | notRecord (name : String)
  | frozen
  /-- A check of the field's own, with its text. -/
  | refused (reason : String)
  deriving DecidableEq, Repr

namespace Problem

def kind : Problem → String
  | missing => "missing"
  | notText => "string_type"
  | notUtf8 => "string_unicode"
  | notInteger => "int_type"
  | integerUnreadable => "int_parsing"
  | integerTooLong => "int_parsing_size"
  | fractional => "int_from_float"
  | notFinite => "finite_number"
  | notNumber => "float_type"
  | numberUnreadable => "float_parsing"
  | notBool => "bool_type"
  | boolUnreadable => "bool_parsing"
  | below _ => "greater_than_equal"
  | above _ => "less_than_equal"
  | notGreater _ => "greater_than"
  | notAmong _ => "enum"
  | notIPv4 => "ip_v4_address"
  | notIPv6 => "ip_v6_address"
  | notRecord _ => "model_type"
  | frozen => "frozen_instance"
  | refused _ => "value_error"

/-- The choices of a list, with "or" before the last. -/
def choices : List Nat → String
  | [] => ""
  | [n] => toString n
  | [n, m] => s!"{n} or {m}"
  | n :: ns => s!"{n}, {choices ns}"

def message : Problem → String
  | missing => "Field required"
  | notText => "Input should be a valid string"
  | notUtf8 => "Input should be a valid string, unable to parse raw data as a unicode string"
  | notInteger => "Input should be a valid integer"
  | integerUnreadable => "Input should be a valid integer, unable to parse string as an integer"
  | integerTooLong => "Unable to parse input string as an integer, exceeded maximum size"
  | fractional => "Input should be a valid integer, got a number with a fractional part"
  | notFinite => "Input should be a finite number"
  | notNumber => "Input should be a valid number"
  | numberUnreadable => "Input should be a valid number, unable to parse string as a number"
  | notBool => "Input should be a valid boolean"
  | boolUnreadable => "Input should be a valid boolean, unable to interpret input"
  | below n => s!"Input should be greater than or equal to {n}"
  | above n => s!"Input should be less than or equal to {n}"
  | notGreater n => s!"Input should be greater than {n}"
  | notAmong codes => s!"Input should be {choices codes}"
  | notIPv4 => "Input is not a valid IPv4 address"
  | notIPv6 => "Input is not a valid IPv6 address"
  | notRecord name => s!"Input should be a valid dictionary or instance of {name}"
  | frozen => "Instance is frozen"
  | refused reason => s!"Value error, {reason}"

end Problem

/-- A problem with the place and the value that it is about. -/
structure Complaint where
  place : List String
  problem : Problem
  input : Value
  deriving Repr, BEq

/-- A record that was refused, with all that is wrong with it. -/
structure Invalid where
  record : String
  complaints : List Complaint
  deriving Repr, BEq

/-! ## The report of a refused record -/

/-- A long value is cut in the middle. -/
def abridge (s : String) : String :=
  let cs := s.toList
  if cs.length ≤ 50 then s
  else String.ofList (cs.take 25) ++ "..." ++ String.ofList (cs.drop (cs.length - 24))

def Complaint.lines (manual : String) (c : Complaint) : List String :=
  let detail := s!"[type={c.problem.kind}, input_value={abridge c.input.shown}, input_type={c.input.kind}]"
  (if c.place = [] then [] else [".".intercalate c.place]) ++
    [s!"  {c.problem.message} {detail}", s!"    For further information visit {manual}{c.problem.kind}"]

def Invalid.report (manual : String) (e : Invalid) : String :=
  let n := e.complaints.length
  let plural := if n = 1 then "" else "s"
  let head := s!"{n} validation error{plural} for {e.record}"
  "\n".intercalate (head :: e.complaints.flatMap (Complaint.lines manual))

end Socks5
