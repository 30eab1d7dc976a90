import Socks5.Value

/-! A record's fields as loose values. Validation happens when a record is made; whoever sets a
field later may put anything there. -/
namespace Socks5

/-- What cannot be set on a record. -/
inductive AssignError where
  | unknown (record field : String)
  | computed (record field : String)
  deriving DecidableEq, Repr

def AssignError.message : AssignError → String
  | unknown record field => s!"\"{record}\" object has no field \"{field}\""
  | computed record field => s!"property '{field}' of '{record}' object has no setter"

structure Sheet where
  record : String
  fields : List (String × Value)
  /-- Names that are worked out from the fields, and cannot be set. -/
  computed : List String := []
  deriving Repr, BEq

namespace Sheet

def get (name : String) (s : Sheet) : Value := (s.fields.lookup name).getD .null

def put (name : String) (v : Value) : List (String × Value) → List (String × Value)
  | [] => []
  | (k, old) :: rest => (k, if k = name then v else old) :: put name v rest

/-- Sets a field that the record has. Names with a leading underscore are private to whoever uses
them and leave the fields alone. -/
def assign (name : String) (v : Value) (s : Sheet) : Except AssignError Sheet :=
  if name.startsWith "_" then .ok s
  else if s.computed.contains name then .error (.computed s.record name)
  else if (s.fields.lookup name).isSome then .ok { s with fields := put name v s.fields }
  else .error (.unknown s.record name)

end Sheet
end Socks5
