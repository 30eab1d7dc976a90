import Socks5.Address.V6

/-! Numeric addresses of both families. -/
namespace Socks5

inductive Address where
  | v4 (x : IPv4)
  | v6 (x : IPv6)
  deriving DecidableEq, Repr

namespace Address

def bytes : Address → Bytes
  | v4 x => x.bytes
  | v6 x => x.bytes

def text : Address → String
  | v4 x => String.ofList x.text
  | v6 x => String.ofList x.text

/-- The address that a text denotes, if it denotes one: a dotted quad, else an IPv6 text. -/
def parse? (s : List Char) : Option Address :=
  match IPv4.parse? s with
  | some x => some (v4 x)
  | none => (IPv6.parse? s).map v6

/-- The address without a scope, which has no place on the wire. -/
def unscoped : Address → Address
  | v4 x => v4 x
  | v6 x => v6 { x with scope := none }

@[simp] theorem bytes_unscoped (a : Address) : a.unscoped.bytes = a.bytes := by cases a <;> rfl

end Address
end Socks5
