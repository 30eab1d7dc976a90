import Socks5.Address
import Socks5.Text.Quoted
import Socks5.Wire.Code

/-! Requests, and the messages of both sides as bytes. -/
namespace Socks5

def version : UInt8 := 5

/-- Where a client wants to go: a numeric address or a host name. -/
inductive Target where
  | address (a : Address)
  | name (s : String)
  deriving DecidableEq, Repr

/-- The text that the target is dialled by. -/
def Target.text : Target → String
  | address a => a.text
  | name s => s

/-- A request as it was read. An unknown command and a target that was not read are left out. -/
structure Request where
  command : Option Command := none
  target : Option Target := none
  port : UInt16 := 0
  deriving DecidableEq, Repr

namespace Request

def address? (r : Request) : Option Address :=
  match r.target with
  | some (.address a) => some a
  | _ => none

def hostName? (r : Request) : Option String :=
  match r.target with
  | some (.name s) => some s
  | _ => none

def targetText? (r : Request) : Option String := r.target.map Target.text

end Request

/-! ## Messages of the server -/

def AuthMethod.encode (m : AuthMethod) : Bytes := [version, m.code]

/-- The reply tells nothing of the bound address: it is always 0.0.0.0 with port 0. -/
def ReplyCode.encode (r : ReplyCode) : Bytes := [version, r.code, 0, AddressType.ipv4.code, 0, 0, 0, 0, 0, 0]

theorem ReplyCode.encode_inj {r r' : ReplyCode} (h : r.encode = r'.encode) : r = r' := by
  cases r <;> cases r' <;> first | rfl | exact absurd h (by decide)

/-! ## Messages of the client -/

inductive EncodeError where
  | invalidPort (port : Int)
  /-- A run of characters outside ASCII: its first character, its start and its length. -/
  | notAscii (first : Char) (start length : Nat)
  | nameTooLong (length : Nat)
  deriving DecidableEq, Repr

def EncodeError.message : EncodeError → String
  | invalidPort n => s!"Invalid port: {n}"
  | notAscii c start length =>
    let what := if length = 1
      then s!"character '{String.ofList (Text.escapeCode c.toNat)}' in position {start}"
      else s!"characters in position {start}-{start + length - 1}"
    s!"'ascii' codec can't encode {what}: ordinal not in range(128)"
  | nameTooLong n => s!"Domain name too long: {n} bytes"

def isAscii (c : Char) : Bool := c.toNat < 128

/-- The bytes of a text that is all ASCII, or its first run of other characters. -/
def asciiBytes (s : List Char) : Except EncodeError Bytes :=
  match s.dropWhile isAscii with
  | [] => .ok (s.map fun c => UInt8.ofNat c.toNat)
  | c :: rest =>
    .error (.notAscii c (s.takeWhile isAscii).length ((rest.takeWhile (!isAscii ·)).length + 1))

def encodeName (s : List Char) : Except EncodeError Bytes := do
  let bs ← asciiBytes s
  if bs.length ≤ 255 then .ok (AddressType.domainName.code :: UInt8.ofNat bs.length :: bs)
  else .error (.nameTooLong bs.length)

/-- A literal goes as the address that it denotes, any other host as a name. -/
def encodeHost (host : String) : Except EncodeError Bytes :=
  match Address.parse? host.toList with
  | some (.v4 x) => .ok (AddressType.ipv4.code :: x.bytes)
  | some (.v6 x) => .ok (AddressType.ipv6.code :: x.bytes)
  | none => encodeName host.toList

def encodeRequest (command : Command) (host : String) (port : Int) : Except EncodeError Bytes :=
  if 0 ≤ port ∧ port ≤ 65535 then do
    let target ← encodeHost host
    return version :: command.code :: 0 :: target ++ Bytes.ofWord port.toNat
  else .error (.invalidPort port)

end Socks5
