/-! The one-byte codes of the protocol. -/
namespace Socks5

/-- A code that is none of a kind's codes. -/
structure UnknownCode where
  kind : String
  code : Int
  deriving DecidableEq, Repr

def UnknownCode.message (e : UnknownCode) : String := s!"{e.code} is not a valid {e.kind}"

/-- The method that a server selects from a client's offer. -/
inductive AuthMethod where
  | noAuth
  | noAcceptable
  deriving DecidableEq, Repr, Inhabited

inductive Command where
  | connect
  | bind
  deriving DecidableEq, Repr, Inhabited

inductive AddressType where
  | ipv4
  | domainName
  | ipv6
  deriving DecidableEq, Repr, Inhabited

inductive ReplyCode where
  | success
  | generalFailure
  | rulesetDenied
  | networkUnreachable
  | hostUnreachable
  | connectionRefused
  | ttlExpired
  | commandNotSupported
  | addressTypeNotSupported
  deriving DecidableEq, Repr, Inhabited

/-! ## Codes -/

def AuthMethod.code : AuthMethod → UInt8
  | noAuth => 0
  | noAcceptable => 255

def Command.code : Command → UInt8
  | connect => 1
  | bind => 2

def AddressType.code : AddressType → UInt8
  | ipv4 => 1
  | domainName => 3
  | ipv6 => 4

def ReplyCode.code : ReplyCode → UInt8
  | success => 0
  | generalFailure => 1
  | rulesetDenied => 2
  | networkUnreachable => 3
  | hostUnreachable => 4
  | connectionRefused => 5
  | ttlExpired => 6
  | commandNotSupported => 7
  | addressTypeNotSupported => 8

def AuthMethod.all : List AuthMethod := [.noAuth, .noAcceptable]

def Command.all : List Command := [.connect, .bind]

def AddressType.all : List AddressType := [.ipv4, .domainName, .ipv6]

def ReplyCode.all : List ReplyCode :=
  [.success, .generalFailure, .rulesetDenied, .networkUnreachable, .hostUnreachable,
   .connectionRefused, .ttlExpired, .commandNotSupported, .addressTypeNotSupported]

def AuthMethod.ofCode? (n : Int) : Option AuthMethod := all.find? fun m => (m.code.toNat : Int) = n

def Command.ofCode? (n : Int) : Option Command := all.find? fun c => (c.code.toNat : Int) = n

def AddressType.ofCode? (n : Int) : Option AddressType := all.find? fun t => (t.code.toNat : Int) = n

def ReplyCode.ofCode? (n : Int) : Option ReplyCode := all.find? fun r => (r.code.toNat : Int) = n

def AuthMethod.ofCode (n : Int) : Except UnknownCode AuthMethod :=
  (ofCode? n).elim (.error ⟨"AuthMethod", n⟩) .ok

def AddressType.ofCode (n : Int) : Except UnknownCode AddressType :=
  (ofCode? n).elim (.error ⟨"AddressType", n⟩) .ok

def ReplyCode.ofCode (n : Int) : Except UnknownCode ReplyCode :=
  (ofCode? n).elim (.error ⟨"ResponseCode", n⟩) .ok

theorem Command.ofCode?_code (c : Command) : ofCode? c.code.toNat = some c := by cases c <;> rfl

theorem ReplyCode.ofCode?_code (r : ReplyCode) : ofCode? r.code.toNat = some r := by cases r <;> rfl

/-! ## Names -/

def AuthMethod.name : AuthMethod → String
  | noAuth => "NO_AUTH"
  | noAcceptable => "NO_ACCEPTABLE"

def Command.name : Command → String
  | connect => "CONNECT"
  | bind => "BIND"

def AddressType.name : AddressType → String
  | ipv4 => "IPV4"
  | domainName => "DOMAIN_NAME"
  | ipv6 => "IPV6"

def ReplyCode.name : ReplyCode → String
  | success => "SUCCESS"
  | generalFailure => "GENERAL_FAILURE"
  | rulesetDenied => "RULESET_DENIED"
  | networkUnreachable => "NETWORK_UNREACHABLE"
  | hostUnreachable => "HOST_UNREACHABLE"
  | connectionRefused => "CONNECTION_REFUSED"
  | ttlExpired => "TTL_EXPIRED"
  | commandNotSupported => "COMMAND_NOT_SUPPORTED"
  | addressTypeNotSupported => "ADDRESS_TYPE_NOT_SUPPORTED"

def Command.ofName? (s : String) : Option Command := all.find? (·.name = s)

def ReplyCode.ofName? (s : String) : Option ReplyCode := all.find? (·.name = s)

theorem ReplyCode.ofName?_name (r : ReplyCode) : ofName? r.name = some r := by cases r <;> rfl

end Socks5
