import Socks5.Fault
import Socks5.Wire.Request

/-! Why a handshake comes to no good end. -/
namespace Socks5

/-- Where an endpoint is in the handshake. -/
inductive Phase where
  | new
  | authDone
  | requestDone
  | replied
  deriving DecidableEq, Repr

def Phase.name : Phase → String
  | new => "new"
  | authDone => "auth_done"
  | requestDone => "request_done"
  | replied => "replied"

inductive ChannelError where
  | ended (received expected : Nat)
  | closedForReading (expected : Nat)
  | closedForWriting
  | readFailed (expected : Nat) (cause : Fault)
  | writeFailed (cause : Fault)
  deriving Repr, BEq

namespace ChannelError

def message : ChannelError → String
  | ended received expected => s!"Stream ended after {received} of {expected} bytes"
  | closedForReading _ | closedForWriting => "Channel is closed"
  | readFailed _ cause => s!"Read failed: {cause.message}"
  | writeFailed cause => s!"Write failed: {cause.message}"

def expected? : ChannelError → Option Nat
  | ended _ n | closedForReading n | readFailed n _ => some n
  | closedForWriting | writeFailed _ => none

def received? : ChannelError → Option Nat
  | ended n _ => some n
  | closedForReading _ => some 0
  | closedForWriting | readFailed _ _ | writeFailed _ => none

end ChannelError

inductive Operation where
  | acceptAuthentication
  | readRequest
  | sendReply
  deriving DecidableEq, Repr

def Operation.name : Operation → String
  | acceptAuthentication => "accept_authentication"
  | readRequest => "read_request"
  | sendReply => "send_reply"

/-- The phase that an operation belongs to. -/
def Operation.phase : Operation → Phase
  | acceptAuthentication => .new
  | readRequest => .authDone
  | sendReply => .requestDone

/-- A call out of order. -/
inductive SequenceError where
  | wrongPhase (operation : Operation) (found : Phase)
  | refused
  deriving DecidableEq, Repr

def SequenceError.message : SequenceError → String
  | wrongPhase op found =>
    s!"{op.name}() called in phase {found.name}, expected {op.phase.name}"
  | refused => "read_request() called after authentication was refused"

inductive Failure where
  | version (found : UInt8)
  | channel (e : ChannelError)
  | hostName (raw : Bytes)
  | sequence (e : SequenceError)
  /-- A fault that nothing on its way takes for a failure of the channel. -/
  | fault (f : Fault)
  deriving Repr, BEq

namespace Failure

def message : Failure → String
  | version v => s!"Unsupported protocol version: 0x{String.ofList (Bytes.hexByte v)}"
  | channel e => e.message
  | hostName raw => s!"Domain name is not US-ASCII: {Text.quoteBytes raw}"
  | sequence e => e.message
  | fault f => f.message

def name : Failure → String
  | version _ => "ProtocolVersionError"
  | channel _ => "UnderlyingIOError"
  | hostName _ => "HostNameDecodeError"
  | sequence _ => "SequenceError"
  | fault f => f.kind.name

end Failure
end Socks5
