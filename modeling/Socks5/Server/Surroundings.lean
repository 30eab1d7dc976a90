import Socks5.Channel.Stream
import Socks5.Connection

/-! What a server is set up with, and what it meets: the network, the relay that takes over its
connections, and a callback that watches them. -/
namespace Socks5

/-- Seconds. -/
abbrev Time := Rat

/-- How long something may take; `none` is for ever. -/
abbrev Timeout := Option Time

structure ServerConfig where
  host : String := "127.0.0.1"
  port : Int := 1080
  handshakeTimeout : Timeout := some 30
  connectTimeout : Timeout := some 30
  maxConnections : Int := 100
  allowed : List Command := [.connect]
  deriving Repr

/-- No command at all stands for the usual one. -/
def ServerConfig.allowing (commands : List Command) : List Command :=
  if commands = [] then [.connect] else commands

/-- The two channels of a connection. -/
inductive Side where
  | client
  | target
  deriving DecidableEq, Repr

def Side.other : Side → Side
  | client => target
  | target => client

/-- What a relay does with the channels of a connection. What it does next depends on what it reads
and on what fails; a relay that works in rounds is as many of them as there can be. -/
inductive Relay where
  | done
  | raise (e : Failure)
  /-- Waits until it is released. -/
  | hold (next : Relay)
  /-- Reads at most so many bytes. -/
  | receive (source : Side) (limit : Nat) (next : Except Failure Bytes → Relay)
  | send (dest : Side) (bs : Bytes) (next : Except Failure Unit → Relay)

/-- A write that goes on if it does not fail. -/
def Relay.push (dest : Side) (bs : Bytes) (next : Relay) : Relay :=
  .send dest bs fun
    | .error e => .raise e
    | .ok () => next

/-- Passes on what one read gives. -/
def Relay.pass (source : Side) (limit : Nat) (next : Relay) : Relay :=
  .receive source limit fun
    | .error e => .raise e
    | .ok bs => .push source.other bs next

/-- What a callback does that is told of a connection. It may wait any number of times before it returns or raises. -/
inductive Watch where
  | done
  | raise (f : Fault)
  /-- Waits until it is released. -/
  | hold (next : Watch)

/-- A callback that returns or raises at once. -/
def Watch.ofFault? : Option Fault → Watch
  | none => done
  | some f => raise f

/-- What a callback raises in the end, if it does. -/
def Watch.fault? : Watch → Option Fault
  | done => none
  | raise f => some f
  | hold next => next.fault?

/-- What waits for a release of its own. -/
inductive Held where
  | callback
  | relay
  deriving DecidableEq, Repr

/-- What a dial comes to. -/
inductive Route where
  | refuses (f : Fault)
  | hangs
  | opens (outbound : Channel.Stream)
  deriving Repr, BEq

structure Surroundings where
  /-- By the text that a target is dialled by, and the port. -/
  network : String → UInt16 → Route
  relay : ConnectionInfo → Relay := fun _ => .done
  callback : Option (ConnectionInfo → Watch) := none

end Socks5
