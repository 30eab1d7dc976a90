import Socks5.Channel.Memory
import Socks5.Log.Event

/-! A channel over a connection: bytes come in while it is read, and either side may fail. -/
namespace Socks5.Channel

structure Stream where
  unread : Bytes := []
  ended : Bool := false
  /-- Met by every read from the moment it is set, bytes at hand or not. -/
  readFault : Option Fault := none
  written : Bytes := []
  writeFault : Option Fault := none
  closeFault : Option Fault := none
  closed : Bool := false
  deriving Repr, BEq

namespace Stream

/-! ## What the other side does -/

def feed (bs : Bytes) (c : Stream) : Stream := { c with unread := c.unread ++ bs }

def finish (c : Stream) : Stream := { c with ended := true }

/-! ## Reading and writing -/

/-- Faults of the system are failures of the channel; others pass through as they are. -/
def readFailure (n : Nat) (f : Fault) : Failure :=
  if f.kind.isSystem then .channel (.readFailed n f) else .fault f

def writeFailure (f : Fault) : Failure :=
  if f.kind.isSystem then .channel (.writeFailed f) else .fault f

def readExact (n : Nat) (c : Stream) : Attempt Bytes × Stream :=
  match c.readFault with
  | some f => (.failed (readFailure n f), c)
  | none =>
    if n ≤ c.unread.length then (.done (c.unread.take n), { c with unread := c.unread.drop n })
    else if c.ended then (.failed (.channel (.ended c.unread.length n)), { c with unread := [] })
    else (.waiting, c)

/-- Up to `n` bytes, as soon as there is at least one, and none at the end. -/
def readSome (n : Nat) (c : Stream) : Attempt Bytes × Stream :=
  match c.readFault with
  | some f => (.failed (.fault f), c)
  | none =>
    if c.unread = [] ∧ !c.ended then (.waiting, c)
    else (.done (c.unread.take n), { c with unread := c.unread.drop n })

/-- The bytes are handed over before a fault shows. -/
def writeAll (bs : Bytes) (c : Stream) : Except Failure Unit × Stream :=
  let c := { c with written := c.written ++ bs }
  match c.writeFault with
  | some f => (.error (writeFailure f), c)
  | none => (.ok (), c)

/-! ## Closing -/

def close (c : Stream) : Stream := { c with closed := true }

def closeEvent (f : Fault) : Event :=
  ⟨.channel, .debug, "Error while closing stream", [("error", .text f.message)]⟩

/-- Closes the connection. A fault of the system meanwhile is only noted. -/
def waitClosed (c : Stream) : Except Failure Unit × List Event × Stream :=
  match c.closeFault with
  | none => (.ok (), [], c.close)
  | some f => if f.kind.isSystem then (.ok (), [closeEvent f], c.close) else (.error (.fault f), [], c.close)

@[simp] theorem closed_waitClosed (c : Stream) : c.waitClosed.2.2.closed = true := by
  unfold waitClosed; repeat' split
  all_goals rfl

end Stream
end Socks5.Channel
