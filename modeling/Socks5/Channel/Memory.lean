import Socks5.Failure

/-! A channel over bytes captured before. -/
namespace Socks5

/-- What came of a try to read. -/
inductive Attempt (α : Type) where
  | done (a : α)
  | failed (e : Failure)
  | waiting
  deriving Repr

namespace Channel

structure Memory where
  unread : Bytes := []
  written : Bytes := []
  closed : Bool := false
  deriving DecidableEq, Repr

namespace Memory

/-- What is too short for the read is lost with it. -/
def readExact (n : Nat) (c : Memory) : Attempt Bytes × Memory :=
  if c.closed then (.failed (.channel (.closedForReading n)), c)
  else if c.unread.length < n then
    (.failed (.channel (.ended c.unread.length n)), { c with unread := [] })
  else (.done (c.unread.take n), { c with unread := c.unread.drop n })

def writeAll (bs : Bytes) (c : Memory) : Except Failure Unit × Memory :=
  if c.closed then (.error (.channel .closedForWriting), c)
  else (.ok (), { c with written := c.written ++ bs })

def close (c : Memory) : Memory := { c with closed := true }

/-- A captured input never makes anyone wait. -/
theorem readExact_ne_waiting (n : Nat) (c : Memory) : (c.readExact n).1 ≠ .waiting := by
  unfold readExact; repeat' split
  all_goals simp

end Memory
end Channel
end Socks5
