import Socks5.Endpoint.Handshake

/-! What is done with an endpoint in the course of time. Calls of it come one after another, and reads
and writes of its channel between them. A call that has to wait is resumed later, or it is abandoned, at
the latest when the next one comes; and the channel changes by itself. -/
namespace Socks5

variable {χ : Type} [Duplex χ]

/-- Goes on with a call from the stage at which it waits. -/
def Call.resume : Call → Stage → Session χ → Progress χ Answer
  | acceptAuthentication, .offer st, s => (s.resumeOffer st).answer .flag
  | readRequest, .request st, s => (s.resumeRequest st).answer .flag
  | handshake, stage, s => (s.resumeHandshake stage).answer .request
  | _, stage, s => .waiting stage s

/-- What is asked of an endpoint, or of its channel. -/
inductive Ask where
  | call (c : Call)
  | read (n : Nat)
  | write (bs : Bytes)
  deriving DecidableEq, Repr

/-- What is given back. -/
inductive Given where
  | answer (a : Answer)
  | bytes (bs : Bytes)
  | nothing
  deriving DecidableEq, Repr

structure Usage (χ : Type) where
  session : Session χ
  /-- The call that waits, and the stage that it waits at. -/
  pending : Option (Call × Stage) := none
  /-- What came of everything that was asked and is over; what was abandoned is still waiting. -/
  outcomes : List (Ask × Attempt Given) := []

namespace Usage

/-- What was asked is over. -/
def settle (a : Ask) (r : Attempt Given) (s : Session χ) (u : Usage χ) : Usage χ :=
  ⟨s, none, u.outcomes ++ [(a, r)]⟩

def proceed (c : Call) (u : Usage χ) : Progress χ Answer → Usage χ
  | .waiting stage s => { u with session := s, pending := some (c, stage) }
  | .raised e s => u.settle (.call c) (.failed e) s
  | .returned a s => u.settle (.call c) (.done (.answer a)) s

def resume (u : Usage χ) : Usage χ :=
  match u.pending with
  | none => u
  | some (c, stage) => u.proceed c (c.resume stage u.session)

def abandon (u : Usage χ) : Usage χ :=
  match u.pending with
  | none => u
  | some (c, _) => u.settle (.call c) .waiting u.session

/-- A read of the channel itself that would have to wait is given up at once. -/
def ask (a : Ask) (u : Usage χ) : Usage χ :=
  let u := u.abandon
  match a with
  | .call c => u.proceed c (c.run u.session)
  | .read n =>
    let (r, c) := Duplex.readExact n u.session.channel
    let given : Attempt Given := match r with
      | .done bs => .done (.bytes bs)
      | .failed e => .failed e
      | .waiting => .waiting
    u.settle a given { u.session with channel := c }
  | .write bs =>
    let (r, c) := Duplex.writeAll bs u.session.channel
    let given : Attempt Given := match r with
      | .ok () => .done .nothing
      | .error e => .failed e
    u.settle a given { u.session with channel := c }

theorem ask_call (c : Call) (u : Usage χ) :
    u.ask (.call c) = u.abandon.proceed c (c.run u.abandon.session) := rfl

end Usage

/-! ## Runs -/

inductive Use (χ : Type) where
  | ask (a : Ask)
  | resume
  | abandon
  /-- Something arrives, or a fault comes or goes. -/
  | change (f : χ → χ)

namespace Usage

def step (u : Usage χ) : Use χ → Usage χ
  | .ask a => u.ask a
  | .resume => u.resume
  | .abandon => u.abandon
  | .change f => { u with session := { u.session with channel := f u.session.channel } }

def runAll (u : Usage χ) (uses : List (Use χ)) : Usage χ := uses.foldl step u

/-- A new endpoint over a channel. -/
def fresh (c : χ) : Usage χ := { session := { channel := c } }

end Usage
end Socks5
