import Socks5.Server.Handler
import Socks5.Server.Registry

/-! The server's clients together: which of them are let in, and which goes on when bytes come, when
a callback or a relay is released, or when time passes. -/
namespace Socks5

/-- A client that came: its handler, unless it was turned away at the door. -/
inductive Client where
  | handled (h : Handler)
  | turnedAway (channel : Channel.Stream) (outcome : Outcome)

namespace Client

def channel : Client → Channel.Stream
  | handled h => h.client
  | turnedAway c _ => c

/-- What came of the client, once it has ended. -/
def outcome? : Client → Option Outcome
  | handled h => match h.control with
    | .ended o => some o
    | _ => none
  | turnedAway _ o => some o

def handler? : Client → Option Handler
  | handled h => some h
  | turnedAway _ _ => none

end Client

structure Server where
  config : ServerConfig := {}
  clients : List Client := []
  registry : Registry := []
  now : Time := 0
  /-- What need not hold, of which clients. -/
  released : List (Held × String) := []
  /-- The clients with a channel to their target, in the order in which these were opened. -/
  dialled : List Nat := []
  /-- What happened, with the number of the client that it happened for. -/
  history : List (Nat × Happening) := []

/-- What the other side of a client's channel does. -/
inductive Incoming where
  | bytes (bs : Bytes)
  | finish
  | readFault (f : Fault)
  | writeFault (f : Fault)
  deriving Repr

def Incoming.apply : Incoming → Channel.Stream → Channel.Stream
  | bytes bs, c => c.feed bs
  | finish, c => c.finish
  | readFault f, c => { c with readFault := some f }
  | writeFault f, c => { c with writeFault := some f }

def Client.receive (i : Incoming) : Client → Client
  | handled h => handled { h with session := { h.session with channel := i.apply h.client } }
  | turnedAway c o => turnedAway (i.apply c) o

/-- The two parts of a client's address, which need not be known. -/
abbrev Peer := Option (Value × Value)

def Peer.parts (p : Peer) : Value × Value := p.getD (.text "unknown", .int 0)

def Peer.label (p : Peer) : String := p.parts.1.display ++ ":" ++ p.parts.2.display

def Peer.info (p : Peer) : Except Invalid ConnectionInfo :=
  ConnectionInfo.ofFields [("client_address", .text p.parts.1.display), ("client_port", p.parts.2)]

/-- A client that comes: who it is, what it has sent already, and the faults that it has in store. -/
structure Arrival where
  peer : Peer := none
  sent : Bytes := []
  ended : Bool := false
  readFault : Option Fault := none
  writeFault : Option Fault := none
  closeFault : Option Fault := none
  deriving Repr

/-- The channel of a client, on which nothing was written yet. -/
def Arrival.channel (a : Arrival) : Channel.Stream where
  unread := a.sent
  ended := a.ended
  readFault := a.readFault
  writeFault := a.writeFault
  closeFault := a.closeFault

namespace Server

/-- The connections that a monitor sees, in the order of the registry. -/
def connections (s : Server) : List ConnectionInfo :=
  s.registry.filterMap fun (_, id) => (s.clients[id]?.bind Client.handler?).map Handler.info

def active (s : Server) : Nat := s.registry.length

def moment (w : Surroundings) (s : Server) : Moment := ⟨s.config, w, s.now, s.active, s.released⟩

def log (s : Server) : List Event := s.history.filterMap (·.2.event?)

def acts (s : Server) : List Act := s.history.filterMap (·.2.act?)

/-- What happened for one client. -/
def historyOf (id : Nat) (s : Server) : List Happening :=
  (s.history.filter (·.1 = id)).map Prod.snd

def note (id : Nat) (es : List Event) (s : Server) : Server :=
  { s with history := s.history ++ es.map fun e => (id, .noted e) }

/-! ## One client -/

/-- Takes in what a handler did; one that has ended leaves the registry. -/
def absorb (id : Nat) (h : Handler) (s : Server) : Server :=
  { s with
    registry := if h.isEnded then s.registry.leave h.label else s.registry
    dialled := if h.outbound.isSome ∧ id ∉ s.dialled then s.dialled ++ [id] else s.dialled
    history := s.history ++ h.history.map (id, ·) }

/-- Lets a handler that has not ended do something. -/
def run (id : Nat) (f : Handler → Handler) (s : Server) : Server :=
  match s.clients[id]?.bind Client.handler? with
  | some h =>
    if h.isEnded then s
    else ({ s with clients := s.clients.set id (.handled (f h).forgetful) } : Server).absorb id (f h)
  | none => s

def resume (w : Surroundings) (id : Nat) (s : Server) : Server := s.run id (Handler.resume (s.moment w))

def turnAway (c : Channel.Stream) (o : Outcome) (es : List Event) (s : Server) : Server :=
  note s.clients.length es { s with clients := s.clients ++ [.turnedAway c o] }

/-- Lets a client in and serves it as far as its bytes allow. -/
def accept (w : Surroundings) (label : String) (info : ConnectionInfo) (c : Channel.Stream)
    (s : Server) : Server :=
  let id := s.clients.length
  let s : Server := { s with registry := s.registry.enter label id }
  let h := Handler.start (s.moment w) label info { channel := c }
  ({ s with clients := s.clients ++ [.handled h.forgetful] } : Server).absorb id h

def limitReached (label : String) (limit : Int) : Event :=
  ⟨.server, .warning, "Connection limit reached", [("client", .text label), ("limit", .int limit)]⟩

def newConnection (label : String) : Event :=
  ⟨.server, .debug, "New connection", [("client", .text label)]⟩

/-- A client is let in, or turned away because there is no room or it has no proper address. -/
def connect (w : Surroundings) (a : Arrival) (s : Server) : Server :=
  let label := a.peer.label
  if s.config.maxConnections ≤ s.active then
    let (r, es, c) := a.channel.waitClosed
    let outcome : Outcome := match r with
      | .ok () => .returned
      | .error e => .failed e
    s.turnAway c outcome (limitReached label s.config.maxConnections :: es)
  else
    let s := s.note s.clients.length [newConnection label]
    match a.peer.info with
    | .error e => s.turnAway a.channel (.invalid e) []
    | .ok info => s.accept w label info a.channel

/-- Something arrives on a client's channel, whatever state the client is in. -/
def receive (w : Surroundings) (id : Nat) (i : Incoming) (s : Server) : Server :=
  ({ s with clients := s.clients.modify id (Client.receive i) }).resume w id

/-! ## All clients -/

/-- The callback or the relay of a client may go on, now or when it starts. -/
def release (w : Surroundings) (held : Held) (client : String) (s : Server) : Server :=
  (List.range s.clients.length).foldl (fun s id => s.resume w id)
    { s with released := s.released.insert (held, client) }

/-- The clients whose timers have run out, with these timers. -/
def due (s : Server) : List (Timer × Nat) :=
  (List.range s.clients.length).filterMap fun id => do
    let t ← (← s.clients[id]?.bind Client.handler?).timer?
    if t.due ≤ s.now then some (t, id) else none

/-- Earlier timers come first, and of those due together the ones set earlier. -/
def Timer.before (a b : Timer) : Bool := a.due < b.due || (a.due = b.due && a.since ≤ b.since)

def advance (span : Time) (s : Server) : Server :=
  let s := { s with now := s.now + span }
  (s.due.mergeSort fun a b => Timer.before a.1 b.1).foldl (fun s t => s.run t.2 Handler.expire) s

end Server

/-! ## Runs -/

inductive Server.Input where
  | connect (a : Arrival)
  | receive (client : Nat) (i : Incoming)
  | release (held : Held) (client : String)
  | advance (span : Time)
  deriving Repr

def Server.step (w : Surroundings) (s : Server) : Server.Input → Server
  | .connect a => s.connect w a
  | .receive id i => s.receive w id i
  | .release held client => s.release w held client
  | .advance span => s.advance span

def Server.runAll (w : Surroundings) (s : Server) (inputs : List Server.Input) : Server :=
  inputs.foldl (step w) s

end Socks5
