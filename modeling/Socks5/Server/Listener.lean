import Socks5.Log.Event
import Socks5.Server.Surroundings

/-! Opening and closing the sockets that clients come to. -/
namespace Socks5

/-- What is done to the listening sockets, in order. -/
inductive ListenAct where
  | listen (host : String) (port : Int)
  | close
  | waitClosed
  | enter
  | serve
  | leave
  deriving DecidableEq, Repr

/-- What the system makes of a try to listen: the addresses listened on, or a fault. -/
abbrev Opening := Except Fault (List (Value × Value))

/-- A socket that was opened to listen on some addresses. -/
structure Socket where
  addresses : List (Value × Value)
  closed : Bool := false
  deriving Repr, BEq

structure Listener where
  config : ServerConfig
  /-- All sockets that were opened; only the last of them is still in hand. -/
  sockets : List Socket := []
  running : Bool := false
  acts : List ListenAct := []
  log : List Event := []
  deriving Repr

namespace Listener

def act (as : List ListenAct) (l : Listener) : Listener := { l with acts := l.acts ++ as }

def note (text : String) (fields : List (String × Value)) (l : Listener) : Listener :=
  { l with log := l.log ++ [⟨.server, .info, text, fields⟩] }

def current? (l : Listener) : Option Socket := l.sockets.getLast?

/-- The first address of the socket in hand, or the one asked for where there is none. -/
def boundAddress (l : Listener) : Value × Value :=
  match l.current?.bind (·.addresses.head?) with
  | some a => a
  | none => (.text l.config.host, .int l.config.port)

def closeLast : List Socket → List Socket
  | [] => []
  | [s] => [{ s with closed := true }]
  | s :: ss => s :: closeLast ss

def start (o : Opening) (l : Listener) : Except Fault Unit × Listener :=
  let l := l.act [.listen l.config.host l.config.port]
  match o with
  | .error f => (.error f, l)
  | .ok addresses =>
    let l : Listener := { l with sockets := l.sockets ++ [{ addresses }], running := true }
    (.ok (), l.note "SOCKS5 server started" [("host", l.boundAddress.1), ("port", l.boundAddress.2)])

/-- A server that never listened can be stopped too. -/
def stop (l : Listener) : Listener :=
  let l : Listener := { l with running := false, sockets := closeLast l.sockets }
  let l := if l.sockets.isEmpty then l else l.act [.close, .waitClosed]
  l.note "SOCKS5 server stopped" []

/-- Serves until the socket in hand is done with, opening one before if need be. This is a call as a whole, which
lasts as long as it serves: what else is called meanwhile is left out, and so is the error of a call for a socket
that is closed or that another call serves already. -/
def serve (o : Opening) (l : Listener) : Except Fault Unit × Listener :=
  let (r, l) := if l.sockets.isEmpty then l.start o else (.ok (), l)
  match r with
  | .error f => (.error f, l)
  | .ok () =>
    let l : Listener := { l with sockets := closeLast l.sockets }
    (.ok (), l.act [.enter, .serve, .leave])

end Listener
end Socks5
