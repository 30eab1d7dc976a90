import Socks5.Channel

/-! The server side of one handshake: its state, and how a call of it proceeds. A call that needs
more bytes than are there stops at a stage and goes on from it later; the fields that it has read by
then stay read. -/
namespace Socks5

structure Endpoint where
  phase : Phase := .new
  authAccepted : Bool := false
  request : Option Request := none
  rejection : Option ReplyCode := none
  deriving DecidableEq, Repr

/-- The reply that fits what was read. -/
def Endpoint.suggestedReply (e : Endpoint) : ReplyCode := e.rejection.getD .success

/-- One thing that a session does: it takes bytes from its channel, hands bytes to it, which may
fail, or notes an event. -/
inductive Move where
  | took (bs : Bytes)
  | wrote (bs : Bytes) (failure : Option Failure)
  | noted (e : Event)
  deriving Repr, BEq

def Move.event? : Move → Option Event
  | noted e => some e
  | took _ | wrote _ _ => none

/-- An endpoint, its channel, and what was done so far. -/
structure Session (χ : Type) where
  endpoint : Endpoint := {}
  channel : χ
  trace : List Move := []
  deriving Repr

/-- The events noted so far. -/
def Session.log {χ : Type} (s : Session χ) : List Event := s.trace.filterMap Move.event?

/-! ## Stages -/

/-- Which part of the method offer is read next. -/
inductive OfferStage where
  | version
  | count
  | methods (count : Nat)
  deriving DecidableEq, Repr

/-- The fixed bytes of a request behind its version. -/
structure Head where
  command : UInt8
  reserved : UInt8
  deriving DecidableEq, Repr

/-- Which part of the request is read next. -/
inductive RequestStage where
  | version
  | head
  | ipv4 (head : Head)
  | nameLength (head : Head)
  | name (head : Head) (length : Nat)
  | ipv6 (head : Head)
  | port (head : Head) (target : Target)
  deriving DecidableEq, Repr

inductive Stage where
  | offer (s : OfferStage)
  | request (s : RequestStage)
  deriving DecidableEq, Repr

/-- How many bytes a stage waits for. -/
def Stage.need : Stage → Nat
  | .offer .version | .offer .count => 1
  | .offer (.methods n) => n
  | .request .version | .request (.nameLength _) => 1
  | .request .head => 3
  | .request (.ipv4 _) => 4
  | .request (.name _ n) => n
  | .request (.ipv6 _) => 16
  | .request (.port _ _) => 2

/-! ## Progress of a call -/

inductive Progress (χ α : Type) where
  | waiting (stage : Stage) (s : Session χ)
  | raised (e : Failure) (s : Session χ)
  | returned (a : α) (s : Session χ)
  deriving Repr

variable {χ α β : Type}

namespace Progress

def session : Progress χ α → Session χ
  | waiting _ s | raised _ s | returned _ s => s

def andThen (p : Progress χ α) (next : α → Session χ → Progress χ β) : Progress χ β :=
  match p with
  | waiting stage s => waiting stage s
  | raised e s => raised e s
  | returned a s => next a s

theorem andThen_assoc {γ : Type} (p : Progress χ α) (f : α → Session χ → Progress χ β)
    (g : β → Session χ → Progress χ γ) :
    (p.andThen f).andThen g = p.andThen fun a s => (f a s).andThen g := by
  cases p <;> rfl

end Progress

namespace Session

/-- Goes on with the channel as it is after some moves. -/
def move (ms : List Move) (c : χ) (s : Session χ) : Session χ :=
  { s with channel := c, trace := s.trace ++ ms }

def noteAll (es : List Event) (s : Session χ) : Session χ := s.move (es.map .noted) s.channel

def note (level : Level) (text : String) (fields : List (String × Value)) (s : Session χ) :
    Session χ :=
  s.noteAll [⟨.endpoint, level, text, fields⟩]

@[simp] theorem endpoint_move (ms : List Move) (c : χ) (s : Session χ) :
    (s.move ms c).endpoint = s.endpoint := rfl

@[simp] theorem channel_move (ms : List Move) (c : χ) (s : Session χ) :
    (s.move ms c).channel = c := rfl

@[simp] theorem endpoint_note (level : Level) (text : String) (fields : List (String × Value))
    (s : Session χ) : (s.note level text fields).endpoint = s.endpoint := rfl

@[simp] theorem channel_note (level : Level) (text : String) (fields : List (String × Value))
    (s : Session χ) : (s.note level text fields).channel = s.channel := rfl

/-- Reads what the stage needs and goes on with it. -/
def read [Duplex χ] (stage : Stage) (next : Bytes → Session χ → Progress χ α) (s : Session χ) :
    Progress χ α :=
  let (a, c) := Duplex.readExact stage.need s.channel
  match a with
  | .waiting => .waiting stage (s.move [] c)
  | .failed e => .raised e (s.move [] c)
  | .done bs => next bs (s.move [.took bs] c)

def write [Duplex χ] (bs : Bytes) (s : Session χ) : Progress χ Unit :=
  let (r, c) := Duplex.writeAll bs s.channel
  match r with
  | .error e => .raised e (s.move [.wrote bs (some e)] c)
  | .ok () => .returned () (s.move [.wrote bs none] c)

def readVersion [Duplex χ] (stage : Stage) (next : Session χ → Progress χ α) (s : Session χ) :
    Progress χ α :=
  s.read stage fun bs s =>
    let found := bs.headD 0
    if found = version then next s
    else .raised (.version found)
      (s.note .warning "Invalid SOCKS version" [("version", .int found.toNat)])

/-- Starts an operation in its own phase only. -/
def inPhase (op : Operation) (run : Session χ → Progress χ α) (s : Session χ) : Progress χ α :=
  if s.endpoint.phase = op.phase then run s
  else .raised (.sequence (.wrongPhase op s.endpoint.phase)) s

end Session
end Socks5
