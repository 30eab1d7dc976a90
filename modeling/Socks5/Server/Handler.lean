import Socks5.Endpoint.Handshake
import Socks5.Server.Surroundings

/-! One client of the server: its handshake, the dial to its target, the callback, the relay, and the end. A
handler runs until it has to wait, for bytes or for a release or for a dial, and goes on from
there. -/
namespace Socks5

/-- What a handler does to its surroundings, in order. -/
inductive Act where
  | dial (host : String) (port : UInt16)
  | callback (info : ConnectionInfo) (active : Nat)
  | callbackDone (client : String)
  | relay (info : ConnectionInfo)
  /-- The relay writes to one of its channels. -/
  | relayed (side : Side) (bs : Bytes)
  | relayDone (client : String)
  deriving DecidableEq, Repr

inductive Outcome where
  | returned
  | failed (e : Failure)
  /-- The client's own address made no record. -/
  | invalid (e : Invalid)
  deriving Repr, BEq

/-- What a handler waits for. A timer is the time at which waiting ends, and when it was set. -/
structure Timer where
  due : Time
  since : Time
  deriving DecidableEq, Repr

inductive Control where
  | handshaking (stage : Stage) (timer : Option Timer)
  | dialling (timer : Option Timer)
  /-- The callback was told of the connection and has not returned. -/
  | watched (rest : Watch)
  | relaying (rest : Relay)
  | ended (outcome : Outcome)

/-- What there is to tell of a handler or a server, in order. -/
inductive Happening where
  | moved (m : Move)
  | did (a : Act)
  deriving Repr, BEq

abbrev Happening.noted (e : Event) : Happening := moved (.noted e)

def Happening.event? : Happening → Option Event
  | moved m => m.event?
  | did _ => none

def Happening.act? : Happening → Option Act
  | moved _ => none
  | did a => some a

structure Handler where
  label : String
  info : ConnectionInfo
  session : Session Channel.Stream
  outbound : Option Channel.Stream := none
  /-- What happened up to the last act. -/
  past : List Happening := []
  control : Control

/-- What a handler sees of the server while it runs. -/
structure Moment where
  config : ServerConfig
  surroundings : Surroundings
  now : Time := 0
  active : Nat := 0
  /-- What was released of which client. -/
  released : List (Held × String) := []

/-- The timer of something that starts now, unless it may take for ever. -/
def Moment.timer (m : Moment) (limit : Timeout) : Option Timer :=
  limit.map fun t => ⟨m.now + t, m.now⟩

/-- No time at all is left for something that has not started. -/
def Timeout.isSpent (limit : Timeout) : Bool :=
  match limit with
  | some t => t ≤ 0
  | none => false

namespace Handler

def client (h : Handler) : Channel.Stream := h.session.channel

def isEnded (h : Handler) : Bool :=
  match h.control with
  | .ended _ => true
  | _ => false

def timer? (h : Handler) : Option Timer :=
  match h.control with
  | .handshaking _ t | .dialling t => t
  | _ => none

def history (h : Handler) : List Happening := h.past ++ h.session.trace.map .moved

/-- What happened so far is left to others to keep. -/
def forgetful (h : Handler) : Handler := { h with past := [], session := { h.session with trace := [] } }

def noteAll (es : List Event) (h : Handler) : Handler := { h with session := h.session.noteAll es }

def note (level : Level) (text : String) (fields : List (String × Value)) (h : Handler) : Handler :=
  h.noteAll [⟨.server, level, text, ("client", .text h.label) :: fields⟩]

def act (a : Act) (h : Handler) : Handler :=
  { h with past := h.history ++ [.did a], session := { h.session with trace := [] } }

/-! ## The end -/

/-- Closes one of the channels; what cannot be closed takes the place of the outcome. -/
def closeOutbound (h : Handler) : Except Failure Unit × Handler :=
  match h.outbound with
  | none => (.ok (), h)
  | some u =>
    let (r, es, u) := u.waitClosed
    (r, noteAll es { h with outbound := some u })

def closeClient (h : Handler) : Except Failure Unit × Handler :=
  let (r, es, c) := h.session.channel.waitClosed
  (r, noteAll es { h with session := { h.session with channel := c } })

def finish (outcome : Outcome) (h : Handler) : Handler :=
  match h.closeOutbound with
  | (.error e, h) => { h with control := .ended (.failed e) }
  | (.ok (), h) =>
    match h.closeClient with
    | (.error e, h) => { h with control := .ended (.failed e) }
    | (.ok (), h) => { h with control := .ended outcome }

/-- Notes why the connection failed and ends it. Only errors of the last kind come out. -/
def fail (e : Failure) (h : Handler) : Handler :=
  match e with
  | .version v => finish .returned (h.note .warning "Protocol error" [("version", .int v.toNat)])
  | .hostName _ => finish .returned (h.note .warning "Malformed request" [("error", .text e.message)])
  | .channel c => finish .returned (h.note .debug "Client stream failed" [("error", .text c.message)])
  | .sequence _ => finish .returned (h.note .error "Unexpected error" [("exc_info", .bool true)])
  | .fault f =>
    if f.kind = .timeout then finish .returned (h.note .warning "Connection timeout" [])
    else if f.kind = .base then finish (.failed e) h
    else finish .returned (h.note .error "Unexpected error" [("exc_info", .bool true)])

/-! ## The relay -/

def channel (h : Handler) : Side → Channel.Stream
  | .client => h.session.channel
  | .target => h.outbound.getD {}

def setChannel (h : Handler) (c : Channel.Stream) : Side → Handler
  | .client => { h with session := { h.session with channel := c } }
  | .target => { h with outbound := some c }

def relay (m : Moment) : Relay → Handler → Handler
  | .done, h => finish .returned (h.act (.relayDone h.info.client))
  | .raise e, h => fail e h
  | .hold next, h =>
    if m.released.contains (.relay, h.info.client) then relay m next h
    else { h with control := .relaying (.hold next) }
  | .receive side limit next, h =>
    match (h.channel side).readSome limit with
    | (.waiting, _) => { h with control := .relaying (.receive side limit next) }
    | (.failed e, c) => relay m (next (.error e)) (h.setChannel c side)
    | (.done bs, c) => relay m (next (.ok bs)) (h.setChannel c side)
  | .send side bs next, h =>
    let (r, c) := (h.channel side).writeAll bs
    relay m (next r) ((h.act (.relayed side bs)).setChannel c side)

def startRelay (m : Moment) (h : Handler) : Handler :=
  relay m (m.surroundings.relay h.info) (h.act (.relay h.info))

/-! ## The callback -/

def watch (m : Moment) : Watch → Handler → Handler
  | .done, h => startRelay m (h.act (.callbackDone h.info.client))
  | .raise f, h => fail (.fault f) h
  | .hold next, h =>
    if m.released.contains (.callback, h.info.client) then watch m next h
    else { h with control := .watched (.hold next) }

def callback (m : Moment) (h : Handler) : Handler :=
  match m.surroundings.callback with
  | none => startRelay m h
  | some told => watch m (told h.info) (h.act (.callback h.info m.active))

/-! ## The dial -/

def afterReply (r : ReplyCode) (next : Handler → Handler) (h : Handler) :
    Progress Channel.Stream Unit → Handler
  | .waiting _ s => { h with session := s }
  | .raised e s => fail e { h with session := s }
  | .returned () s => next { h with session := s, info := { h.info with reply := some r } }

/-- Answers the client and goes on. -/
def reply (r : ReplyCode) (next : Handler → Handler) (h : Handler) : Handler :=
  afterReply r next h (h.session.sendReply r)

def targetField (h : Handler) : String × Value := ("target", .ofOption .text h.info.target?)

/-- The client is told of a dial that failed, if the failure is one that dials have. -/
def dialFailed (f : Fault) (h : Handler) : Handler :=
  if f.kind.isSystem || f.kind.isValue then
    reply f.replyCode (finish .returned) <| h.note .warning "Outbound connection failed"
      [h.targetField, ("reply", .text f.replyCode.name), ("error", .text f.summary)]
  else fail (.fault f) h

def connected (m : Moment) (outbound : Channel.Stream) (h : Handler) : Handler :=
  reply .success (fun h => callback m (h.note .info "Connection established" [h.targetField]))
    { h with outbound := some outbound }

def dialTimedOut : Handler → Handler := dialFailed ⟨.timeout, []⟩

def dial (m : Moment) (r : Request) (h : Handler) : Handler :=
  let host := r.targetText?.getD ""
  if Timeout.isSpent m.config.connectTimeout then dialTimedOut h
  else
    let h := h.act (.dial host r.port)
    match m.surroundings.network host r.port with
    | .refuses f => dialFailed f h
    | .hangs => { h with control := .dialling (m.timer m.config.connectTimeout) }
    | .opens outbound => connected m outbound h

/-! ## The handshake -/

def serve (m : Moment) (r : Request) (h : Handler) : Handler :=
  let h := { h with info := { h.info with
    command := r.command, targetHost := r.targetText?, targetPort := some r.port.toNat } }
  match r.command with
  | some c =>
    if m.config.allowed.contains c then dial m r h
    else reply .commandNotSupported (finish .returned)
      (h.note .warning "Command not allowed" [("command", .text c.name)])
  | none => finish .returned h

def afterHandshake (m : Moment) (timer : Option Timer) (h : Handler) :
    Progress Channel.Stream (Option Request) → Handler
  | .waiting stage s => { h with session := s, control := .handshaking stage timer }
  | .raised e s => fail e { h with session := s }
  | .returned none s => finish .returned
      { h with session := s, info := { h.info with reply := s.endpoint.rejection } }
  | .returned (some r) s => serve m r { h with session := s }

def timedOut : Handler → Handler := fail (.fault ⟨.timeout, []⟩)

/-! ## Runs -/

/-- A handler of a client that was just accepted. -/
def start (m : Moment) (label : String) (info : ConnectionInfo) (s : Session Channel.Stream) :
    Handler :=
  let h : Handler := ⟨label, info, s, none, [], .handshaking (.offer .version) none⟩
  if Timeout.isSpent m.config.handshakeTimeout then timedOut h
  else afterHandshake m (m.timer m.config.handshakeTimeout) h s.handshake

/-- Goes on as far as bytes and releases allow. -/
def resume (m : Moment) (h : Handler) : Handler :=
  match h.control with
  | .handshaking stage timer => afterHandshake m timer h (h.session.resumeHandshake stage)
  | .watched rest => watch m rest h
  | .relaying rest => relay m rest h
  | .dialling _ | .ended _ => h

/-- The timer has run out. -/
def expire (h : Handler) : Handler :=
  match h.control with
  | .handshaking _ _ => timedOut h
  | .dialling _ => dialTimedOut h
  | .watched _ | .relaying _ | .ended _ => h

end Handler
end Socks5
