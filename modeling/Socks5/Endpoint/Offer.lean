import Socks5.Endpoint.Basic

/-! Method negotiation: the client offers methods, and the server takes the one without
authentication or refuses. -/
namespace Socks5.Session

variable {χ : Type} [Duplex χ]

/-- The outcome is recorded before the answer goes out. -/
def select (methods : Bytes) (s : Session χ) : Progress χ Bool :=
  let accepted := methods.contains AuthMethod.noAuth.code
  let s := { s with endpoint := { s.endpoint with authAccepted := accepted, phase := .authDone } }
  if accepted then (s.write AuthMethod.noAuth.encode).andThen fun _ s => .returned true s
  else
    let s := s.note .warning "No acceptable auth method"
      [("offered", .list (methods.map fun m => .int m.toNat))]
    (s.write AuthMethod.noAcceptable.encode).andThen fun _ s => .returned false s

def readMethods (count : Nat) : Session χ → Progress χ Bool := read (.offer (.methods count)) select

def readCount : Session χ → Progress χ Bool :=
  read (.offer .count) fun bs => readMethods (bs.headD 0).toNat

def readOffer : Session χ → Progress χ Bool := readVersion (.offer .version) readCount

def resumeOffer : OfferStage → Session χ → Progress χ Bool
  | .version => readOffer
  | .count => readCount
  | .methods n => readMethods n

/-- Reads the client's offer and answers it; the result tells whether it was accepted. -/
def acceptAuthentication : Session χ → Progress χ Bool := inPhase .acceptAuthentication readOffer

end Socks5.Session
