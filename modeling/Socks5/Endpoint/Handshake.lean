import Socks5.Endpoint.Offer
import Socks5.Endpoint.Request

/-! The whole handshake, and the calls of an endpoint. -/
namespace Socks5

variable {χ α : Type} [Duplex χ]

namespace Session

def sendReply (r : ReplyCode) : Session χ → Progress χ Unit :=
  inPhase .sendReply fun s => (s.write r.encode).andThen fun _ s =>
    .returned () { s with endpoint := { s.endpoint with phase := .replied } }

/-- A request that is no good is answered at once; a good one is left to be answered later. -/
def answerInvalid : Progress χ Bool → Progress χ (Option Request)
  | .waiting stage s => .waiting stage s
  | .returned true s => .returned s.endpoint.request s
  | .returned false s => (sendReply s.endpoint.suggestedReply s).andThen fun _ s => .returned none s
  | .raised (.hostName raw) s =>
    (sendReply .generalFailure s).andThen fun _ s => .raised (.hostName raw) s
  | .raised e s => .raised e s

def afterOffer (p : Progress χ Bool) : Progress χ (Option Request) :=
  p.andThen fun accepted s => if accepted then answerInvalid (readRequest s) else .returned none s

/-- Negotiates and reads the request. Nothing is returned for a client that was refused. -/
def handshake (s : Session χ) : Progress χ (Option Request) := afterOffer s.acceptAuthentication

def resumeHandshake (stage : Stage) (s : Session χ) : Progress χ (Option Request) :=
  match stage with
  | .offer stage => afterOffer (resumeOffer stage s)
  | .request stage => answerInvalid (resumeRequest stage s)

end Session

/-! ## Calls -/

inductive Call where
  | acceptAuthentication
  | readRequest
  | handshake
  | sendReply (r : ReplyCode)
  | suggestedReply
  deriving DecidableEq, Repr

inductive Answer where
  | flag (b : Bool)
  | request (r : Option Request)
  | code (r : ReplyCode)
  | nothing
  deriving DecidableEq, Repr

def Progress.answer (f : α → Answer) (p : Progress χ α) : Progress χ Answer :=
  p.andThen fun a s => .returned (f a) s

def Call.run : Call → Session χ → Progress χ Answer
  | acceptAuthentication, s => s.acceptAuthentication.answer .flag
  | readRequest, s => s.readRequest.answer .flag
  | handshake, s => s.handshake.answer .request
  | sendReply r, s => (s.sendReply r).answer fun _ => .nothing
  | suggestedReply, s => .returned (.code s.endpoint.suggestedReply) s

end Socks5
