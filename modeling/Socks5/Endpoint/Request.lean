import Socks5.Endpoint.Basic

/-! Reading a request. A command that is unknown and a reserved byte that is set are noted and read
past; an unknown address type ends the reading at once. -/
namespace Socks5

def Head.command? (h : Head) : Option Command := Command.ofCode? h.command.toNat

def Head.isValid (h : Head) : Bool := h.command?.isSome && h.reserved = 0

namespace Session

variable {χ : Type}

def reject (r : ReplyCode) (s : Session χ) : Session χ :=
  { s with endpoint := { s.endpoint with rejection := some r } }

def storeRequest (r : Request) (s : Session χ) : Session χ :=
  { s with endpoint := { s.endpoint with request := some r, phase := .requestDone } }

/-- An unknown command outranks what was found wrong before. -/
def checkCommand (h : Head) (s : Session χ) : Session χ :=
  if h.command?.isSome then s else
    (s.note .warning "Unknown command" [("cmd", .int h.command.toNat)]).reject .commandNotSupported

/-- A reserved byte that is set does not outrank it. -/
def checkReserved (h : Head) (s : Session χ) : Session χ :=
  if h.reserved = 0 then s else
    let s := s.note .warning "Non-zero reserved byte" [("reserved", .int h.reserved.toNat)]
    if s.endpoint.rejection.isNone then s.reject .generalFailure else s

def checkHead (h : Head) (s : Session χ) : Session χ := (s.checkCommand h).checkReserved h

@[simp] theorem endpoint_reject (r : ReplyCode) (s : Session χ) :
    (s.reject r).endpoint = { s.endpoint with rejection := some r } := rfl

variable [Duplex χ]

def readPort (h : Head) (target : Target) : Session χ → Progress χ Bool :=
  read (.request (.port h target)) fun bs s =>
    let port := UInt16.ofNat (Bytes.toNat bs)
    let s := s.storeRequest ⟨h.command?, some target, port⟩
    .returned h.isValid <| s.note .debug "Request parsed"
      [("command", h.command?.elim (.int h.command.toNat) fun c => .text c.name),
       ("target", .text s!"{target.text}:{port.toNat}"),
       ("valid", .bool h.isValid)]

def readIPv4 (h : Head) : Session χ → Progress χ Bool :=
  read (.request (.ipv4 h)) fun bs => readPort h (.address (.v4 (.ofBytes bs)))

def readIPv6 (h : Head) : Session χ → Progress χ Bool :=
  read (.request (.ipv6 h)) fun bs => readPort h (.address (.v6 (.ofBytes bs)))

def nameText (bs : Bytes) : String := String.ofList (bs.map fun b => Char.ofNat b.toNat)

def readName (h : Head) (length : Nat) : Session χ → Progress χ Bool :=
  read (.request (.name h length)) fun bs s =>
    if bs.all (· < 128) then readPort h (.name (nameText bs)) s
    else
      let s := s.note .warning "Domain name is not ASCII" [("length", .int length)]
      .raised (.hostName bs) ((s.reject .generalFailure).storeRequest { command := h.command? })

def readNameLength (h : Head) : Session χ → Progress χ Bool :=
  read (.request (.nameLength h)) fun bs => readName h (bs.headD 0).toNat

def readTarget (h : Head) (kind : UInt8) (s : Session χ) : Progress χ Bool :=
  match AddressType.ofCode? kind.toNat with
  | some .ipv4 => readIPv4 h s
  | some .domainName => readNameLength h s
  | some .ipv6 => readIPv6 h s
  | none =>
    let s := s.note .warning "Unknown address type" [("atyp", .int kind.toNat)]
    .returned false ((s.reject .addressTypeNotSupported).storeRequest { command := h.command? })

def readHead : Session χ → Progress χ Bool :=
  read (.request .head) fun bs s =>
    let h : Head := ⟨bs.getD 0 0, bs.getD 1 0⟩
    readTarget h (bs.getD 2 0) (s.checkHead h)

def readBody : Session χ → Progress χ Bool := readVersion (.request .version) readHead

def resumeRequest : RequestStage → Session χ → Progress χ Bool
  | .version => readBody
  | .head => readHead
  | .ipv4 h => readIPv4 h
  | .nameLength h => readNameLength h
  | .name h n => readName h n
  | .ipv6 h => readIPv6 h
  | .port h target => readPort h target

/-- Reads the client's request; the result tells whether it is valid. -/
def readRequest : Session χ → Progress χ Bool :=
  inPhase .readRequest fun s =>
    if s.endpoint.authAccepted then readBody s else .raised (.sequence .refused) s

end Session
end Socks5
