import Mathlib.Data.List.Basic
import Socks5.Endpoint.Handshake

/-!
The bytes of a client that is served: an offer of methods, then a request. Each stage of a handshake
has taken a beginning of one of the two (`OfferStage.Taken`, `RequestStage.Taken`), and a stage that
gets the bytes it needs completes the next field (`requestBytes_of_taken`).
-/
namespace Socks5

/-! ## Offers -/

/-- The bytes of an offer of some methods. -/
def offerBytes (methods : Bytes) : Bytes := version :: UInt8.ofNat methods.length :: methods

/-- An offer that holds the method without authentication. -/
def AcceptedOffer (bs : Bytes) : Prop :=
  ∃ methods, methods.length ≤ 255 ∧ AuthMethod.noAuth.code ∈ methods ∧ bs = offerBytes methods

/-- What an offer has taken before the stage. -/
def OfferStage.Taken : OfferStage → Bytes → Prop
  | version, bs => bs = []
  | count, bs => bs = [Socks5.version]
  | methods n, bs => n ≤ 255 ∧ bs = [Socks5.version, UInt8.ofNat n]

/-! ## Requests -/

/-- How a target is spelled: the kind of its address, then the address. -/
inductive Target.Spelled : Target → Bytes → Prop
  | ipv4 {bs : Bytes} : bs.length = 4 →
      Spelled (.address (.v4 (.ofBytes bs))) (AddressType.ipv4.code :: bs)
  | name {bs : Bytes} : bs.length ≤ 255 → (∀ b ∈ bs, b < 128) →
      Spelled (.name (Session.nameText bs)) (AddressType.domainName.code :: UInt8.ofNat bs.length :: bs)
  | ipv6 {bs : Bytes} : bs.length = 16 →
      Spelled (.address (.v6 (.ofBytes bs))) (AddressType.ipv6.code :: bs)

/-- The bytes of a request, whether its head is valid or not. -/
def requestBytes (h : Head) (target : Bytes) (port : UInt16) : Bytes :=
  version :: h.command :: h.reserved :: target ++ Bytes.ofWord port.toNat

/-- The bytes of a valid request. -/
inductive Request.Spelled : Request → Bytes → Prop
  | mk {c : Command} {t : Target} {bs : Bytes} (port : UInt16) : t.Spelled bs →
      Spelled ⟨some c, some t, port⟩ (requestBytes ⟨c.code, 0⟩ bs port)

/-- What a request has taken before the stage. -/
def RequestStage.Taken : RequestStage → Bytes → Prop
  | version, bs => bs = []
  | head, bs => bs = [Socks5.version]
  | ipv4 h, bs => bs = [Socks5.version, h.command, h.reserved, AddressType.ipv4.code]
  | nameLength h, bs => bs = [Socks5.version, h.command, h.reserved, AddressType.domainName.code]
  | name h n, bs => n ≤ 255 ∧
      bs = [Socks5.version, h.command, h.reserved, AddressType.domainName.code, UInt8.ofNat n]
  | ipv6 h, bs => bs = [Socks5.version, h.command, h.reserved, AddressType.ipv6.code]
  | port h target, bs => ∃ tb, target.Spelled tb ∧ bs = Socks5.version :: h.command :: h.reserved :: tb

/-! ## Heads -/

theorem Command.ofCode?_eq_some {n : Nat} {c : Command} : ofCode? n = some c ↔ n = c.code.toNat := by
  constructor
  · intro h
    have := List.find?_some h
    simp only [decide_eq_true_eq] at this
    omega
  · rintro rfl
    exact ofCode?_code c

theorem AddressType.ofCode?_eq_some {n : Nat} {t : AddressType} :
    ofCode? n = some t ↔ n = t.code.toNat := by
  constructor
  · intro h
    have := List.find?_some h
    simp only [decide_eq_true_eq] at this
    omega
  · rintro rfl
    cases t <;> rfl

theorem Head.command?_eq_some {h : Head} {c : Command} : h.command? = some c ↔ h.command = c.code := by
  rw [Head.command?, Command.ofCode?_eq_some, UInt8.toNat_inj]

theorem Head.isValid_iff {h : Head} : h.isValid = true ↔ ∃ c : Command, h = ⟨c.code, 0⟩ := by
  obtain ⟨command, reserved⟩ := h
  simp only [isValid, Bool.and_eq_true, decide_eq_true_eq, Option.isSome_iff_exists,
    command?_eq_some, Head.mk.injEq]
  exact ⟨fun ⟨⟨c, hc⟩, hr⟩ => ⟨c, hc, hr⟩, fun ⟨c, hc, hr⟩ => ⟨⟨c, hc⟩, hr⟩⟩

/-- What is wrong with a head that is not valid. -/
def Head.rejection (h : Head) : Option ReplyCode :=
  if h.command?.isSome then if h.reserved = 0 then none else some .generalFailure
  else some .commandNotSupported

/-! ## Fields -/

theorem toNat_le (b : UInt8) : b.toNat ≤ 255 := by
  have := b.toNat_lt
  omega

/-- A word read back gives the bytes that it was read from. -/
theorem ofWord_of_length_two {bs : Bytes} (h : bs.length = 2) :
    Bytes.ofWord (UInt16.ofNat (Bytes.toNat bs)).toNat = bs := by
  obtain ⟨a, b, rfl⟩ := List.length_eq_two.1 h
  have ha := a.toNat_lt
  have hb := b.toNat_lt
  have hn : Bytes.toNat [a, b] < 65536 := by simp [Bytes.toNat]; omega
  rw [UInt16.toNat_ofNat', Nat.mod_eq_of_lt hn, Bytes.ofWord_toNat]

/-- A request whose last field was read is spelled by what was taken. -/
theorem requestBytes_of_taken {h : Head} {t : Target} {taken bs : Bytes}
    (ht : (RequestStage.port h t).Taken taken) (hb : bs.length = 2) : ∃ tb, t.Spelled tb ∧
      taken ++ bs = requestBytes h tb (UInt16.ofNat (Bytes.toNat bs)) := by
  obtain ⟨tb, hs, rfl⟩ := ht
  exact ⟨tb, hs, by rw [requestBytes, ofWord_of_length_two hb]⟩

theorem Target.Spelled.request {h : Head} {t : Target} {tb : Bytes} (ht : t.Spelled tb)
    (hv : h.isValid = true) (port : UInt16) :
    Request.Spelled ⟨h.command?, some t, port⟩ (requestBytes h tb port) := by
  obtain ⟨c, rfl⟩ := Head.isValid_iff.1 hv
  rw [Head.command?_eq_some.2 rfl]
  exact .mk port ht

end Socks5
