import Socks5.Proofs.Address.Literal
import Socks5.Proofs.Wire.Reading
import Socks5.Proofs.Wire.RoundTrip

/-!
A request that a server reads is encoded, from the text of its target, as the bytes that it was read from
(`Request.Spelled.encodesBack`). For a numeric address this is so since its text denotes it; for a name it
is so unless the name is itself a literal, which is then sent as the address that it denotes.
-/
namespace Socks5

/-! ## Addresses and names -/

theorem IPv4.bytes_ofBytes {bs : Bytes} (h : bs.length = 4) : (ofBytes bs).bytes = bs := by
  match bs, h with
  | [_, _, _, _], _ => rfl

/-- The bytes of a byte string of even length, two by two. -/
theorem flatMap_pairs (n : Nat) {bs : Bytes} (h : bs.length = 2 * n) :
    (List.range n).flatMap (fun i => [bs.getD (2 * i) 0, bs.getD (2 * i + 1) 0]) = bs := by
  induction n generalizing bs with
  | zero => exact (List.length_eq_zero_iff.1 h).symm
  | succ n ih =>
    match bs, h with
    | a :: b :: bs, h =>
      have hbs : bs.length = 2 * n := by simpa [Nat.mul_add] using h
      rw [List.range_succ_eq_map, List.flatMap_cons, List.flatMap_map]
      exact congrArg (a :: b :: ·) (ih hbs)

theorem IPv6.bytes_ofBytes {bs : Bytes} (h : bs.length = 16) : (ofBytes bs).bytes = bs := by
  have hgroup : ∀ a b : UInt8, groupBytes (UInt16.ofNat (Bytes.toNat [a, b])) = [a, b] := fun a b =>
    ofWord_of_length_two rfl
  rw [bytes, ofBytes, List.flatMap_map]
  simp only [hgroup]
  exact flatMap_pairs 8 h

theorem toNat_ofNat : ∀ n < 128, (Char.ofNat n).toNat = n := by decide

theorem charByte_ofNat {b : UInt8} (h : b < 128) : charByte (Char.ofNat b.toNat) = b := by
  rw [charByte, toNat_ofNat _ (UInt8.lt_iff_toNat_lt.1 h), UInt8.ofNat_toNat]

theorem encodeName_nameText {bs : Bytes} (hl : bs.length ≤ 255) (h : ∀ b ∈ bs, b < 128) :
    encodeName (Session.nameText bs).toList =
      .ok (AddressType.domainName.code :: UInt8.ofNat bs.length :: bs) := by
  have htext : (Session.nameText bs).toList = bs.map fun b => Char.ofNat b.toNat := by
    simp [Session.nameText]
  have hbytes : (bs.map fun b => Char.ofNat b.toNat).map charByte = bs := by
    rw [List.map_map]
    exact (List.map_congr_left fun b hb => charByte_ofNat (h b hb)).trans (List.map_id bs)
  have hascii : ∀ c ∈ bs.map (fun b => Char.ofNat b.toNat), c.toNat < 128 := by
    intro c hc
    obtain ⟨b, hb, rfl⟩ := List.mem_map.1 hc
    have hlt : b.toNat < 128 := UInt8.lt_iff_toNat_lt.1 (h b hb)
    rwa [toNat_ofNat _ hlt]
  rw [htext, encodeName_eq_ok, hbytes, List.length_map]
  exact ⟨⟨hascii, hl⟩, rfl⟩

/-- The text of an address that came off the wire denotes the address, and so its bytes. -/
theorem Target.Spelled.parse?_text {a : Address} {tb : Bytes} (h : (Target.address a).Spelled tb) :
    Address.parse? a.text.toList = some a ∧ encodeHost a.text = .ok tb := by
  have hp : Address.parse? a.text.toList = some a := by
    cases h <;> exact Address.parse?_text rfl
  refine ⟨hp, ?_⟩
  unfold encodeHost
  rw [hp]
  cases h with
  | ipv4 hl => simp [IPv4.bytes_ofBytes hl]
  | ipv6 hl => simp [IPv6.bytes_ofBytes hl]

/-! ## Requests -/

/-- Whatever follows the bytes, a server that has accepted the client's offer reads the request from
them, and the rest stays on the channel. -/
def Request.ReadFrom (r : Request) (b : Bytes) : Prop :=
  ∀ rest : Bytes,
    (∀ s : Session Channel.Memory, s.endpoint.phase = .authDone → s.endpoint.authAccepted = true →
      s.channel.closed = false → s.channel.unread = b ++ rest →
        s.Reads s.readRequest true r { s.channel with unread := rest }) ∧
    (∀ s : Session Channel.Stream, s.endpoint.phase = .authDone → s.endpoint.authAccepted = true →
      s.channel.readFault = none → s.channel.unread = b ++ rest →
        s.Reads s.readRequest true r { s.channel with unread := rest })

/-- The command, the target's text and the port of the request can be encoded. What they are encoded as
is `q`, unless the target is a name that is a literal; then it is a request for the address that the
literal denotes. The text of a numeric target denotes the target. -/
def Request.EncodesBack (r : Request) (q : Bytes) : Prop :=
  ∃ c host b, r.command = some c ∧ r.targetText? = some host ∧
    encodeRequest c host r.port.toNat = .ok b ∧
    (r.hostName? = none ∨ Address.parse? host.toList = none → b = q) ∧
    (∀ a, r.hostName? = some host → Address.parse? host.toList = some a →
      Request.ReadFrom { r with target := some (.address a.unscoped) } b) ∧
    (∀ a, r.address? = some a → Address.parse? host.toList = some a)

theorem Request.Spelled.readFrom {r : Request} {b : Bytes} (h : r.Spelled b) : r.ReadFrom b := by
  intro rest
  constructor
  · intro s hphase ha hc hu
    refine h.read (Channel.Memory.feeds hc) ?_ hphase ha
    rw [← hu]
  · intro s hphase ha hc hu
    refine h.read (Channel.Stream.feeds hc) ?_ hphase ha
    rw [← hu]

theorem encodeRequest_of_encodeHost {c : Command} {host : String} {tb : Bytes} {port : UInt16}
    (h : encodeHost host = .ok tb) :
    encodeRequest c host port.toNat = .ok (requestBytes ⟨c.code, 0⟩ tb port) := by
  have hp := port.toNat_lt
  refine encodeRequest_eq_ok.2 ⟨by omega, tb, h, ?_⟩
  rw [Int.toNat_natCast, UInt16.ofNat_toNat]

theorem Request.Spelled.encodesBack {r : Request} {q : Bytes} (h : r.Spelled q) : r.EncodesBack q := by
  obtain @⟨c, t, tb, port, ht⟩ := h
  cases t with
  | address a =>
    obtain ⟨hp, he⟩ := ht.parse?_text
    refine ⟨c, a.text, _, rfl, rfl, encodeRequest_of_encodeHost he, fun _ => rfl, nofun, ?_⟩
    rintro _ ⟨⟩
    exact hp
  | name host =>
    cases hl : Address.parse? host.toList with
    | none =>
      have he : encodeHost host = .ok tb := by
        unfold encodeHost
        rw [hl]
        cases ht with
        | name hlen hascii => exact encodeName_nameText hlen hascii
      refine ⟨c, host, _, rfl, rfl, encodeRequest_of_encodeHost he, fun _ => rfl, ?_, nofun⟩
      intro a _ ha
      rw [hl] at ha
      cases ha
    | some a =>
      obtain ⟨tb', he⟩ := sendable_iff.1 (.inl (by rw [hl]; rfl) : Sendable host)
      refine ⟨c, host, _, rfl, rfl, encodeRequest_of_encodeHost he, ?_, ?_, nofun⟩
      · rintro (hn | hn)
        · cases hn
        · rw [hl] at hn
          cases hn
      · rintro _ - ha
        rw [hl] at ha
        cases ha
        have hs := Target.spelled_of_encodeHost he
        rw [Target.ofHost, hl] at hs
        exact (Request.Spelled.mk port hs).readFrom

/-- Whatever a server reads as a valid request, from either kind of channel, can be encoded from its
parts again, as the same bytes unless its name is a literal. In particular the text of each address
denotes that address. -/
theorem encodesBack_of_readRequest :
    (∀ s s' : Session Channel.Memory, s.readRequest = .returned true s' → ∃ q r,
      s.channel.unread = q ++ s'.channel.unread ∧ s'.endpoint.request = some r ∧ r.EncodesBack q) ∧
    (∀ s s' : Session Channel.Stream, s.readRequest = .returned true s' → ∃ q r,
      s.channel.unread = q ++ s'.channel.unread ∧ s'.endpoint.request = some r ∧ r.EncodesBack q) ∧
    (∀ bs : Bytes, bs.length = 4 →
      (Address.parse? (Address.v4 (.ofBytes bs)).text.toList).map Address.bytes = some bs) ∧
    (∀ bs : Bytes, bs.length = 16 →
      (Address.parse? (Address.v6 (.ofBytes bs)).text.toList).map Address.bytes = some bs) := by
  refine ⟨?_, ?_, ?_, ?_⟩
  · intro s s' h
    obtain ⟨q, r, hq, hr, hs⟩ := Session.spelled_of_readRequest Channel.Memory.drains h
    exact ⟨q, r, hq, hr, hs.encodesBack⟩
  · intro s s' h
    obtain ⟨q, r, hq, hr, hs⟩ := Session.spelled_of_readRequest Channel.Stream.drains h
    exact ⟨q, r, hq, hr, hs.encodesBack⟩
  · intro bs h
    rw [Address.parse?_text rfl]
    exact congrArg some (IPv4.bytes_ofBytes h)
  · intro bs h
    rw [Address.parse?_text rfl]
    exact congrArg some (IPv6.bytes_ofBytes h)

/-- A server that has accepted an offer and is sent a request for 2001:db8:0:0:1:0:0:1, which has two runs
of two zero groups. -/
def tied : Session Channel.Memory where
  endpoint := { phase := .authDone, authAccepted := true }
  channel := { unread := [5, 1, 0, 4, 0x20, 1, 0xd, 0xb8, 0, 0, 0, 0, 0, 1, 0, 0, 0, 0, 0, 1, 1, 0xbb, 7] }

theorem encodesBack_of_readRequest_tied :
    ∃ s', tied.readRequest = .returned true s' ∧
      s'.endpoint.request.bind Request.targetText? = some "2001:db8::1:0:0:1" ∧
      ∃ q r, tied.channel.unread = q ++ s'.channel.unread ∧ s'.endpoint.request = some r ∧
        r.EncodesBack q :=
  ⟨_, rfl, by decide +kernel, encodesBack_of_readRequest.1 tied _ rfl⟩

end Socks5
