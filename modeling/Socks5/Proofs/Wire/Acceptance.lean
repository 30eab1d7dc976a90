import Socks5.Proofs.Wire.Course
import Socks5.Proofs.Wire.Reading
import Socks5.Proofs.Wire.RoundTrip

/-!
The captured inputs that a handshake accepts are those of its grammar: an offer that can be accepted, a
request, and whatever follows (`Asks`). Such an input is read to the end of its request and no further
(`handshake_of_asks`), and no other input gives a request (`asks_of_handshake`).
-/
namespace Socks5

/-- The bytes begin with an offer that can be accepted and the request `r`, and go on with `rest`. -/
def Asks (d : Bytes) (r : Request) (rest : Bytes) : Prop :=
  ∃ offer q, AcceptedOffer offer ∧ r.Spelled q ∧ d = offer ++ q ++ rest

namespace Session

/-! ## Inputs of the grammar -/

section

variable {χ : Type} [Duplex χ] {fill : Bytes → χ} {s : Session χ}

/-- An offer is read to its end, and then selected from. -/
theorem acceptAuthentication_fill (hf : Feeds fill) {methods rest : Bytes} (hm : methods.length ≤ 255)
    (hs : s.channel = fill (offerBytes methods ++ rest)) (hp : s.endpoint.phase = .new) :
    ∃ s', s.acceptAuthentication = select methods s' ∧ s'.channel = fill rest ∧
      s'.endpoint = s.endpoint := by
  have hp' : s.endpoint.phase = Operation.acceptAuthentication.phase := hp
  have hn : (UInt8.ofNat methods.length).toNat = methods.length := by
    rw [UInt8.toNat_ofNat', Nat.mod_eq_of_lt (by omega)]
  have hs' : s.channel = fill ([version] ++ ([UInt8.ofNat methods.length] ++ (methods ++ rest))) := hs
  rw [acceptAuthentication, inPhase, if_pos hp', readOffer, readVersion,
    read_fill hf (.offer .version) hs' rfl]
  dsimp only [List.headD_cons]
  rw [if_pos rfl, readCount, read_fill hf (.offer .count) rfl rfl]
  dsimp only [List.headD_cons]
  rw [hn, readMethods, read_fill hf (.offer (.methods methods.length)) rfl rfl]
  exact ⟨_, rfl, rfl, rfl⟩

end

variable {s s' : Session Channel.Memory} {d rest : Bytes} {r : Request}

/-- An offer that can be accepted is accepted, and the answer is all that is written. -/
theorem select_open {methods : Bytes} (ha : AuthMethod.noAuth.code ∈ methods)
    (hc : s.channel.closed = false) :
    ∃ s', select methods s = .returned true s' ∧
      s'.channel = { s.channel with written := s.channel.written ++ AuthMethod.noAuth.encode } ∧
      s'.endpoint = { s.endpoint with authAccepted := true, phase := .authDone } := by
  have hw : ∀ bs, Duplex.writeAll bs s.channel =
      (.ok (), { s.channel with written := s.channel.written ++ bs }) := fun bs => by
    simp [Duplex.writeAll, Channel.Memory.writeAll, hc]
  have ha' : methods.contains AuthMethod.noAuth.code = true := by simpa using ha
  simp only [select, ha', ↓reduceIte, write, hw]
  exact ⟨_, rfl, rfl, rfl⟩

/-- What a fresh endpoint makes of a captured input. -/
theorem handshake_of_asks (h : Asks d r rest) :
    ∃ s', Session.handshake ({ channel := { unread := d } } : Session Channel.Memory) =
        .returned (some r) s' ∧
      s'.channel = { unread := rest, written := [5, 0] } ∧
      s'.endpoint = { phase := .requestDone, authAccepted := true, request := some r } := by
  obtain ⟨_, q, ⟨methods, hm, ha, rfl⟩, hq, rfl⟩ := h
  obtain ⟨s₁, h₁, hc₁, he₁⟩ := acceptAuthentication_fill (Channel.Memory.feeds (c := {}) rfl)
    (s := { channel := { unread := offerBytes methods ++ q ++ rest } }) hm
    (by rw [List.append_assoc]) rfl
  obtain ⟨s₂, h₂, hc₂, he₂⟩ := select_open (s := s₁) ha (by rw [hc₁])
  have hc₂' : s₂.channel = { unread := q ++ rest, written := [5, 0] } := by
    rw [hc₂, hc₁]
    rfl
  obtain ⟨s₃, h₃, hc₃, he₃⟩ := hq.read (Channel.Memory.feeds (c := { written := [5, 0] }) rfl) hc₂'
    (by rw [he₂]) (by rw [he₂])
  have he : s₃.endpoint = { phase := .requestDone, authAccepted := true, request := some r } := by
    rw [he₃, he₂, he₁]
  refine ⟨s₃, ?_, hc₃, he⟩
  rw [Session.handshake, h₁, h₂]
  change answerInvalid s₂.readRequest = _
  rw [h₃]
  change Progress.returned s₃.endpoint.request s₃ = _
  rw [he]

/-! ## Inputs that are accepted -/

section

variable {χ : Type}

/-- What goes on with no request returns none. -/
theorem andThen_ne_some {α : Type} {q : Progress χ α} {next : α → Session χ → Progress χ (Option Request)}
    {r : Request} {s' : Session χ} (hn : ∀ a s, next a s ≠ .returned (some r) s') :
    q.andThen next ≠ .returned (some r) s' := by
  cases q with
  | returned a s => exact hn a s
  | _ => nofun

/-- Only a valid request is returned. -/
theorem returned_of_answerInvalid [Duplex χ] {p : Progress χ Bool} {r : Request} {s' : Session χ}
    (h : answerInvalid p = .returned (some r) s') :
    p = .returned true s' ∧ s'.endpoint.request = some r := by
  unfold answerInvalid at h
  cases p with
  | waiting stage s => cases h
  | raised e s =>
    cases e with
    | hostName raw => exact absurd h (andThen_ne_some fun _ _ => nofun)
    | _ => cases h
  | returned valid s =>
    cases valid with
    | false => exact absurd h (andThen_ne_some fun _ _ => nofun)
    | true =>
      rw [Progress.returned.injEq] at h
      obtain ⟨hr, rfl⟩ := h
      exact ⟨rfl, hr⟩

end

/-- A request that is returned was taken from the front of the input, behind an offer. -/
theorem asks_of_handshake
    (h : Session.handshake ({ channel := { unread := d } } : Session Channel.Memory) =
      .returned (some r) s') : ∃ rest, Asks d r rest := by
  have ht := Channel.Memory.drains.tracks d
  have h0 : Offering (fun bs s => d = bs ++ s.channel.unread) {} .version
      ({ channel := { unread := d } } : Session Channel.Memory) := ⟨[], rfl, rfl, rfl⟩
  revert h
  refine ht.resumeOffer (P := fun p => afterOffer p = .returned (some r) s' → ∃ rest, Asks d r rest)
    (fun _ _ _ => nofun) (fun _ _ _ => nofun) ?_ h0
  intro methods s₁ hm hd he
  unfold select afterOffer
  dsimp only
  split
  · next ha =>
    rw [Progress.andThen_assoc]
    refine write_elim (P := fun p => p.andThen _ = _ → _) nofun fun c hw h => ?_
    obtain ⟨hr, hreq⟩ := returned_of_answerInvalid h
    obtain ⟨q, r', hu, hreq', hq⟩ := spelled_of_readRequest Channel.Memory.drains hr
    obtain rfl : r' = r := Option.some.inj (hreq'.symm.trans hreq)
    refine ⟨s'.channel.unread, offerBytes methods, q, ⟨methods, hm, by simpa using ha, rfl⟩, hq, ?_⟩
    have hc := Channel.Memory.drains.writes AuthMethod.noAuth.encode s₁.channel
    rw [hw] at hc
    rw [List.append_assoc, ← hu, channel_move, hc]
    exact hd
  · intro h
    rw [Progress.andThen_assoc] at h
    exact absurd h (andThen_ne_some fun _ _ => nofun)

end Session

/-! ## The grammar -/

/-- A fresh endpoint returns a request from a captured input if and only if the input is one of the
grammar; then it has answered the offer, stored the request, and left what follows unread. From any other
input it returns none, or it raises one of three errors. -/
theorem handshake_accepts (d : Bytes) :
    let p := Session.handshake ({ channel := { unread := d } } : Session Channel.Memory)
    (∀ r, (∃ s', p = .returned (some r) s') ↔ ∃ rest, Asks d r rest) ∧
    (∀ r rest, Asks d r rest → ∃ s', p = .returned (some r) s' ∧
      s'.channel = { unread := rest, written := [5, 0] } ∧
      s'.endpoint = { phase := .requestDone, authAccepted := true, request := some r, rejection := none }) ∧
    ((∃ r rest, Asks d r rest) ∨ (∃ s', p = .returned none s') ∨
      ∃ e s', p = .raised e s' ∧
        ((∃ v, e = .version v) ∨ (∃ raw, e = .hostName raw) ∨ ∃ x, e = .channel x)) := by
  intro p
  have sound : ∀ r s', p = .returned (some r) s' → ∃ rest, Asks d r rest := fun r s' h =>
    Session.asks_of_handshake h
  refine ⟨fun r => ⟨fun ⟨s', h⟩ => sound r s' h, ?_⟩, fun r rest h => Session.handshake_of_asks h, ?_⟩
  · rintro ⟨rest, h⟩
    obtain ⟨s', hp, -⟩ := Session.handshake_of_asks h
    exact ⟨s', hp⟩
  · have course : Session.Course Session.HandshakeFails Session.HandshakeDone _ p :=
      Session.course_handshake Channel.Memory.plain rfl
    rcases course.ends with ⟨returned, s', hp, -⟩ | ⟨e, s', hp, (hv | hn) | hx⟩
    · cases returned with
      | none => exact .inr (.inl ⟨s', hp⟩)
      | some r => exact .inl ⟨r, sound r s' hp⟩
    · exact .inr (.inr ⟨e, s', hp, .inl hv⟩)
    · exact .inr (.inr ⟨e, s', hp, .inr (.inl hn)⟩)
    · exact .inr (.inr ⟨e, s', hp, .inr (.inr hx)⟩)

/-- A client that offers two methods, asks for port 443 of the host "ab", and sends one byte more. -/
def captured : Bytes := [5, 2, 1, 0, 5, 1, 0, 3, 2, 97, 98, 1, 187, 22]

theorem handshake_accepts_captured :
    let r : Request := ⟨some .connect, some (.name "ab"), 443⟩
    Asks captured r [22] ∧ ∃ s',
      Session.handshake ({ channel := { unread := captured } } : Session Channel.Memory) =
        .returned (some r) s' ∧ s'.channel = { unread := [22], written := [5, 0] } := by
  have hasks : Asks captured ⟨some .connect, some (.name "ab"), 443⟩ [22] :=
    ⟨_, _, ⟨[1, 0], by decide, by decide, rfl⟩,
      .mk 443 (@Target.Spelled.name [97, 98] (by decide) (by simp)), by decide⟩
  obtain ⟨s', hp, hc, -⟩ := (handshake_accepts captured).2.1 _ _ hasks
  exact ⟨hasks, s', hp, hc⟩

end Socks5
