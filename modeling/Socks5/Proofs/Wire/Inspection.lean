import Socks5.Inspect
import Socks5.Proofs.Wire.Reading

/-!
What the inspection of a captured input tells of a handshake over it. Both take the offer and read the request
in the same way (`acceptAuthentication_captured`, `readRequest_captured`), and the handshake answers a request
that is no good on top of that (`foretells_inspect`).
-/
namespace Socks5

open Channel (Memory)

/-! ## Calls that write -/

theorem Channel.Memory.keeps_readExact (n : Nat) (c : Memory) :
    (c.readExact n).2.written = c.written ∧ (c.readExact n).2.closed = c.closed := by
  unfold readExact
  repeat' split
  all_goals exact ⟨rfl, rfl⟩

namespace Session

variable {s : Session Memory} {written : Bytes}

/-- So much was written, and there can be more. -/
def Wrote (written : Bytes) (s : Session Memory) : Prop :=
  s.channel.written = written ∧ s.channel.closed = false

theorem write_of_wrote (hs : s.Wrote written) (bs : Bytes) :
    ∃ s', s.write bs = .returned () s' ∧ s'.endpoint = s.endpoint ∧ s'.Wrote (written ++ bs) := by
  have hw : Duplex.writeAll bs s.channel =
      (.ok (), { s.channel with written := s.channel.written ++ bs }) := by
    simp [Duplex.writeAll, Memory.writeAll, hs.2]
  refine ⟨s.move [.wrote bs none] { s.channel with written := s.channel.written ++ bs }, ?_, rfl, ?_, hs.2⟩
  · simp only [write, hw]
  · rw [← hs.1]
    rfl

/-- A reply that is due is written. -/
theorem sendReply_of_wrote (hs : s.Wrote written) (hp : s.endpoint.phase = .requestDone) (r : ReplyCode) :
    ∃ s', s.sendReply r = .returned () s' ∧ s'.Wrote (written ++ r.encode) := by
  have hp' : s.endpoint.phase = Operation.sendReply.phase := hp
  obtain ⟨s', hw, -, hs'⟩ := write_of_wrote hs r.encode
  unfold sendReply inPhase
  rw [if_pos hp']
  dsimp only
  rw [hw]
  exact ⟨_, rfl, hs'⟩

/-- What is read makes no difference to what was written. -/
theorem tracks_wrote (written : Bytes) : Tracks (fun _ s => Wrote written s) (Wrote written) where
  endpoint := fun _ hs => hs
  note := fun _ _ _ hs => hs
  done := by
    intro bs s n new c hs ha
    obtain ⟨hw, hc⟩ := Memory.keeps_readExact n s.channel
    rw [show s.channel.readExact n = _ from ha] at hw hc
    exact ⟨(Memory.drains.done ha).1, hw.trans hs.1, hc.trans hs.2⟩
  waits := fun _ ha => absurd (congrArg Prod.fst ha) (Memory.readExact_ne_waiting _ _)
  fails := by
    intro bs s n e c hs ha
    obtain ⟨hw, hc⟩ := Memory.keeps_readExact n s.channel
    rw [show s.channel.readExact n = _ from ha] at hw hc
    exact ⟨hw.trans hs.1, hc.trans hs.2⟩
  ends := fun hs => hs

/-! ## What is made of a captured input -/

/-- An offer that is taken was answered, and the endpoint knows how. -/
def Answers : Progress Memory Bool → Prop
  | .returned accepted s => s.endpoint = { phase := .authDone, authAccepted := accepted } ∧
      s.Wrote [5, if accepted then 0 else 255]
  | .waiting _ _ | .raised _ _ => True

theorem answers_select (hs : s.Wrote []) (he : s.endpoint = {}) (methods : Bytes) : Answers (select methods s) := by
  unfold select
  dsimp only
  rw [he]
  generalize methods.contains AuthMethod.noAuth.code = accepted
  have hs' : Wrote [] { s with endpoint := { phase := .authDone, authAccepted := accepted } } := hs
  cases accepted with
  | true =>
    obtain ⟨s₁, hw, he₁, hs₁⟩ := write_of_wrote hs' AuthMethod.noAuth.encode
    rw [if_pos rfl, hw]
    exact ⟨he₁, hs₁⟩
  | false =>
    have hn : Wrote [] (note .warning "No acceptable auth method"
        [("offered", .list (methods.map fun m => .int m.toNat))]
        { s with endpoint := { phase := .authDone, authAccepted := false } }) := hs'
    obtain ⟨s₁, hw, he₁, hs₁⟩ := write_of_wrote hn AuthMethod.noAcceptable.encode
    rw [if_neg nofun, hw]
    exact ⟨he₁, hs₁⟩

/-- An offer is taken and answered, or it is none. -/
theorem acceptAuthentication_captured (d : Bytes) :
    let p := acceptAuthentication ({ channel := { unread := d } } : Session Memory)
    (∃ accepted s, p = .returned accepted s ∧
      s.endpoint = { phase := .authDone, authAccepted := accepted } ∧
      s.Wrote [5, if accepted then 0 else 255]) ∨
    ∃ e s, p = .raised e s ∧ ((∃ v, e = .version v) ∨ ∃ x, e = .channel x) := by
  intro p
  have h0 : Offering (fun _ s => Wrote [] s) {} .version ({ channel := { unread := d } } : Session Memory) :=
    ⟨[], rfl, ⟨rfl, rfl⟩, rfl⟩
  have answers : Answers p := (tracks_wrote []).readOffer (P := Answers) (fun _ _ _ => trivial)
    (fun _ _ _ => trivial) (fun methods s₁ _ hs he => answers_select hs he methods) h0
  have course : Course OfferFails OfferDone _ p := course_acceptAuthentication rfl
  rcases course.ends with ⟨accepted, s, hp, -⟩ | ⟨e, s, hp, he⟩
  · rw [hp] at answers
    exact .inl ⟨accepted, s, hp, answers⟩
  · exact .inr ⟨e, s, hp, he⟩

/-- A request behind an offer that was accepted is read and judged, or it fails; in any case nothing is
written. -/
theorem readRequest_captured (hs : s.Wrote written) (he : s.endpoint = { phase := .authDone, authAccepted := true }) :
    (∃ valid s' bs r rejection, s.readRequest = .returned valid s' ∧ s'.Wrote written ∧
      Verdict none bs valid r rejection ∧ s'.endpoint =
        { phase := .requestDone, authAccepted := true, request := some r, rejection := rejection }) ∨
    ∃ e s', s.readRequest = .raised e s' ∧ s'.Wrote written ∧ ((∃ v, e = .version v) ∨
      (∃ raw, e = .hostName raw ∧ s'.endpoint.phase = .requestDone) ∨ ∃ x, e = .channel x) := by
  have course : Course RequestFails RequestDone s s.readRequest :=
    course_readRequest (by rw [he]) (by rw [he])
  have hphase : s.endpoint.phase = Operation.readRequest.phase := by
    rw [he]
    rfl
  have haccepted : s.endpoint.authAccepted = true := by rw [he]
  have hread : s.readRequest = readBody s := by
    unfold readRequest inPhase
    rw [if_pos hphase]
    dsimp only
    rw [if_pos haccepted]
  have judged : Judged (fun _ s => Wrote written s) (Wrote written) s.endpoint (readBody s) :=
    (tracks_wrote written).readBody ⟨[], rfl, hs, rfl⟩
  rw [← hread] at judged
  rcases course.ends with ⟨valid, s', hp, -⟩ | ⟨e, s', hp, hfails⟩
  · rw [hp] at judged
    obtain ⟨bs, r, rejection, hs', hv, he'⟩ := judged
    rw [he] at hv he'
    exact .inl ⟨valid, s', bs, r, rejection, hp, hs', hv, he'⟩
  · rw [hp] at judged
    refine .inr ⟨e, s', hp, judged, ?_⟩
    rcases hfails with (hv | hn) | hx
    · exact .inl hv
    · exact .inr (.inl hn)
    · exact .inr (.inr hx)

end Session

/-! ## The inspection -/

/-- A request that is valid is one of the grammar, and nothing of it is rejected. -/
theorem Verdict.spelled {bs : Bytes} {valid : Bool} {r : Request} {rejection : Option ReplyCode}
    (hv : Verdict none bs valid r rejection) (h : valid = true) : rejection = none ∧ r.Spelled bs := by
  cases hv with
  | read head port ht =>
    obtain ⟨c, rfl⟩ := Head.isValid_iff.1 h
    have hc : Head.command? ⟨c.code, 0⟩ = some c := Head.command?_eq_some.2 rfl
    exact ⟨by simp [Head.rejectionAfter, hc], ht.request h port⟩
  | unknownKind => cases h

open Session

/-- What an inspection comes to, and what a handshake comes to then: the same, but for a reply. -/
inductive Foretells : Progress Memory (Option Bool) → Progress Memory (Option Request) → Prop
  | refused {s : Session Memory} (hs : s.Wrote [5, 255]) : Foretells (.returned none s) (.returned none s)
  | invalid {s s' : Session Memory} (hs : s'.Wrote ([5, 0] ++ s.endpoint.suggestedReply.encode)) :
      Foretells (.returned (some false) s) (.returned none s')
  | valid {s : Session Memory} {r : Request} {bs : Bytes} (hs : s.Wrote [5, 0]) (hr : r.Spelled bs)
      (he : s.endpoint = { phase := .requestDone, authAccepted := true, request := some r }) :
      Foretells (.returned (some true) s) (.returned (some r) s)
  | misnamed {s s' : Session Memory} (raw : Bytes)
      (hs : s'.Wrote ([5, 0] ++ ReplyCode.generalFailure.encode)) :
      Foretells (.raised (.hostName raw) s) (.raised (.hostName raw) s')
  | broken {s : Session Memory} {e : Failure} (he : (∃ v, e = .version v) ∨ ∃ x, e = .channel x) :
      Foretells (.raised e s) (.raised e s)

/-- The inspection of a captured input foretells what a handshake makes of it. -/
theorem foretells_inspect (d : Bytes) :
    Foretells (inspect d) (Session.handshake ({ channel := { unread := d } } : Session Memory)) := by
  unfold inspect Session.handshake afterOffer
  dsimp only
  rcases acceptAuthentication_captured d with ⟨accepted, s, hp, he, hs⟩ | ⟨e, s, hp, he⟩
  · rw [hp]
    dsimp only [Progress.andThen]
    cases accepted with
    | false => exact .refused hs
    | true =>
      rcases readRequest_captured hs he with
        ⟨valid, s', bs, r, rejection, hr, hs', hv, he'⟩ | ⟨e, s', hr, hs', hfails⟩
      · rw [if_pos rfl, if_pos rfl, hr]
        cases hvalid : valid with
        | false =>
          obtain ⟨s₁, hsent, hs₁⟩ :=
            sendReply_of_wrote hs' (by rw [he']) s'.endpoint.suggestedReply
          dsimp only [answerInvalid, Progress.andThen]
          rw [hsent]
          exact .invalid hs₁
        | true =>
          obtain ⟨rfl, hspelled⟩ := hv.spelled hvalid
          have hreturned : answerInvalid (.returned true s') = .returned (some r) s' :=
            congrArg (Progress.returned · s') (by rw [he'])
          rw [hreturned]
          exact .valid hs' hspelled he'
      · rw [if_pos rfl, if_pos rfl, hr]
        rcases hfails with hv | ⟨raw, rfl, hphase⟩ | hx
        · obtain ⟨v, rfl⟩ := hv
          exact .broken (.inl ⟨v, rfl⟩)
        · obtain ⟨s₁, hsent, hs₁⟩ := sendReply_of_wrote hs' hphase .generalFailure
          dsimp only [answerInvalid, Progress.andThen]
          rw [hsent]
          exact .misnamed raw hs₁
        · obtain ⟨x, rfl⟩ := hx
          exact .broken (.inr ⟨x, rfl⟩)
  · rw [hp]
    exact .broken he

end Socks5
