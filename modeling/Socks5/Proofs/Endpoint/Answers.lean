import Socks5.Proofs.Endpoint.Order
import Socks5.Proofs.Wire.Inspection

/-!
What an endpoint over a captured input has written. Each operation either leaves both the endpoint's phase and
what was written as they are, or changes the two together (`told_readOffer`, `told_readBody`,
`told_sendReply`), and so does every call. So whatever is called, in whatever order and however often, and
whenever the channel is closed, the state of the endpoint tells what it has written: there is one answer to the
offer, and one reply (`output_runAll`).
-/
namespace Socks5

open Channel (Memory)

/-- What an endpoint in this state has written. -/
def Endpoint.Output (e : Endpoint) (bs : Bytes) : Prop :=
  match e.phase with
  | .new => bs = []
  | .authDone => bs = if e.authAccepted then [5, 0] else [5, 255]
  | .requestDone => bs = [5, 0]
  | .replied => ∃! r : ReplyCode, bs = [5, 0] ++ r.encode

/-! ## A channel that may be closed -/

namespace Channel.Memory

variable {c c' : Memory} {bs : Bytes}

theorem open_of_done {n : Nat} (h : c.readExact n = (.done bs, c')) : c.closed = false := by
  unfold readExact at h
  split at h
  · cases h
  · next ho => exact Bool.eq_false_iff.2 ho

theorem writeAll_error {e : Failure} (h : c.writeAll bs = (.error e, c')) : c' = c := by
  unfold writeAll at h
  split at h
  all_goals cases h
  rfl

theorem writeAll_ok (h : c.writeAll bs = (.ok (), c')) : c'.written = c.written ++ bs := by
  unfold writeAll at h
  split at h
  all_goals cases h
  rfl

end Channel.Memory

/-! ## Operations -/

namespace Session

variable {α β : Type} {s : Session Memory} {written : Bytes} {handed : List Bytes}

/-- The state of the endpoint tells what was written. -/
def Told (s : Session Memory) : Prop := s.endpoint.Output s.channel.written

/-- So much was written, and so much was handed over. -/
def Silent (written : Bytes) (handed : List Bytes) (s : Session Memory) : Prop :=
  s.channel.written = written ∧ s.writes = handed

/-- Reading writes nothing. A channel from which something was read is open. -/
theorem tracks_silent (written : Bytes) (handed : List Bytes) :
    Tracks (fun bs s => Silent written handed s ∧ (bs = [] ∨ s.channel.closed = false))
      (Silent written handed) where
  endpoint := fun _ hs => hs
  note := by
    rintro bs s level text fields ⟨⟨hw, hh⟩, ho⟩
    exact ⟨⟨hw, (writes_move _ _ _).trans (by rw [hh]; exact List.append_nil _)⟩, ho⟩
  done := by
    rintro bs s n new c ⟨⟨hw, hh⟩, -⟩ ha
    obtain ⟨hw', hc'⟩ := Memory.keeps_readExact n s.channel
    rw [show s.channel.readExact n = _ from ha] at hw' hc'
    refine ⟨(Memory.drains.done ha).1, ⟨hw'.trans hw, ?_⟩, .inr (hc'.trans (Memory.open_of_done ha))⟩
    exact (writes_move _ _ _).trans (by rw [hh]; exact List.append_nil _)
  waits := fun _ ha => absurd (congrArg Prod.fst ha) (Memory.readExact_ne_waiting _ _)
  fails := by
    rintro bs s n e c ⟨⟨hw, hh⟩, -⟩ ha
    have hw' := (Memory.keeps_readExact n s.channel).1
    rw [show s.channel.readExact n = _ from ha] at hw'
    exact ⟨hw'.trans hw, (writes_move _ _ _).trans (by rw [hh]; exact List.append_nil _)⟩
  ends := fun hs => hs.1

/-- On an open channel the choice is told at once. -/
theorem select_answers (ho : s.channel.closed = false) (methods : Bytes) :
    ∃ b s', select methods s = .returned b s' ∧ s'.channel.written = s.channel.written ++ offerAnswer b := by
  have tells : ∀ (b : Bool) (s₁ : Session Memory), s₁.channel = s.channel →
      ∃ b' s', ((s₁.write (offerAnswer b)).andThen fun _ s => .returned b s) = .returned b' s' ∧
        s'.channel.written = s.channel.written ++ offerAnswer b' := by
    intro b s₁ hc
    obtain ⟨s', hw, -, hs'⟩ := write_of_wrote (s := s₁) ⟨rfl, hc ▸ ho⟩ (offerAnswer b)
    rw [hw]
    exact ⟨b, s', rfl, hc ▸ hs'.1⟩
  unfold select
  dsimp only
  split
  · exact tells true _ rfl
  · exact tells false _ rfl

/-- The reading of an offer writes only the answer to it. -/
def Tells (written : Bytes) (handed : List Bytes) : Progress Memory Bool → Prop
  | .waiting _ s | .raised _ s => Silent written handed s
  | .returned b s => s.channel.written = written ++ offerAnswer b

theorem tells_readOffer (s : Session Memory) : Tells s.channel.written s.writes (readOffer s) := by
  refine (tracks_silent s.channel.written s.writes).readOffer (P := Tells s.channel.written s.writes)
    (fun _ _ h => ?_) (fun _ _ h => h) (fun methods s' _ h _ => ?_) ⟨[], rfl, ⟨⟨rfl, rfl⟩, .inl rfl⟩, rfl⟩
  · obtain ⟨bs, -, hs, -⟩ := h
    exact hs.1
  · obtain ⟨b, s₁, hsel, hw⟩ := select_answers (h.2.resolve_left (List.cons_ne_nil _ _)) methods
    rw [hsel, Tells, hw, h.1.1]

theorem told_readOffer (h : s.Told) (hp : s.endpoint.phase = .new) : (readOffer s).session.Told := by
  have hw : s.channel.written = [] := by simpa [Told, Endpoint.Output, hp] using h
  have ht := tells_readOffer s
  have ho := offered_resumeOffer Memory.outward .version s
  have still : ∀ s' : Session Memory, s'.endpoint = s.endpoint → s'.channel.written = s.channel.written →
      s'.Told := by
    intro s' he hw'
    rw [Told, he, hw']
    exact h
  rw [resumeOffer] at ho
  cases hr : readOffer s with
  | waiting stage s' =>
    rw [hr] at ht ho
    exact still s' ho.2.1 ht.1
  | raised x s' =>
    rw [hr] at ht ho
    rcases ho.2 with ha | ⟨b, hb⟩
    · exact still s' ha.1 ht.1
    -- The endpoint has not chosen: nothing was handed over.
    · exact absurd (ht.2.symm.trans hb.2) (by simp)
  | returned b s' =>
    rw [hr] at ht ho
    change s'.endpoint.Output s'.channel.written
    rw [ho.1, show s'.channel.written = _ from ht, hw]
    cases b <;> rfl

theorem told_readBody (h : s.Told) (hp : s.endpoint.phase = .authDone) (ha : s.endpoint.authAccepted = true) :
    (readBody s).session.Told := by
  have hw : s.channel.written = [5, 0] := by simpa [Told, Endpoint.Output, hp, ha] using h
  have hj := (tracks_silent s.channel.written s.writes).readBody (e := s.endpoint) (s := s)
    ⟨[], rfl, ⟨⟨rfl, rfl⟩, .inl rfl⟩, rfl⟩
  have hq := requested_resumeRequest Memory.outward .version s
  have underway : ∀ s' : Session Memory, Underway s.endpoint s.writes s' →
      Silent s.channel.written s.writes s' → s'.Told := by
    rintro s' ⟨r, he, -⟩ ⟨hw', -⟩
    simp [Told, Endpoint.Output, he, hw', hp, ha, hw]
  have stored : ∀ s' : Session Memory, Stored s.endpoint s.writes s' →
      Silent s.channel.written s.writes s' → s'.Told := by
    rintro s' ⟨q, r, he, -⟩ ⟨hw', -⟩
    simp [Told, Endpoint.Output, he, hw', hw]
  rw [resumeRequest] at hq
  cases hr : readBody s with
  | waiting stage s' =>
    rw [hr] at hj hq
    obtain ⟨st, -, bs, -, hs, -⟩ := hj
    exact underway s' hq.2 hs.1
  | raised x s' =>
    rw [hr] at hj hq
    rcases hq with ⟨-, hu⟩ | ⟨-, hst⟩
    · exact underway s' hu hj
    · exact stored s' hst hj
  | returned valid s' =>
    rw [hr] at hj hq
    obtain ⟨bs, q, rejection, hs, -⟩ := hj
    exact stored s' hq hs.1

/-! ## Calls -/

theorem told_inPhase {op : Operation} {run : Session Memory → Progress Memory α} (h : s.Told)
    (goes : s.endpoint.phase = op.phase → (run s).session.Told) : (s.inPhase op run).session.Told := by
  unfold inPhase
  split
  · next hp => exact goes hp
  · exact h

theorem told_andThen {p : Progress Memory α} {next : α → Session Memory → Progress Memory β} (h : p.session.Told)
    (goes : ∀ a s', s'.Told → (next a s').session.Told) : (p.andThen next).session.Told := by
  cases p with
  | returned a s' => exact goes a s' h
  | _ => exact h

theorem told_sendReply (h : s.Told) (r : ReplyCode) : (s.sendReply r).session.Told := by
  refine told_inPhase h fun hp => ?_
  have hp' : s.endpoint.phase = .requestDone := hp
  have hw : s.channel.written = [5, 0] := by simpa [Told, Endpoint.Output, hp'] using h
  refine write_elim (P := fun p => (p.andThen _).session.Told) ?_ ?_
  · intro e c ha
    obtain rfl := Memory.writeAll_error ha
    exact h
  · intro c ha
    have hc : c.written = [5, 0] ++ r.encode := hw ▸ Memory.writeAll_ok ha
    refine ⟨r, hc, fun r' hr' => ?_⟩
    exact (ReplyCode.encode_inj (List.append_cancel_left (hc.symm.trans hr'))).symm

theorem told_acceptAuthentication (h : s.Told) : s.acceptAuthentication.session.Told :=
  told_inPhase h (told_readOffer h)

theorem told_readRequest (h : s.Told) : s.readRequest.session.Told := by
  refine told_inPhase h fun hp => ?_
  split
  · next ha => exact told_readBody h hp ha
  · exact h

theorem told_answerInvalid {p : Progress Memory Bool} (h : p.session.Told) : (answerInvalid p).session.Told := by
  cases p with
  | waiting stage s => exact h
  | returned valid s =>
    cases valid with
    | true => exact h
    | false => exact told_andThen (told_sendReply h _) fun _ _ h => h
  | raised e s =>
    cases e with
    | hostName raw => exact told_andThen (told_sendReply h _) fun _ _ h => h
    | _ => exact h

theorem told_handshake (h : s.Told) : s.handshake.session.Told := by
  refine told_andThen (told_acceptAuthentication h) fun accepted s' h => ?_
  cases accepted with
  | true => exact told_answerInvalid (told_readRequest h)
  | false => exact h

theorem told_run (h : s.Told) (c : Call) : (c.run s).session.Told := by
  have ended : ∀ {α : Type} {p : Progress Memory α} (f : α → Answer), p.session.Told →
      (p.answer f).session.Told :=
    fun f hp => told_andThen hp fun _ _ h => h
  cases c with
  | acceptAuthentication => exact ended _ (told_acceptAuthentication h)
  | readRequest => exact ended _ (told_readRequest h)
  | handshake => exact ended _ (told_handshake h)
  | sendReply r => exact ended _ (told_sendReply h r)
  | suggestedReply => exact h

end Session

/-! ## Runs -/

/-- What is done with an endpoint over a captured input: one of its calls, or its channel is closed. -/
inductive Handling where
  | call (c : Call)
  | close
  deriving DecidableEq, Repr

def Handling.use : Handling → Use Memory
  | call c => .ask (.call c)
  | close => .change Memory.close

namespace Usage

variable {u : Usage Memory}

theorem told_step (h : u.session.Told) (x : Handling) : (u.step x.use).session.Told := by
  cases x with
  | call c =>
    change (u.ask (.call c)).session.Told
    rw [ask_call, session_proceed, (abandon_eq u).1]
    exact Session.told_run h c
  | close => exact h

theorem told_runAll (h : u.session.Told) (xs : List Handling) :
    (u.runAll (xs.map Handling.use)).session.Told := by
  induction xs generalizing u with
  | nil => exact h
  | cons x xs ih => exact ih (told_step h x)

end Usage

/-- Whatever is called of a new endpoint over a captured input, in any order, repeatedly and after errors, and
whenever its channel is closed: before the offer is answered nothing was written, then the one answer that
tells whether it was accepted, and after a reply the answer and this reply, which is one alone. It is so after
each call, as the list may stop there. -/
theorem output_runAll (d : Bytes) (xs : List Handling) :
    let u := (Usage.fresh ({ unread := d } : Memory)).runAll (xs.map Handling.use)
    u.session.endpoint.Output u.session.channel.written :=
  Usage.told_runAll (u := Usage.fresh { unread := d }) rfl xs

/-- A version error, a second try, a short request, a reply out of order, and a closed channel. -/
example :
    let u := (Usage.fresh ({ unread := [4, 5, 1, 0, 5, 1] } : Memory)).runAll
      (([.call .acceptAuthentication, .call .handshake, .call (.sendReply .success), .close,
        .call .readRequest] : List Handling).map Handling.use)
    u.session.endpoint.phase = .authDone ∧ u.session.channel.written = [5, 0] := by
  decide

end Socks5
