import Socks5.Proofs.Wire.Course
import Socks5.Server.Handler

/-!
Where a handler comes to rest. It goes on until it waits for something that is not there
(`Handler.Settled`), or until it has closed its channels (`Handler.finish`); up to then it keeps its label,
its client's name, and the client's channel open (`Handler.Kept`). Each part of a handler comes to rest in
one of these two ways (`Handler.Rests`), and so does every run of it (`rests_start`, `rests_resume`,
`rests_expire`).
-/
namespace Socks5

open Channel (Stream)

/-! ## Channels -/

namespace Channel.Stream

theorem readExact_waiting {n : Nat} {c c' : Stream} (h : c.readExact n = (.waiting, c')) : c' = c := by
  unfold readExact at h
  repeat' split at h
  all_goals cases h
  rfl

@[simp] theorem closed_readExact (n : Nat) (c : Stream) : (c.readExact n).2.closed = c.closed := by
  unfold readExact
  repeat' split
  all_goals rfl

@[simp] theorem closed_readSome (n : Nat) (c : Stream) : (c.readSome n).2.closed = c.closed := by
  unfold readSome
  repeat' split
  all_goals rfl

@[simp] theorem closed_writeAll (bs : Bytes) (c : Stream) : (c.writeAll bs).2.closed = c.closed := by
  unfold writeAll
  cases c.writeFault <;> rfl

end Channel.Stream

/-! ## Handshakes -/

namespace Session

variable {s : Session Stream}

theorem read_of_waiting {α : Type} {stage : Stage} {next : Bytes → Session Stream → Progress Stream α}
    (h : s.channel.readExact stage.need = (.waiting, s.channel)) : s.read stage next = .waiting stage s := by
  simp [read, Duplex.readExact, h, move]

/-- A handshake that waits goes on waiting until something comes. -/
theorem resumeHandshake_of_waiting {stage : Stage}
    (h : s.channel.readExact stage.need = (.waiting, s.channel)) :
    s.resumeHandshake stage = .waiting stage s := by
  cases stage with
  | offer st =>
    obtain ⟨next, hr⟩ := resumeOffer_eq_read st s
    rw [resumeHandshake, hr, read_of_waiting h]
    rfl
  | request st =>
    obtain ⟨next, hr⟩ := resumeRequest_eq_read st s
    rw [resumeHandshake, hr, read_of_waiting h]
    rfl

end Session

/-! ## Handlers at rest -/

namespace Handler

/-- What a handler keeps while it runs. -/
structure Kept (h h' : Handler) : Prop where
  label : h'.label = h.label
  client : h'.info.client = h.info.client
  closed : h'.client.closed = h.client.closed

/-- What the handler waits for is not there, where some callbacks and relays may go on. -/
def Settled (released : List (Held × String)) (h : Handler) : Prop :=
  match h.control with
  | .handshaking stage _ => h.client.readExact stage.need = (.waiting, h.client)
  | .watched (.hold _) => released.contains (.callback, h.info.client) = false
  | .watched _ => False
  | .relaying (.hold _) => released.contains (.relay, h.info.client) = false
  | .relaying (.receive side limit _) => ((h.channel side).readSome limit).1 = .waiting
  | .relaying _ => False
  | .dialling _ | .ended _ => True

theorem Settled.forgetful {released : List (Held × String)} {h : Handler} (hs : h.Settled released) :
    h.forgetful.Settled released := hs

/-- A run of the handler `h` ends with a handler that waits, or with one that has closed its channels. -/
inductive Rests (released : List (Held × String)) (h : Handler) : Handler → Prop
  | waits {h' : Handler} (hk : h.Kept h') (hn : h'.isEnded = false) (hs : h'.Settled released) :
      Rests released h h'
  | ends {g : Handler} {o : Outcome} (hk : h.Kept g) : Rests released h (g.finish o)

variable {released : List (Held × String)} {m : Moment} {h g h' : Handler}

theorem Kept.refl (h : Handler) : h.Kept h := ⟨rfl, rfl, rfl⟩

theorem Kept.session (hk : h.Kept g) {s : Session Stream} (hc : s.channel.closed = g.client.closed) :
    h.Kept { g with session := s } := ⟨hk.label, hk.client, hc.trans hk.closed⟩

/-- Nothing happens to a handler that is at rest, unless its callback or its relay is released. -/
theorem Settled.resume_eq (hs : h.Settled released)
    (hr : ∀ k, m.released.contains (k, h.info.client) = released.contains (k, h.info.client)) : h.resume m = h := by
  obtain ⟨label, info, session, outbound, past, control⟩ := h
  unfold Settled at hs
  cases control with
  | handshaking stage timer =>
    have hw := Session.resumeHandshake_of_waiting hs
    unfold resume
    dsimp only at hw ⊢
    rw [hw]
    rfl
  | dialling timer => rfl
  | ended o => rfl
  | watched rest =>
    cases rest with
    | hold next =>
      unfold resume
      dsimp only
      rw [watch, hr, if_neg (by simpa using hs)]
    | done => exact hs.elim
    | raise f => exact hs.elim
  | relaying rest =>
    cases rest with
    | hold next =>
      unfold resume
      dsimp only
      rw [relay, hr, if_neg (by simpa using hs)]
    | receive side limit next =>
      unfold resume relay
      dsimp only at hs ⊢
      rcases ha : (channel ⟨label, info, session, outbound, past, .relaying (.receive side limit next)⟩
        side).readSome limit with ⟨a, c⟩
      rw [ha] at hs
      obtain rfl : a = .waiting := hs
      rfl
    | done => exact hs.elim
    | raise e => exact hs.elim
    | send side bs next => exact hs.elim

theorem isEnded_iff : h.isEnded = true ↔ ∃ o, h.control = .ended o := by
  unfold isEnded
  cases h.control <;> simp

/-- Nobody that has ended runs out of time. -/
theorem isEnded_of_timer? {x : Timer} (hx : h.timer? = some x) : h.isEnded = false := by
  unfold timer? at hx
  unfold isEnded
  cases hc : h.control <;> simp [hc] at hx ⊢

theorem resume_of_isEnded (he : h.isEnded = true) : h.resume m = h := by
  obtain ⟨o, hc⟩ := isEnded_iff.1 he
  rw [resume, hc]

theorem expire_of_isEnded (he : h.isEnded = true) : h.expire = h := by
  obtain ⟨o, hc⟩ := isEnded_iff.1 he
  rw [expire, hc]

/-! ## The end -/

theorem settled_of_isEnded (he : h.isEnded = true) : h.Settled released := by
  obtain ⟨o, hc⟩ := isEnded_iff.1 he
  unfold Settled
  rw [hc]
  trivial

theorem closeOutbound_keeps (h : Handler) :
    h.closeOutbound.2.label = h.label ∧ h.closeOutbound.2.info = h.info := by
  unfold closeOutbound
  cases h.outbound <;> exact ⟨rfl, rfl⟩

/-- The end leaves a handler as it was but for its channels. -/
theorem finish_keeps (o : Outcome) (h : Handler) :
    (h.finish o).isEnded = true ∧ (h.finish o).label = h.label ∧ (h.finish o).info = h.info := by
  obtain ⟨hl, hi⟩ := closeOutbound_keeps h
  unfold finish
  rcases hc : h.closeOutbound with ⟨r, h'⟩
  rw [hc] at hl hi
  cases r with
  | error e => exact ⟨rfl, hl, hi⟩
  | ok =>
    dsimp only
    rcases hd : h'.closeClient with ⟨r, h''⟩
    have hkeep : h''.label = h'.label ∧ h''.info = h'.info := by
      rw [closeClient, Prod.mk.injEq] at hd
      rw [← hd.2]
      exact ⟨rfl, rfl⟩
    cases r with
    | error e => exact ⟨rfl, hkeep.1.trans hl, hkeep.2.trans hi⟩
    | ok => exact ⟨rfl, hkeep.1.trans hl, hkeep.2.trans hi⟩

theorem Rests.label (hr : h.Rests released h') : h'.label = h.label := by
  cases hr with
  | waits hk _ _ => exact hk.label
  | @ends g o hk => exact (finish_keeps o g).2.1.trans hk.label

theorem Rests.client (hr : h.Rests released h') : h'.info.client = h.info.client := by
  cases hr with
  | waits hk _ _ => exact hk.client
  | @ends g o hk => exact (congrArg ConnectionInfo.client (finish_keeps o g).2.2).trans hk.client

theorem Rests.settled (hr : h.Rests released h') : h'.Settled released := by
  cases hr with
  | waits _ _ hs => exact hs
  | @ends g o hk => exact settled_of_isEnded (finish_keeps o g).1

theorem rests_fail (hk : h.Kept g) (e : Failure) : h.Rests released (fail e g) := by
  unfold fail
  repeat' split
  all_goals exact .ends ⟨hk.label, hk.client, hk.closed⟩

/-! ## The relay -/

theorem Kept.setChannel (hk : h.Kept g) {side : Side} {c : Stream}
    (hc : c.closed = (g.channel side).closed) : h.Kept (g.setChannel c side) := by
  cases side with
  | client => exact ⟨hk.label, hk.client, hc.trans hk.closed⟩
  | target => exact ⟨hk.label, hk.client, hk.closed⟩

theorem rests_relay (m : Moment) (rest : Relay) (hk : h.Kept g) :
    h.Rests m.released (relay m rest g) := by
  -- What the relay does next depends on what it reads, so the induction is for every handler there can be.
  induction rest generalizing g with
  | done => exact .ends ⟨hk.label, hk.client, hk.closed⟩
  | raise e => exact rests_fail hk e
  | hold next ih =>
    unfold relay
    split
    · exact ih hk
    · next hr => exact .waits ⟨hk.label, hk.client, hk.closed⟩ rfl (by simpa [Settled] using hr)
  | receive side limit next ih =>
    have hc := Stream.closed_readSome limit (g.channel side)
    unfold relay
    rcases ha : (g.channel side).readSome limit with ⟨a, c⟩
    rw [ha] at hc
    cases a with
    | waiting =>
      refine .waits ⟨hk.label, hk.client, hk.closed⟩ rfl ?_
      exact congrArg Prod.fst ha
    | failed e => exact ih _ (hk.setChannel hc)
    | done bs => exact ih _ (hk.setChannel hc)
  | send side bs next ih =>
    have hc := Stream.closed_writeAll bs (g.channel side)
    unfold relay
    rcases ha : (g.channel side).writeAll bs with ⟨r, c⟩
    rw [ha] at hc
    have hk' : h.Kept (g.act (.relayed side bs)) := ⟨hk.label, hk.client, hk.closed⟩
    exact ih _ (hk'.setChannel hc)

/-! ## The dial -/

/-- A session whose reply went out. -/
def replied (r : ReplyCode) (s : Session Stream) (c : Stream) : Session Stream :=
  { s.move [.wrote r.encode none] c with endpoint := { s.endpoint with phase := .replied } }

/-- A reply is sent, or it is not, and then the connection fails. -/
theorem reply_elim {P : Handler → Prop} {r : ReplyCode} {next : Handler → Handler}
    (fails : ∀ e c, h.client.writeAll r.encode = (.error e, c) →
      P (fail e { h with session := h.session.move [.wrote r.encode (some e)] c }))
    (goes : ∀ c, h.client.writeAll r.encode = (.ok (), c) →
      P (next { h with session := replied r h.session c, info := { h.info with reply := some r } }))
    (refused : h.session.endpoint.phase ≠ .requestDone → ∀ x, P (fail (.sequence x) h)) : P (reply r next h) := by
  unfold reply Session.sendReply Session.inPhase
  split
  · exact Session.write_elim (P := fun p => P (afterReply r next h (p.andThen _))) fails goes
  · next hp => exact refused hp (.wrongPhase .sendReply h.session.endpoint.phase)

theorem rests_reply {r : ReplyCode} {next : Handler → Handler} (hk : h.Kept g)
    (goes : ∀ g', h.Kept g' → h.Rests released (next g')) : h.Rests released (reply r next g) := by
  have hc := Stream.closed_writeAll r.encode g.client
  refine reply_elim ?_ ?_ ?_
  · intro e c hw
    rw [hw] at hc
    have hk' : h.Kept { g with session := g.session.move [.wrote r.encode (some e)] c } := hk.session hc
    exact rests_fail hk' e
  · intro c hw
    rw [hw] at hc
    exact goes _ ⟨hk.label, hk.client, hc.trans hk.closed⟩
  · intro _ x
    exact rests_fail hk (.sequence x)

theorem rests_dialFailed (hk : h.Kept g) (f : Fault) : h.Rests released (dialFailed f g) := by
  unfold dialFailed
  split
  · exact rests_reply ⟨hk.label, hk.client, hk.closed⟩ fun g' hk' => .ends hk'
  · exact rests_fail hk _

theorem rests_watch (m : Moment) (rest : Watch) (hk : h.Kept g) : h.Rests m.released (watch m rest g) := by
  induction rest with
  | done => exact rests_relay m _ ⟨hk.label, hk.client, hk.closed⟩
  | raise f => exact rests_fail hk _
  | hold next ih =>
    unfold watch
    split
    · exact ih
    · next hr => exact .waits ⟨hk.label, hk.client, hk.closed⟩ rfl (by simpa [Settled] using hr)

theorem rests_callback (m : Moment) (hk : h.Kept g) : h.Rests m.released (callback m g) := by
  unfold callback
  cases m.surroundings.callback with
  | none => exact rests_relay m _ ⟨hk.label, hk.client, hk.closed⟩
  | some told => exact rests_watch m _ ⟨hk.label, hk.client, hk.closed⟩

theorem rests_connected (m : Moment) (u : Stream) (hk : h.Kept g) :
    h.Rests m.released (connected m u g) := by
  refine rests_reply ⟨hk.label, hk.client, hk.closed⟩ fun g' hk' => ?_
  exact rests_callback m ⟨hk'.label, hk'.client, hk'.closed⟩

theorem rests_dial (m : Moment) (r : Request) (hk : h.Kept g) : h.Rests m.released (dial m r g) := by
  have hk' : h.Kept (g.act (.dial (r.targetText?.getD "") r.port)) := ⟨hk.label, hk.client, hk.closed⟩
  unfold dial
  dsimp only
  split
  · exact rests_dialFailed hk _
  · split
    · exact rests_dialFailed hk' _
    · exact .waits ⟨hk.label, hk.client, hk.closed⟩ rfl trivial
    · exact rests_connected m _ hk'

theorem rests_serve (m : Moment) (r : Request) (hk : h.Kept g) : h.Rests m.released (serve m r g) := by
  unfold serve
  dsimp only
  split
  · split
    · exact rests_dial m r ⟨hk.label, hk.client, hk.closed⟩
    · exact rests_reply ⟨hk.label, hk.client, hk.closed⟩ fun g' hk' => .ends hk'
  · exact .ends ⟨hk.label, hk.client, hk.closed⟩

/-! ## Runs -/

theorem rests_afterHandshake {E : Failure → Session Stream → Prop}
    {R : Option Request → Session Stream → Prop} (m : Moment) (timer : Option Timer)
    {p : Progress Stream (Option Request)} (hp : Session.Course E R h.session p) :
    h.Rests m.released (afterHandshake m timer h p) := by
  have hc : p.session.channel.closed = h.client.closed := by
    refine hp.keeps (P := fun c => c.closed = h.client.closed) ?_ ?_ rfl
    · exact fun n c hc => (Stream.closed_readExact n c).trans hc
    · exact fun bs c hc => (Stream.closed_writeAll bs c).trans hc
  cases p with
  | waiting stage s =>
    obtain ⟨c, hw⟩ := hp.waits rfl
    -- A read that waits leaves the channel alone, so it would wait again.
    obtain rfl : s.channel = c := Stream.readExact_waiting hw
    exact .waits ⟨rfl, rfl, hc⟩ rfl hw
  | raised e s =>
    have hk : h.Kept { h with session := s } := (Kept.refl h).session hc
    exact rests_fail hk e
  | returned r s =>
    cases r with
    | none => exact .ends ⟨rfl, rfl, hc⟩
    | some r => exact rests_serve m r ⟨rfl, rfl, hc⟩

theorem rests_start (m : Moment) (label : String) (info : ConnectionInfo) {s : Session Stream}
    (hs : s.endpoint.phase = .new) :
    Rests m.released ⟨label, info, s, none, [], .handshaking (.offer .version) none⟩
      (start m label info s) := by
  unfold start
  dsimp only
  split
  · exact rests_fail (Kept.refl _) _
  · exact rests_afterHandshake m _ (Session.course_handshake Channel.Stream.plain hs)

theorem rests_resume (m : Moment) (hn : h.isEnded = false) : h.Rests m.released (h.resume m) := by
  unfold resume
  split
  · exact rests_afterHandshake m _ (Session.course_resumeHandshake Channel.Stream.plain _ _)
  · exact rests_watch m _ (Kept.refl h)
  · exact rests_relay m _ (Kept.refl h)
  · next hc => exact .waits (Kept.refl h) hn (by simp [Settled, hc])
  · next hc => simp [isEnded, hc] at hn

/-- A timer that runs out ends a handler that has set one. -/
theorem rests_expire (h : Handler) : h.expire = h ∨ h.Rests released h.expire := by
  unfold expire
  split
  · exact .inr (rests_fail (Kept.refl h) _)
  · exact .inr (rests_dialFailed (Kept.refl h) _)
  · exact .inl rfl
  · exact .inl rfl
  · exact .inl rfl

end Handler
end Socks5
