import Socks5.Proofs.Server.Closing

/-!
What a handler goes on to. Behind its last message to the client its callback goes on, it relays or it ends, and
what the relay and the closing leave alone stays so (`Handler.Committed`). Before that it waits for bytes under the
timer that was set when it started, or for its dial under the timer that was set with the dial, and has no channel to
its target (`Handler.Waits`, `waits_start`, `waits_resume`).
-/
namespace Socks5

open Channel (Stream)

/-! ## Relays -/

namespace Relay

/-- What the relay writes to the client leaves `P` as it is. -/
def Keeps (P : Stream → Prop) : Relay → Prop
  | .done | .raise _ => True
  | .hold next => next.Keeps P
  | .receive _ _ next => ∀ r, (next r).Keeps P
  | .send dest bs next => (dest = .client → ∀ c, P c → P (c.writeAll bs).2) ∧ ∀ r, (next r).Keeps P

/-- A relay that never writes to the client. -/
def SparesClient : Relay → Prop
  | .done | .raise _ => True
  | .hold next => next.SparesClient
  | .receive _ _ next => ∀ r, (next r).SparesClient
  | .send dest _ next => dest = .target ∧ ∀ r, (next r).SparesClient

theorem SparesClient.keeps {rest : Relay} (h : rest.SparesClient) (P : Stream → Prop) : rest.Keeps P := by
  induction rest with
  | done => trivial
  | raise e => trivial
  | hold next ih => exact ih h
  | receive source limit next ih => exact fun r => ih r (h r)
  | send dest bs next ih =>
    obtain ⟨rfl, hnext⟩ := h
    exact ⟨nofun, fun r => ih r (hnext r)⟩

theorem keeps_true (rest : Relay) : rest.Keeps fun _ => True := by
  induction rest with
  | done => trivial
  | raise e => trivial
  | hold next ih => exact ih
  | receive source limit next ih => exact ih
  | send dest bs next ih => exact ⟨fun _ _ _ => trivial, ih⟩

end Relay

theorem Channel.Stream.writeAll_of_writeFault {c : Stream} {bs : Bytes} (h : c.writeFault = none) :
    c.writeAll bs = (.ok (), { c with written := c.written ++ bs }) := by
  unfold writeAll
  simp [h]

/-- What neither reading nor closing a channel changes. -/
structure Channel.Lasting (P : Stream → Prop) : Prop where
  reads : ∀ n c, P c → P (c.readSome n).2
  closes : ∀ c, P c → P c.close

theorem Channel.lasting_true : Channel.Lasting fun _ => True := ⟨fun _ _ _ => trivial, fun _ _ => trivial⟩

theorem Channel.lasting_written (bs : Bytes) : Channel.Lasting (·.written = bs) :=
  ⟨fun n c h => (Stream.written_readSome n c).trans h, fun _ h => h⟩

/-! ## Behind the last message -/

/-- The handler only calls back and relays from here on, if it has not ended, and `P` holds of what it relays. -/
def Control.Commits (P : Stream → Prop) : Control → Prop
  | .handshaking _ _ | .dialling _ => False
  | .watched _ => True
  | .relaying rest => rest.Keeps P
  | .ended _ => True

namespace Handler

/-- A handler whose callback goes on, or that relays or has ended, where `P` holds of the client's channel and stays
so. -/
structure Committed (P : Stream → Prop) (h : Handler) : Prop where
  client : P h.client
  control : h.control.Commits P

section

variable {P : Stream → Prop} {h : Handler} {m : Moment}

theorem committed_of_isEnded (he : h.isEnded = true) (hc : P h.client) : h.Committed P := by
  obtain ⟨o, ho⟩ := isEnded_iff.1 he
  exact ⟨hc, by rw [ho]; trivial⟩

variable (hP : Channel.Lasting P)

include hP

theorem committed_finish (hc : P h.client) (o : Outcome) : (h.finish o).Committed P := by
  obtain ⟨-, hs, hn⟩ := finish_spec o h
  refine committed_of_isEnded (finish_keeps o h).1 ?_
  by_cases hstuck : h.Stuck
  · rw [hs hstuck]
    exact hc
  · rw [hn hstuck]
    exact hP.closes _ hc

theorem committed_fail (hc : P h.client) (e : Failure) : (fail e h).Committed P := by
  unfold fail
  repeat' split
  all_goals
    refine committed_finish hP ?_ _
    exact hc

theorem committed_relay (m : Moment) {rest : Relay} (hr : rest.Keeps P) (hc : P h.client) :
    (relay m rest h).Committed P := by
  induction rest generalizing h with
  | done => exact committed_finish hP (h := h.act _) hc _
  | raise e => exact committed_fail hP hc e
  | hold next ih =>
    unfold relay
    split
    · exact ih hr hc
    · exact ⟨hc, hr⟩
  | receive side limit next ih =>
    have hset : ∀ c, ((h.channel side).readSome limit).2 = c → P (h.setChannel c side).client := by
      rintro c rfl
      cases side with
      | client => exact hP.reads limit _ hc
      | target => exact hc
    unfold relay
    rcases ha : (h.channel side).readSome limit with ⟨a, c⟩
    rw [ha] at hset
    cases a with
    | waiting => exact ⟨hc, hr⟩
    | failed e => exact ih _ (hr _) (hset c rfl)
    | done bs => exact ih _ (hr _) (hset c rfl)
  | send side bs next ih =>
    obtain ⟨hw, hnext⟩ := hr
    unfold relay
    refine ih _ (hnext _) ?_
    cases side with
    | client => exact hw rfl _ hc
    | target => exact hc

/-- A reply is sent, or it is not, and then the connection fails. -/
theorem committed_reply {r : ReplyCode} {next : Handler → Handler}
    (hw : P (h.client.writeAll r.encode).2) (hc : h.session.endpoint.phase = .requestDone ∨ P h.client)
    (goes : ∀ g, P g.client → (next g).Committed P) : (reply r next h).Committed P := by
  refine reply_elim (P := fun g => g.Committed P) ?_ ?_ ?_
  · intro e c hwrite
    rw [hwrite] at hw
    exact committed_fail hP (h := { h with session := h.session.move _ c }) hw e
  · intro c hwrite
    rw [hwrite] at hw
    exact goes _ hw
  · intro hp x
    have hc' : P h.client := hc.resolve_left hp
    exact committed_fail hP hc' (.sequence x)

theorem committed_dialFailed (hw : ∀ r : ReplyCode, P (h.client.writeAll r.encode).2) (hc : P h.client)
    (f : Fault) : (dialFailed f h).Committed P := by
  unfold dialFailed
  split
  · exact committed_reply hP (hw _) (.inr hc) fun g hg => committed_finish hP hg _
  · exact committed_fail hP hc _

variable (hr : ∀ info, (m.surroundings.relay info).Keeps P)

include hr

theorem committed_watch (rest : Watch) (hc : P h.client) : (watch m rest h).Committed P := by
  induction rest with
  | done => exact committed_relay hP m (hr _) hc
  | raise f => exact committed_fail hP hc _
  | hold next ih =>
    unfold watch
    split
    · exact ih
    · exact ⟨hc, trivial⟩

theorem committed_callback (hc : P h.client) : (callback m h).Committed P := by
  unfold callback
  cases m.surroundings.callback with
  | none => exact committed_relay hP m (hr _) hc
  | some told => exact committed_watch hP hr (h := h.act _) _ hc

theorem committed_connected (hw : P (h.client.writeAll (ReplyCode.encode .success)).2)
    (hc : h.session.endpoint.phase = .requestDone ∨ P h.client) (u : Stream) :
    (connected m u h).Committed P :=
  committed_reply hP (h := { h with outbound := some u }) hw hc fun _ hg => committed_callback hP hr hg

end

/-- A reply that is due and can be written is written. -/
theorem reply_of_writes {h : Handler} (hp : h.session.endpoint.phase = .requestDone)
    (hf : h.client.writeFault = none) (r : ReplyCode) (next : Handler → Handler) :
    ∃ s : Session Stream, s.channel = { h.client with written := h.client.written ++ r.encode } ∧
      reply r next h = next { h with session := s, info := { h.info with reply := some r } } := by
  have hw : h.client.writeAll r.encode = _ := Stream.writeAll_of_writeFault hf
  refine reply_elim (P := fun g => ∃ s : Session Stream, s.channel = _ ∧
    g = next { h with session := s, info := { h.info with reply := some r } }) ?_ ?_ ?_
  · intro e c ha
    rw [hw] at ha
    cases ha
  · intro c ha
    rw [hw] at ha
    cases ha
    exact ⟨_, rfl, rfl⟩
  · exact fun hn => absurd hp hn

/-! ## What was done before -/

section

variable {h : Handler}

theorem past_finish (o : Outcome) (h : Handler) : (h.finish o).past = h.past := by
  have hu : h.closeOutbound.2.past = h.past := by
    unfold closeOutbound
    cases h.outbound <;> rfl
  unfold finish
  rcases hc : h.closeOutbound with ⟨r, g⟩
  rw [hc] at hu
  cases r with
  | error e => exact hu
  | ok =>
    dsimp only
    rcases hd : g.closeClient with ⟨r, g'⟩
    have hg : g'.past = g.past := by
      rw [closeClient, Prod.mk.injEq] at hd
      rw [← hd.2]
      rfl
    cases r with
    | error e => exact hg.trans hu
    | ok => exact hg.trans hu

theorem past_fail (e : Failure) (h : Handler) : (fail e h).past = h.past := by
  unfold fail
  repeat' split
  all_goals first
    | exact past_finish _ (h.noteAll _)
    | exact past_finish _ h

theorem past_act (a : Act) (h : Handler) : h.past <+: (h.act a).past :=
  ⟨h.session.trace.map .moved ++ [.did a], by simp [act, history]⟩

theorem past_relay (m : Moment) (rest : Relay) (h : Handler) : h.past <+: (relay m rest h).past := by
  induction rest generalizing h with
  | done =>
    unfold relay
    rw [past_finish]
    exact past_act _ h
  | raise e =>
    unfold relay
    simp only [past_fail, List.prefix_refl]
  | hold next ih =>
    unfold relay
    split
    · exact ih h
    · exact List.prefix_refl _
  | receive side limit next ih =>
    have hset : ∀ c, (h.setChannel c side).past = h.past := fun c => by cases side <;> rfl
    unfold relay
    rcases (h.channel side).readSome limit with ⟨a, c⟩
    cases a with
    | waiting => exact List.prefix_refl _
    | failed e => exact hset c ▸ ih _ (h.setChannel c side)
    | done bs => exact hset c ▸ ih _ (h.setChannel c side)
  | send side bs next ih =>
    have hset : ∀ g c, (setChannel g c side).past = g.past := fun g c => by cases side <;> rfl
    unfold relay
    exact (past_act _ h).trans (hset (h.act _) _ ▸ ih _ _)

theorem past_reply {r : ReplyCode} {next : Handler → Handler} (h : Handler)
    (goes : ∀ g, g.past = h.past → h.past <+: (next g).past) : h.past <+: (reply r next h).past := by
  have hfail : ∀ s e, h.past <+: (fail e { h with session := s }).past := fun s e => by
    simp only [past_fail, List.prefix_refl]
  exact reply_elim (P := fun g => h.past <+: g.past) (fun e c _ => hfail _ e) (fun c _ => goes _ rfl)
    fun _ x => hfail h.session (.sequence x)

theorem past_watch (m : Moment) (rest : Watch) (h : Handler) : h.past <+: (watch m rest h).past := by
  induction rest with
  | done => exact (past_act _ h).trans ((past_act _ _).trans (past_relay m _ _))
  | raise f =>
    unfold watch
    simp only [past_fail, List.prefix_refl]
  | hold next ih =>
    unfold watch
    split
    · exact ih
    · exact List.prefix_refl _

theorem past_callback (m : Moment) (h : Handler) : h.past <+: (callback m h).past := by
  unfold callback
  cases m.surroundings.callback with
  | none => exact (past_act _ h).trans (past_relay m _ _)
  | some told => exact (past_act _ h).trans (past_watch m _ _)

theorem past_connected (m : Moment) (u : Stream) (h : Handler) : h.past <+: (connected m u h).past := by
  refine past_reply { h with outbound := some u } fun g hg => ?_
  rw [← hg]
  exact past_callback m (g.note .info "Connection established" [g.targetField])

end

/-! ## Before that -/

/-- The handler waits for bytes under a timer of the one kind, or for its dial under one of the other, and has no
channel to its target meanwhile. -/
def Waits (handshake dial : Option Timer → Prop) (h : Handler) : Prop :=
  match h.control with
  | .handshaking _ timer => handshake timer ∧ h.outbound = none
  | .dialling timer => dial timer ∧ h.outbound = none
  | .watched _ | .relaying _ | .ended _ => True

/-- The timer of something that starts now and is left some time. -/
structure Sets (m : Moment) (limit : Timeout) (timer : Option Timer) : Prop where
  left : Timeout.isSpent limit = false
  timer_eq : timer = m.timer limit

variable {P : Stream → Prop} {h : Handler} {timer : Option Timer} {A A' D D' : Option Timer → Prop}

theorem Waits.imp (hw : h.Waits A D) (ha : ∀ x, A x → A' x)
    (hd : ∀ x, h.control = .dialling x → D x → D' x) : h.Waits A' D' := by
  unfold Waits at hw ⊢
  cases hc : h.control <;> rw [hc] at hw
  · exact hw.imp_left (ha _)
  · exact hw.imp_left (hd _ hc)
  all_goals trivial

theorem Committed.waits (hc : h.Committed P) : h.Waits A D := by
  have hctl := hc.control
  unfold Waits
  cases he : h.control <;> simp [he, Control.Commits] at hctl ⊢

/-- A dial that is left some time is waited for, or the handler is committed. -/
theorem dial_cases (m : Moment) (r : Request) (h : Handler) :
    (dial m r h).Committed (fun _ => True) ∨ ∃ host timer, Sets m m.config.connectTimeout timer ∧
      dial m r h = { h.act (.dial host r.port) with control := .dialling timer } := by
  have hfails : ∀ f g, (dialFailed f g).Committed fun _ => True := fun f _ =>
    committed_dialFailed Channel.lasting_true (fun _ => trivial) trivial f
  unfold dial
  dsimp only
  split
  · exact .inl (hfails _ _)
  · next hs =>
    split
    · exact .inl (hfails _ _)
    · exact .inr ⟨_, _, ⟨Bool.eq_false_iff.2 hs, rfl⟩, rfl⟩
    · exact .inl (committed_connected Channel.lasting_true (fun _ => Relay.keeps_true _) trivial (.inr trivial) _)

theorem serve_cases (m : Moment) (r : Request) (h : Handler) :
    (serve m r h).Committed (fun _ => True) ∨ ∃ info host timer, Sets m m.config.connectTimeout timer ∧
      serve m r h = { ({ h with info := info } : Handler).act (.dial host r.port) with
        control := .dialling timer } := by
  unfold serve
  dsimp only
  split
  · split
    · exact (dial_cases m r _).imp_right fun ⟨host, timer, hs, he⟩ => ⟨_, host, timer, hs, he⟩
    · exact .inl (committed_reply Channel.lasting_true trivial (.inr trivial) fun _ _ =>
        committed_finish Channel.lasting_true trivial _)
  · exact .inl (committed_finish Channel.lasting_true trivial _)

/-- Behind a part of its handshake, a handler waits for more bytes or for the dial that was asked for, or it is
committed. -/
theorem afterHandshake_cases (m : Moment) (timer : Option Timer) (h : Handler)
    (p : Progress Stream (Option Request)) :
    (afterHandshake m timer h p).Committed (fun _ => True) ∨
      (∃ stage s, p = .waiting stage s ∧
        afterHandshake m timer h p = { h with session := s, control := .handshaking stage timer }) ∨
      ∃ r s info host timer', p = .returned (some r) s ∧ Sets m m.config.connectTimeout timer' ∧
        afterHandshake m timer h p =
          { ({ h with session := s, info := info } : Handler).act (.dial host r.port) with
            control := .dialling timer' } := by
  cases p with
  | waiting stage s => exact .inr (.inl ⟨stage, s, rfl, rfl⟩)
  | raised e s => exact .inl (committed_fail Channel.lasting_true trivial e)
  | returned r s =>
    cases r with
    | none => exact .inl (committed_finish Channel.lasting_true trivial _)
    | some r =>
      rcases serve_cases m r { h with session := s } with hc | ⟨info, host, timer', hs, he⟩
      · exact .inl hc
      · exact .inr (.inr ⟨r, s, info, host, timer', rfl, hs, he⟩)

theorem waits_afterHandshake (m : Moment) (ha : A timer) (ho : h.outbound = none)
    (p : Progress Stream (Option Request)) :
    (afterHandshake m timer h p).Waits A (Sets m m.config.connectTimeout) := by
  rcases afterHandshake_cases m timer h p with hc | ⟨stage, s, -, he⟩ | ⟨r, s, info, host, timer', -, hs, he⟩
  · exact hc.waits
  · rw [he]
    exact ⟨ha, ho⟩
  · rw [he]
    exact ⟨hs, ho⟩

theorem waits_start (m : Moment) (label : String) (info : ConnectionInfo) (s : Session Stream) :
    (start m label info s).Waits (Sets m m.config.handshakeTimeout) (Sets m m.config.connectTimeout) := by
  unfold start
  dsimp only
  split
  · exact (committed_fail Channel.lasting_true trivial _).waits
  · next hs => exact waits_afterHandshake m ⟨Bool.eq_false_iff.2 hs, rfl⟩ rfl _

theorem waits_resume {stage : Stage} (m : Moment) (hc : h.control = .handshaking stage timer) (ha : A timer)
    (ho : h.outbound = none) : (h.resume m).Waits A (Sets m m.config.connectTimeout) := by
  unfold resume
  rw [hc]
  exact waits_afterHandshake m ha ho _

theorem Committed.resume (hP : Channel.Lasting P) (hc : h.Committed P) {m : Moment}
    (hr : ∀ info, (m.surroundings.relay info).Keeps P) : (h.resume m).Committed P := by
  have hctl := hc.control
  unfold Handler.resume
  cases he : h.control with
  | watched rest => exact committed_watch hP hr rest hc.client
  | relaying rest =>
    rw [he] at hctl
    exact committed_relay hP m hctl hc.client
  | ended o => exact hc
  | _ =>
    rw [he] at hctl
    exact hctl.elim

/-- A handler that waits neither for its handshake nor for its dial is committed. -/
theorem committed_of_control (hs : ∀ stage timer, h.control ≠ .handshaking stage timer)
    (hd : ∀ timer, h.control ≠ .dialling timer) : h.Committed fun _ => True := by
  refine ⟨trivial, ?_⟩
  cases hc : h.control with
  | handshaking stage timer => exact absurd hc (hs stage timer)
  | dialling timer => exact absurd hc (hd timer)
  | watched rest => trivial
  | relaying rest => exact Relay.keeps_true rest
  | ended o => trivial

/-- A timer that runs out ends the handshake or the dial that it was set for. -/
theorem committed_expire (h : Handler) : h.expire.Committed fun _ => True := by
  unfold expire
  split
  · exact committed_fail Channel.lasting_true trivial _
  · exact committed_dialFailed Channel.lasting_true (fun _ => trivial) trivial _
  · next hc => exact committed_of_control (by simp [hc]) (by simp [hc])
  · next hc => exact committed_of_control (by simp [hc]) (by simp [hc])
  · next hc => exact committed_of_control (by simp [hc]) (by simp [hc])

end Handler
end Socks5
