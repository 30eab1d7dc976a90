import Socks5.Server.Handler

/-!
What a handler sees of the others. Of the moment in which it runs it uses the clock, whether its own callback
and relay are released, and the number of connections, and this number goes no further than the callback that is told
of it (`Act.unnumbered`). So a handler does the same, that number apart, in any two moments that look the
same from where it stands (`Moment.seenBy`): when it starts (`unnumbered_start`), goes on
(`unnumbered_resume`) or runs out of time (`unnumbered_expire`).
-/
namespace Socks5

open Channel (Stream)

/-! ## What is left out -/

/-- The act without the number of connections. -/
def Act.unnumbered : Act → Act
  | callback info _ => callback info 0
  | a => a

def Happening.unnumbered : Happening → Happening
  | moved m => moved m
  | did a => did a.unnumbered

/-- What a client sees of a moment: of the others, nothing. -/
def Moment.seenBy (name : String) (m : Moment) : Moment :=
  { m with active := 0, released := m.released.filter (·.2 = name) }

theorem Moment.contains_seenBy (name : String) (m : Moment) (k : Held) :
    (m.seenBy name).released.contains (k, name) = m.released.contains (k, name) := by
  rw [Bool.eq_iff_iff, List.contains_iff_mem, List.contains_iff_mem, seenBy, List.mem_filter]
  exact and_iff_left (decide_eq_true rfl)

namespace Handler

/-- The handler with an unnumbered past. -/
def unnumbered (h : Handler) : Handler := { h with past := h.past.map Happening.unnumbered }

theorem history_unnumbered (h : Handler) :
    h.unnumbered.history = h.history.map Happening.unnumbered := by
  simp [history, unnumbered, Happening.unnumbered]

theorem history_forgetful (h : Handler) : h.forgetful.history = [] := rfl

theorem forgetful_unnumbered (h : Handler) : h.unnumbered.forgetful = h.forgetful := rfl

variable {name : String} {m : Moment} {h : Handler}

/-- A handler with no history of its own has nothing to leave out. -/
theorem unnumbered_of_history (hh : h.history = []) : h.unnumbered = h := by
  obtain ⟨hp, -⟩ := List.append_eq_nil_iff.1 hh
  rw [unnumbered, hp, List.map_nil, ← hp]

theorem forgetful_of_history (hh : h.history = []) : h.forgetful = h := by
  obtain ⟨hp, ht⟩ := List.append_eq_nil_iff.1 hh
  have ht' : h.session.trace = [] := List.map_eq_nil_iff.1 ht
  rw [forgetful, ← hp, ← ht']

theorem unnumbered_act (a : Act) (h : Handler) :
    (h.act a).unnumbered = h.unnumbered.act a.unnumbered := by
  simp [act, unnumbered, history, Happening.unnumbered]

theorem unnumbered_setChannel (c : Stream) (side : Side) (h : Handler) :
    (h.setChannel c side).unnumbered = h.unnumbered.setChannel c side := by
  cases side <;> rfl

theorem channel_unnumbered (side : Side) (h : Handler) : h.unnumbered.channel side = h.channel side := by
  cases side <;> rfl

/-! ## The end -/

theorem closeOutbound_unnumbered (h : Handler) :
    h.unnumbered.closeOutbound = (h.closeOutbound.1, h.closeOutbound.2.unnumbered) := by
  obtain ⟨label, info, session, outbound, past, control⟩ := h
  cases outbound <;> rfl

theorem closeClient_unnumbered (h : Handler) :
    h.unnumbered.closeClient = (h.closeClient.1, h.closeClient.2.unnumbered) := rfl

theorem unnumbered_finish (o : Outcome) (h : Handler) :
    (h.finish o).unnumbered = h.unnumbered.finish o := by
  unfold finish
  rw [closeOutbound_unnumbered]
  rcases h.closeOutbound with ⟨r, h'⟩
  cases r with
  | error e => rfl
  | ok =>
    dsimp only
    rw [closeClient_unnumbered]
    rcases h'.closeClient with ⟨r, h''⟩
    cases r <;> rfl

theorem unnumbered_fail (e : Failure) (h : Handler) : (fail e h).unnumbered = fail e h.unnumbered := by
  unfold fail
  repeat' split
  all_goals exact unnumbered_finish _ _

/-! ## The callback and the relay -/

theorem released_unnumbered (m : Moment) (k : Held) (hn : h.info.client = name) :
    (m.seenBy name).released.contains (k, h.unnumbered.info.client) = m.released.contains (k, h.info.client) := by
  rw [← hn]
  exact m.contains_seenBy h.info.client k

theorem unnumbered_relay (m : Moment) (rest : Relay) (hn : h.info.client = name) :
    (relay m rest h).unnumbered = relay (m.seenBy name) rest h.unnumbered := by
  induction rest generalizing h with
  | done =>
    unfold relay
    rw [unnumbered_finish, unnumbered_act]
    rfl
  | raise e => exact unnumbered_fail e h
  | hold next ih =>
    unfold relay
    rw [released_unnumbered m .relay hn]
    split
    · exact ih hn
    · rfl
  | receive side limit next ih =>
    unfold relay
    rw [channel_unnumbered]
    rcases (h.channel side).readSome limit with ⟨a, c⟩
    have hn' : (h.setChannel c side).info.client = name := by cases side <;> exact hn
    cases a with
    | waiting => rfl
    | failed e =>
      dsimp only
      rw [← unnumbered_setChannel]
      exact ih _ hn'
    | done bs =>
      dsimp only
      rw [← unnumbered_setChannel]
      exact ih _ hn'
  | send side bs next ih =>
    unfold relay
    rw [channel_unnumbered]
    rcases (h.channel side).writeAll bs with ⟨r, c⟩
    have hn' : ((h.act (.relayed side bs)).setChannel c side).info.client = name := by
      cases side <;> exact hn
    have hact : h.unnumbered.act (.relayed side bs) = (h.act (.relayed side bs)).unnumbered :=
      (unnumbered_act (.relayed side bs) h).symm
    dsimp only
    rw [hact, ← unnumbered_setChannel]
    exact ih _ hn'

theorem unnumbered_startRelay (m : Moment) (hn : h.info.client = name) :
    (startRelay m h).unnumbered = startRelay (m.seenBy name) h.unnumbered := by
  have hact : h.unnumbered.act (.relay h.info) = (h.act (.relay h.info)).unnumbered :=
    (unnumbered_act (.relay h.info) h).symm
  change _ = relay (m.seenBy name) (m.surroundings.relay h.info) (h.unnumbered.act (.relay h.info))
  rw [hact]
  exact unnumbered_relay (h := h.act (.relay h.info)) m _ hn

theorem unnumbered_watch (m : Moment) (rest : Watch) (hn : h.info.client = name) :
    (watch m rest h).unnumbered = watch (m.seenBy name) rest h.unnumbered := by
  induction rest with
  | done =>
    have hact : h.unnumbered.act (.callbackDone h.info.client) = (h.act (.callbackDone h.info.client)).unnumbered :=
      (unnumbered_act (.callbackDone h.info.client) h).symm
    change _ = startRelay (m.seenBy name) (h.unnumbered.act (.callbackDone h.info.client))
    rw [hact]
    exact unnumbered_startRelay (h := h.act (.callbackDone h.info.client)) m hn
  | raise f => exact unnumbered_fail _ h
  | hold next ih =>
    unfold watch
    rw [released_unnumbered m .callback hn]
    split
    · exact ih
    · rfl

theorem unnumbered_callback (m : Moment) (hn : h.info.client = name) :
    (callback m h).unnumbered = callback (m.seenBy name) h.unnumbered := by
  have hw : (m.seenBy name).surroundings = m.surroundings := rfl
  unfold callback
  rw [hw]
  cases m.surroundings.callback with
  | none => exact unnumbered_startRelay m hn
  | some told =>
    -- The one act that tells of the others.
    have hact : h.unnumbered.act (.callback h.unnumbered.info (m.seenBy name).active) =
        (h.act (.callback h.info m.active)).unnumbered :=
      (unnumbered_act (.callback h.info m.active) h).symm
    dsimp only
    rw [hact]
    exact unnumbered_watch (h := h.act (.callback h.info m.active)) m _ hn

/-! ## The dial -/

theorem unnumbered_reply {r : ReplyCode} {next next' : Handler → Handler}
    (hnext : ∀ g : Handler, g.info.client = h.info.client → (next g).unnumbered = next' g.unnumbered) :
    (reply r next h).unnumbered = reply r next' h.unnumbered := by
  change _ = afterReply r next' h.unnumbered (h.session.sendReply r)
  unfold reply
  cases h.session.sendReply r with
  | waiting stage s => rfl
  | raised e s => exact unnumbered_fail e _
  | returned u s => exact hnext _ rfl

theorem unnumbered_dialFailed (f : Fault) (h : Handler) :
    (dialFailed f h).unnumbered = dialFailed f h.unnumbered := by
  unfold dialFailed
  split
  · exact unnumbered_reply fun g _ => unnumbered_finish _ g
  · exact unnumbered_fail _ h

theorem unnumbered_connected (m : Moment) (u : Stream) (hn : h.info.client = name) :
    (connected m u h).unnumbered = connected (m.seenBy name) u h.unnumbered := by
  refine unnumbered_reply (h := { h with outbound := some u }) fun g hg => ?_
  exact unnumbered_callback (h := g.note .info "Connection established" [g.targetField]) m (hg.trans hn)

theorem unnumbered_dial (m : Moment) (r : Request) (hn : h.info.client = name) :
    (dial m r h).unnumbered = dial (m.seenBy name) r h.unnumbered := by
  have hact : h.unnumbered.act (.dial (r.targetText?.getD "") r.port) =
      (h.act (.dial (r.targetText?.getD "") r.port)).unnumbered :=
    (unnumbered_act (.dial (r.targetText?.getD "") r.port) h).symm
  have hc : (m.seenBy name).config = m.config := rfl
  have hw : (m.seenBy name).surroundings = m.surroundings := rfl
  unfold dial
  rw [hc, hw]
  dsimp only
  split
  · exact unnumbered_dialFailed _ h
  · rw [hact]
    cases m.surroundings.network (r.targetText?.getD "") r.port with
    | refuses f => exact unnumbered_dialFailed f _
    | hangs => rfl
    | opens u => exact unnumbered_connected (h := h.act _) m u hn

/-! ## The handshake -/

theorem unnumbered_serve (m : Moment) (r : Request) (hn : h.info.client = name) :
    (serve m r h).unnumbered = serve (m.seenBy name) r h.unnumbered := by
  have hc : (m.seenBy name).config = m.config := rfl
  unfold serve
  rw [hc]
  cases r.command with
  | none => exact unnumbered_finish _ _
  | some c =>
    dsimp only
    split
    · exact unnumbered_dial (h := { h with info := _ }) m r hn
    · exact unnumbered_reply (h := Handler.note _ _ _ { h with info := _ }) fun g _ => unnumbered_finish _ g

theorem unnumbered_afterHandshake (m : Moment) (timer : Option Timer) (hn : h.info.client = name)
    (p : Progress Stream (Option Request)) :
    (afterHandshake m timer h p).unnumbered = afterHandshake (m.seenBy name) timer h.unnumbered p := by
  cases p with
  | waiting stage s => rfl
  | raised e s => exact unnumbered_fail e _
  | returned r s =>
    cases r with
    | none => exact unnumbered_finish _ _
    | some r => exact unnumbered_serve (h := { h with session := s }) m r hn

/-! ## Runs -/

theorem unnumbered_start (m : Moment) (label : String) {info : ConnectionInfo} (s : Session Stream)
    (hn : info.client = name) :
    (start m label info s).unnumbered = start (m.seenBy name) label info s := by
  have hc : (m.seenBy name).config = m.config := rfl
  have ht : (m.seenBy name).timer = m.timer := rfl
  unfold start
  rw [hc, ht]
  dsimp only
  split
  · exact unnumbered_fail _ _
  · exact unnumbered_afterHandshake (h := ⟨label, info, s, none, [], .handshaking (.offer .version) none⟩)
      m _ hn _

theorem unnumbered_resume (m : Moment) (hn : h.info.client = name) :
    (h.resume m).unnumbered = h.unnumbered.resume (m.seenBy name) := by
  have hc : h.unnumbered.control = h.control := rfl
  unfold resume
  rw [hc]
  cases h.control with
  | handshaking stage timer => exact unnumbered_afterHandshake m timer hn _
  | watched rest => exact unnumbered_watch m rest hn
  | relaying rest => exact unnumbered_relay m rest hn
  | dialling timer => rfl
  | ended o => rfl

theorem unnumbered_expire (h : Handler) : h.expire.unnumbered = h.unnumbered.expire := by
  have hc : h.unnumbered.control = h.control := rfl
  unfold expire
  rw [hc]
  cases h.control with
  | handshaking stage timer => exact unnumbered_fail _ h
  | dialling timer => exact unnumbered_dialFailed _ h
  | watched rest => rfl
  | relaying rest => rfl
  | ended o => rfl

end Handler
end Socks5
