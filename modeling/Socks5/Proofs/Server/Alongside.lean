import Socks5.Proofs.Server.Rest
import Socks5.Proofs.Wire.Following

/-!
Two handlers side by side. When the client's channels of two handlers correspond (`Channel.Follows`) and
the handlers agree in everything else (`Handler.Beside`), then whatever comes behind the handshake agrees
too, if the relay leaves the client's input alone: the dial, the callback, the replies, the relay and the
end (`Handler.Abreast`).
-/
namespace Socks5

open Channel (Stream)

/-- A relay that never reads from the client. -/
def Relay.LeavesClient : Relay → Prop
  | .done | .raise _ => True
  | .hold next => next.LeavesClient
  | .receive source _ next => source = .target ∧ ∀ r, (next r).LeavesClient
  | .send _ _ next => ∀ r, (next r).LeavesClient

/-- What the handler waits for does not come from the client. -/
def Control.IgnoresClient : Control → Prop
  | .handshaking _ _ => False
  | .relaying rest => rest.LeavesClient
  | .dialling _ | .watched _ | .ended _ => True

/-- Channels that correspond in what is read and written, and when they are closed. -/
structure Channel.Follows (R : Stream → Stream → Prop) : Prop extends Leads R where
  closes : ∀ {c d}, R c d → d.waitClosed.1 = c.waitClosed.1 ∧ d.waitClosed.2.1 = c.waitClosed.2.1 ∧
    R c.waitClosed.2.2 d.waitClosed.2.2

namespace Handler

/-! ## Side by side -/

/-- Two handlers of one client, but for its channel and for what happened to the second before. -/
structure Beside (R : Stream → Stream → Prop) (t₀ : List Move) (t : List Happening) (h h' : Handler) :
    Prop where
  label : h'.label = h.label
  info : h'.info = h.info
  outbound : h'.outbound = h.outbound
  session : h.session.Beside R t₀ h'.session
  past : h'.past ++ t₀.map .moved = t ++ h.past

/-- They have come to the same, and do not wait for the client. -/
def Abreast (R : Stream → Stream → Prop) (t : List Happening) (h h' : Handler) : Prop :=
  (∃ t₀, Beside R t₀ t h h') ∧ h'.control = h.control ∧ h.control.IgnoresClient

/-- A handler before its client is read from. -/
def opening (label : String) (info : ConnectionInfo) (c : Stream) : Handler :=
  ⟨label, info, { channel := c }, none, [], .handshaking (.offer .version) none⟩

variable {R : Stream → Stream → Prop} {t₀ : List Move} {t : List Happening} {h h' : Handler} {m : Moment}

theorem beside_opening {c d : Stream} (hcd : R c d) (label : String) (info : ConnectionInfo) :
    Beside R [] [] (opening label info c) (opening label info d) :=
  ⟨rfl, rfl, rfl, ⟨rfl, hcd, rfl⟩, rfl⟩

namespace Beside

theorem history (hb : Beside R t₀ t h h') : h'.history = t ++ h.history := by
  rw [Handler.history, Handler.history, hb.session.trace, List.map_append, ← List.append_assoc, hb.past,
    List.append_assoc]

theorem withSession (hb : Beside R t₀ t h h') {s s' : Session Stream} (hs : s.Beside R t₀ s') :
    Beside R t₀ t { h with session := s } { h' with session := s' } :=
  ⟨hb.label, hb.info, hb.outbound, hs, hb.past⟩

theorem withControl (hb : Beside R t₀ t h h') {c : Control} (hc : c.IgnoresClient) :
    Abreast R t { h with control := c } { h' with control := c } :=
  ⟨⟨t₀, hb.label, hb.info, hb.outbound, hb.session, hb.past⟩, rfl, hc⟩

theorem withInfo (hb : Beside R t₀ t h h') (f : ConnectionInfo → ConnectionInfo) :
    Beside R t₀ t { h with info := f h.info } { h' with info := f h'.info } :=
  ⟨hb.label, congrArg f hb.info, hb.outbound, hb.session, hb.past⟩

theorem noteAll (hb : Beside R t₀ t h h') (es : List Event) :
    Beside R t₀ t (h.noteAll es) (h'.noteAll es) := hb.withSession (hb.session.move _ hb.session.channel)

theorem note (hb : Beside R t₀ t h h') (level : Level) (text : String) (fields : List (String × Value)) :
    Beside R t₀ t (h.note level text fields) (h'.note level text fields) := by
  unfold Handler.note
  rw [hb.label]
  exact hb.noteAll _

theorem act (hb : Beside R t₀ t h h') (a : Act) : Beside R [] t (h.act a) (h'.act a) := by
  refine ⟨hb.label, hb.info, hb.outbound, ⟨hb.session.endpoint, hb.session.channel, rfl⟩, ?_⟩
  change (h'.history ++ [_]) ++ [] = t ++ (h.history ++ [_])
  rw [hb.history, List.append_nil, List.append_assoc]

theorem targetField (hb : Beside R t₀ t h h') : h'.targetField = h.targetField := by
  unfold Handler.targetField
  rw [hb.info]

theorem released (hb : Beside R t₀ t h h') (k : Held) :
    m.released.contains (k, h'.info.client) = m.released.contains (k, h.info.client) := by
  rw [hb.info]

end Beside

/-! ## The end -/

section

variable (hR : Channel.Follows R)

theorem beside_closeOutbound (hb : Beside R t₀ t h h') :
    h'.closeOutbound.1 = h.closeOutbound.1 ∧ Beside R t₀ t h.closeOutbound.2 h'.closeOutbound.2 := by
  unfold closeOutbound
  rw [hb.outbound]
  cases h.outbound with
  | none => exact ⟨rfl, hb⟩
  | some u => exact ⟨rfl, hb.label, hb.info, rfl, hb.session.move _ hb.session.channel, hb.past⟩

include hR

theorem beside_closeClient (hb : Beside R t₀ t h h') :
    h'.closeClient.1 = h.closeClient.1 ∧ Beside R t₀ t h.closeClient.2 h'.closeClient.2 := by
  obtain ⟨hr, hes, hc⟩ := hR.closes hb.session.channel
  have hs : Session.Beside R t₀ { h.session with channel := h.session.channel.waitClosed.2.2 }
      { h'.session with channel := h'.session.channel.waitClosed.2.2 } :=
    ⟨hb.session.endpoint, hc, hb.session.trace⟩
  unfold closeClient
  dsimp only
  rw [hes]
  exact ⟨hr, (hb.withSession hs).noteAll _⟩

theorem abreast_finish (hb : Beside R t₀ t h h') (o : Outcome) : Abreast R t (h.finish o) (h'.finish o) := by
  obtain ⟨hr, hb⟩ := beside_closeOutbound hb
  unfold finish
  rcases hu : h.closeOutbound with ⟨r, g⟩
  rcases hu' : h'.closeOutbound with ⟨r', g'⟩
  rw [hu, hu'] at hr hb
  obtain rfl : r' = r := hr
  cases r' with
  | error e => exact hb.withControl trivial
  | ok =>
    obtain ⟨hr, hb⟩ := beside_closeClient hR hb
    dsimp only
    rcases hc : g.closeClient with ⟨r, k⟩
    rcases hc' : g'.closeClient with ⟨r', k'⟩
    rw [hc, hc'] at hr hb
    obtain rfl : r' = r := hr
    cases r' with
    | error e => exact hb.withControl trivial
    | ok => exact hb.withControl trivial

theorem abreast_fail (hb : Beside R t₀ t h h') (e : Failure) : Abreast R t (fail e h) (fail e h') := by
  unfold fail
  repeat' split
  all_goals first
    | exact abreast_finish hR hb _
    | exact abreast_finish hR (hb.note _ _ _) _

/-! ## The relay -/

theorem Beside.send (hb : Beside R t₀ t h h') (side : Side) (bs : Bytes) :
    ((h'.channel side).writeAll bs).1 = ((h.channel side).writeAll bs).1 ∧
      Beside R [] t ((h.act (.relayed side bs)).setChannel ((h.channel side).writeAll bs).2 side)
        ((h'.act (.relayed side bs)).setChannel ((h'.channel side).writeAll bs).2 side) := by
  have ha := hb.act (.relayed side bs)
  cases side with
  | client =>
    obtain ⟨hr, hc⟩ := hR.writes bs hb.session.channel
    exact ⟨hr, ha.withSession ⟨ha.session.endpoint, hc, ha.session.trace⟩⟩
  | target =>
    have hu : h'.channel .target = h.channel .target := congrArg (·.getD {}) hb.outbound
    rw [hu]
    exact ⟨rfl, ha.label, ha.info, rfl, ha.session, ha.past⟩

theorem abreast_relay (m : Moment) {rest : Relay} (hl : rest.LeavesClient) (hb : Beside R t₀ t h h') :
    Abreast R t (relay m rest h) (relay m rest h') := by
  induction rest generalizing h h' t₀ with
  | done =>
    unfold relay
    rw [hb.info]
    exact abreast_finish hR (hb.act _) _
  | raise e => exact abreast_fail hR hb e
  | hold next ih =>
    unfold relay
    rw [hb.released]
    split
    · exact ih hl hb
    · exact hb.withControl (c := .relaying (.hold next)) hl
  | receive side limit next ih =>
    obtain ⟨rfl, hnext⟩ := hl
    have hu : h'.channel .target = h.channel .target := congrArg (·.getD {}) hb.outbound
    have hset : ∀ c, Beside R t₀ t (h.setChannel c .target) (h'.setChannel c .target) := fun c =>
      ⟨hb.label, hb.info, rfl, hb.session, hb.past⟩
    unfold relay
    rw [hu]
    rcases (h.channel .target).readSome limit with ⟨a, c⟩
    cases a with
    | waiting => exact hb.withControl ⟨rfl, hnext⟩
    | failed e => exact ih _ (hnext _) (hset c)
    | done bs => exact ih _ (hnext _) (hset c)
  | send side bs next ih =>
    obtain ⟨hr, hs⟩ := hb.send hR side bs
    unfold relay
    dsimp only
    rw [hr]
    exact ih _ (hl _) hs

/-! ## The dial -/

theorem abreast_reply (hb : Beside R t₀ t h h') (r : ReplyCode) {next : Handler → Handler}
    (goes : ∀ g g', Beside R t₀ t g g' → Abreast R t (next g) (next g')) :
    Abreast R t (reply r next h) (reply r next h') := by
  unfold reply
  rcases hb.session.sendReply hR.toLeads r with ⟨e, s, s', hs, hs', hss⟩ | ⟨s, s', hs, hs', hss⟩
  · rw [hs, hs']
    exact abreast_fail hR (hb.withSession hss) e
  · rw [hs, hs']
    exact goes _ _ ((hb.withSession hss).withInfo fun i => { i with reply := some r })

theorem abreast_dialFailed (hb : Beside R t₀ t h h') (f : Fault) :
    Abreast R t (dialFailed f h) (dialFailed f h') := by
  unfold dialFailed
  rw [hb.targetField]
  split
  · exact abreast_reply hR (hb.note _ _ _) _ fun g g' hg => abreast_finish hR hg _
  · exact abreast_fail hR hb _

section

variable (hl : ∀ info, (m.surroundings.relay info).LeavesClient)

include hl

theorem abreast_startRelay (hb : Beside R t₀ t h h') : Abreast R t (startRelay m h) (startRelay m h') := by
  unfold startRelay
  rw [hb.info]
  exact abreast_relay hR m (hl _) (hb.act _)

theorem abreast_watch (rest : Watch) (hb : Beside R t₀ t h h') : Abreast R t (watch m rest h) (watch m rest h') := by
  induction rest with
  | done =>
    unfold watch
    rw [hb.info]
    exact abreast_startRelay hR hl (hb.act _)
  | raise f => exact abreast_fail hR hb _
  | hold next ih =>
    unfold watch
    rw [hb.released]
    split
    · exact ih
    · exact hb.withControl (c := .watched (.hold next)) trivial

theorem abreast_callback (hb : Beside R t₀ t h h') : Abreast R t (callback m h) (callback m h') := by
  unfold callback
  cases m.surroundings.callback with
  | none => exact abreast_startRelay hR hl hb
  | some told =>
    dsimp only
    rw [hb.info]
    exact abreast_watch hR hl _ (hb.act _)

theorem abreast_connected (hb : Beside R t₀ t h h') (u : Stream) :
    Abreast R t (connected m u h) (connected m u h') := by
  have hu : Beside R t₀ t { h with outbound := some u } { h' with outbound := some u } :=
    ⟨hb.label, hb.info, rfl, hb.session, hb.past⟩
  refine abreast_reply hR hu _ fun g g' hg => ?_
  rw [hg.targetField]
  exact abreast_callback hR hl (hg.note _ _ _)

theorem abreast_dial (hb : Beside R t₀ t h h') (r : Request) : Abreast R t (dial m r h) (dial m r h') := by
  have ha := hb.act (.dial (r.targetText?.getD "") r.port)
  unfold dial
  dsimp only
  split
  · exact abreast_dialFailed hR hb _
  · split
    · exact abreast_dialFailed hR ha _
    · exact ha.withControl (c := .dialling _) trivial
    · exact abreast_connected hR hl ha _

theorem abreast_serve (hb : Beside R t₀ t h h') (r : Request) : Abreast R t (serve m r h) (serve m r h') := by
  have hi := hb.withInfo fun i => { i with
    command := r.command, targetHost := r.targetText?, targetPort := some r.port.toNat }
  unfold serve
  dsimp only
  split
  · split
    · exact abreast_dial hR hl hi r
    · exact abreast_reply hR (hi.note _ _ _) _ fun g g' hg => abreast_finish hR hg _
  · exact abreast_finish hR hi _

/-! ## The handshake -/

/-- Either the first handler waits for its client, and the second has gone on with the handshake; or both
have come to the same. -/
theorem abreast_afterHandshake (hb : Beside R t₀ t h h') {p p' : Progress Stream (Option Request)}
    (hp : p.Leads R t₀ id (fun stage s => s.resumeHandshake stage) p') (timer : Option Timer) :
    (∃ stage s s', p = .waiting stage s ∧ p' = s'.resumeHandshake stage ∧ s.Beside R t₀ s' ∧
        s.channel.readExact stage.need = (.waiting, s.channel)) ∨
      Abreast R t (afterHandshake m timer h p) (afterHandshake m timer h' p') := by
  cases hp with
  | @waiting stage c s s' hw hs =>
    obtain rfl : s.channel = c := Stream.readExact_waiting hw
    exact .inl ⟨stage, s, s', rfl, rfl, hs, hw⟩
  | raised hs => exact .inr (abreast_fail hR (hb.withSession hs) _)
  | @returned a s s' hs =>
    cases a with
    | some r => exact .inr (abreast_serve hR hl (hb.withSession hs) r)
    | none =>
      have hr := (hb.withSession hs).withInfo fun i => { i with reply := s.endpoint.rejection }
      refine .inr ?_
      unfold afterHandshake
      dsimp only
      rw [hs.endpoint]
      exact abreast_finish hR hr _

/-- So it is when two handlers start. -/
theorem abreast_start {c d : Stream} (hcd : R c d) (label : String) (info : ConnectionInfo) :
    (∃ stage timer s s', start m label info { channel := c } =
          { opening label info c with session := s, control := .handshaking stage timer } ∧
        start m label info { channel := d } =
          afterHandshake m timer (opening label info d) (s'.resumeHandshake stage) ∧ s.Beside R [] s') ∨
      Abreast R [] (start m label info { channel := c }) (start m label info { channel := d }) := by
  have hb := beside_opening hcd label info
  unfold start
  dsimp only
  split
  · exact .inr (abreast_fail hR hb _)
  · have hp := Session.leads_handshake hR.toLeads hb.session
    rcases abreast_afterHandshake hR hl hb hp _ with ⟨stage, s, s', hs, hs', hss, -⟩ | ha
    · refine .inl ⟨stage, _, s, s', ?_, congrArg _ hs', hss⟩
      change Session.handshake { channel := c } = _ at hs
      rw [hs]
      rfl
    · exact .inr ha

end
end
end Handler
end Socks5
