import Socks5.Proofs.Server.Timers

/-!
When waiting ends. A timer that runs out ends its handler and closes the client's channel
(`Handler.Dropped`), and a handler that has ended stays as it is (`cutOff_advance`). Whoever's timer does not
run out is left alone by an advance (`Server.untouched_advance`). So timers fire exactly when they are due
(`Punctual`, `timers_exact`).
-/
namespace Socks5

open Channel (Stream)

/-! ## Timers that run out -/

namespace Handler

variable {h : Handler}

/-- The handler has ended and closed its client's channel, and its last act is that of `t`. -/
structure Dropped (t : List Happening) (h : Handler) : Prop where
  ended : h.isEnded = true
  closed : h.client.closed = true
  past : h.past = t

theorem dialTimedOut_eq (h : Handler) :
    ∃ es, dialTimedOut h = reply .ttlExpired (finish .returned) (h.noteAll es) := ⟨_, rfl⟩

section

variable (ho : h.outbound = none)

include ho

theorem client_finish (o : Outcome) : (h.finish o).client = h.client.close := by
  refine (finish_spec o h).2.2 ?_
  rintro ⟨u, f, hu, -⟩
  rw [ho] at hu
  cases hu

theorem dropped_finish (o : Outcome) : (h.finish o).Dropped h.past :=
  ⟨(finish_keeps o h).1, by rw [client_finish ho]; rfl, past_finish o h⟩

theorem dropped_fail (e : Failure) : (fail e h).Dropped h.past := by
  unfold fail
  repeat' split
  all_goals first
    | exact dropped_finish (h := h.noteAll _) ho _
    | exact dropped_finish ho _

theorem dropped_reply (r : ReplyCode) : (reply r (finish .returned) h).Dropped h.past := by
  have hfail : ∀ s e, Dropped h.past (fail e { h with session := s }) := fun s e =>
    dropped_fail (h := { h with session := s }) ho e
  have hends : ∀ s i, Dropped h.past (finish .returned { h with session := s, info := i }) := fun s i =>
    dropped_finish (h := { h with session := s, info := i }) ho .returned
  exact reply_elim (P := fun g => g.Dropped h.past) (fun e c _ => hfail _ e) (fun c _ => hends _ _)
    fun _ x => hfail h.session (.sequence x)

theorem dropped_expire {x : Timer} (hx : h.timer? = some x) : h.expire.Dropped h.past := by
  unfold timer? at hx
  unfold expire
  cases hc : h.control with
  | handshaking stage timer => exact dropped_fail ho _
  | dialling timer =>
    obtain ⟨es, he⟩ := dialTimedOut_eq h
    dsimp only
    rw [he]
    exact dropped_reply (h := h.noteAll es) ho _
  | _ => simp [hc] at hx

/-- A handshake that is cut off is told nothing. -/
theorem written_expire_handshaking {stage : Stage} {timer : Option Timer}
    (hc : h.control = .handshaking stage timer) : h.expire.client.written = h.client.written := by
  have he : h.expire = finish .returned (h.note .warning "Connection timeout" []) := by
    rw [expire, hc]
    rfl
  rw [he, client_finish (h := h.note .warning "Connection timeout" []) ho]
  rfl

/-- A dial that is cut off is answered. -/
theorem written_expire_dialling {timer : Option Timer} (hc : h.control = .dialling timer)
    (hp : h.session.endpoint.phase = .requestDone) (hf : h.client.writeFault = none) :
    h.expire.client.written = h.client.written ++ ReplyCode.ttlExpired.encode ∧
      h.expire.info.reply = some .ttlExpired := by
  obtain ⟨es, he⟩ := dialTimedOut_eq h
  obtain ⟨s, hs, hr⟩ := reply_of_writes (h := h.noteAll es) hp hf .ttlExpired (finish .returned)
  have hexpire : h.expire = dialTimedOut h := by rw [expire, hc]
  rw [hexpire, he, hr]
  generalize hg : ({ h.noteAll es with
    session := s, info := { (h.noteAll es).info with reply := some .ttlExpired } } : Handler) = g
  have hu : g.outbound = none := by
    rw [← hg]
    exact ho
  rw [client_finish hu, (finish_keeps .returned g).2.2, ← hg]
  exact ⟨congrArg Stream.written hs, rfl⟩

end

end Handler

/-! ## Advances -/

namespace Server

variable {w : Surroundings} {s : Server} {id : Nat} {h : Handler} {x : Timer} {span : Time}

/-- The client with this number, and what happened for it, is as it was. -/
def Untouched (id : Nat) (s s' : Server) : Prop :=
  s'.clients[id]? = s.clients[id]? ∧ s'.historyOf id = s.historyOf id

theorem handled_of_mem_due {t : Timer × Nat} (ht : t ∈ s.due) :
    ∃ h, s.clients[t.2]? = some (.handled h) ∧ h.timer? = some t.1 ∧ t.1.due ≤ s.now := by
  unfold due at ht
  obtain ⟨id, -, ht⟩ := List.mem_filterMap.1 ht
  cases hb : s.clients[id]?.bind Client.handler? with
  | none => simp [hb] at ht
  | some h =>
    cases hx : h.timer? with
    | none => simp [hb, hx] at ht
    | some x =>
      by_cases hd : x.due ≤ s.now
      · obtain rfl : (x, id) = t := by simpa [hb, hx, hd] using ht
        exact ⟨h, clients_of_handler hb, hx, hd⟩
      · simp [hb, hx, hd] at ht

/-- An advance is nothing to a client whose timer does not run out. -/
theorem untouched_advance
    (hn : ∀ h x, s.clients[id]? = some (.handled h) → h.timer? = some x → s.now + span < x.due) :
    s.Untouched id (s.advance span) := by
  unfold advance
  dsimp only
  generalize hs' : ({ s with now := s.now + span } : Server) = s'
  have hkeep : s.Untouched id s' := by
    rw [← hs']
    exact ⟨rfl, rfl⟩
  refine List.foldlRecOn (motive := fun u => s.Untouched id u) _ _ hkeep fun u hu t ht => ?_
  have hne : t.2 ≠ id := by
    rintro rfl
    obtain ⟨h, hc, hx, hd⟩ := handled_of_mem_due (List.mem_mergeSort.1 ht)
    rw [← hs'] at hc hd
    exact absurd hd (not_le.2 (hn h t.1 hc hx))
  obtain ⟨hc, hh⟩ := run_other hne Handler.expire u
  exact ⟨hc.trans hu.1, hh.trans hu.2⟩

/-- A timer that an advance reaches runs out, and nothing is dialled or relayed with it. -/
theorem expires_advance (w : Surroundings) (hk : (s.view id h.info.client).Known h.info.client)
    (hc : s.clients[id]? = some (.handled h)) (ho : h.outbound = none) (hx : h.timer? = some x)
    (hd : x.due ≤ s.now + span) :
    (s.advance span).clients[id]? = some (.handled h.expire.forgetful) ∧
      (ledger ((s.advance span).historyOf id)).dials = (ledger (s.historyOf id)).dials ∧
      (ledger ((s.advance span).historyOf id)).relays = (ledger (s.historyOf id)).relays := by
  have hv := view_advance w span hk.named
  generalize hu : ({ s.view id h.info.client with now := (s.view id h.info.client).now + span } : View) = u
  have huc : u.client = some (.handled h) := by
    rw [← hu]
    exact hc
  have hdue : u.isDue = true := (View.isDue_iff huc).2 ⟨x, hx, by rw [← hu]; exact hd⟩
  have hn : h.isEnded = false := Handler.isEnded_of_timer? hx
  have hrun : (s.advance span).view id h.info.client = u.run Handler.expire := by
    rw [hv, View.step, hu, if_pos hdue]
  rcases View.run_cases Handler.expire u with ⟨-, hended⟩ | ⟨g, hg, -, he⟩
  · rw [hended h huc] at hn
    cases hn
  · rw [huc] at hg
    cases hg
    rw [he, ← hu] at hrun
    -- What the handler did comes after its last act, and it had told of all that came before.
    obtain ⟨hpast, -⟩ := List.append_eq_nil_iff.1 (hk.named h hc).1
    have hhist : h.expire.history = h.expire.session.trace.map .moved := by
      rw [Handler.history, (Handler.dropped_expire ho hx).past, hpast, List.nil_append]
    have hledger := (congrArg (fun v => ledger v.history) hrun).symm
    dsimp only [view] at hledger
    rw [hhist, ledger_unnumbered] at hledger
    obtain ⟨hdials, hrelays⟩ :=
      ledger_moved ((s.historyOf id).map Happening.unnumbered) h.expire.session.trace
    rw [hledger, ledger_unnumbered] at hdials hrelays
    exact ⟨congrArg View.client hrun, hdials, hrelays⟩

/-- The client with this number is done with: its handler has ended and closed its channel, the registry does
not tell of it, and no relay was started for it. -/
structure CutOff (id : Nat) (h : Handler) (s : Server) : Prop where
  there : s.clients[id]? = some (.handled h)
  ended : h.isEnded = true
  closed : h.client.closed = true
  unregistered : ∀ label, (label, id) ∉ s.registry
  unrelayed : (ledger (s.historyOf id)).relays = []

end Server

/-! ## Deadlines -/

section

variable {w : Surroundings} {config : ServerConfig} {T C span : Time} {id : Nat} {h : Handler} {x : Timer}
  {before : List Service.Step}

/-- Whoever's timer is reached by an advance is done with from then on. -/
theorem cutOff_advance
    (hc : ((Service.fresh config).runAll w before).server.clients[id]? = some (.handled h))
    (hr : (ledger (((Service.fresh config).runAll w before).server.historyOf id)).relays = [])
    (ho : h.outbound = none) (hx : h.timer? = some x)
    (hd : x.due ≤ ((Service.fresh config).runAll w before).server.now + span) (rest : List Service.Step) :
    let s := ((Service.fresh config).runAll w (before ++ .client (.advance span) :: rest)).server
    ∃ g, s.CutOff id g ∧ h.expire.Over g ∧ (ledger (s.historyOf id)).dials =
      (ledger (((Service.fresh config).runAll w before).server.historyOf id)).dials := by
  intro s
  let s' := ((Service.fresh config).runAll w before).step w (.client (.advance span))
  have hs : s = (s'.runAll w rest).server := congrArg Service.server (Service.runAll_append w _ before _)
  have hknown := Service.acquainted_runAll w config before
  obtain ⟨hclient, hdials, hrelays⟩ := Server.expires_advance w (hknown id h hc) hc ho hx hd
  have hdropped := Handler.dropped_expire ho hx
  obtain ⟨g, hg, hover, hledger⟩ :=
    Service.over_runAll (w := w) (s := s') (Service.acquainted_step hknown _) hclient hdropped.ended rest
  rw [← hs] at hg hledger
  refine ⟨g, ⟨hg, hover.ended, hover.closed.trans hdropped.closed, fun label hmem => ?_, ?_⟩, ?_, ?_⟩
  · have hpresent := (Server.tidy_runAll w config _).present label id hmem
    rw [Server.present, show s.clients[id]? = _ from hg] at hpresent
    simp [Client.present, hover.ended] at hpresent
  · rw [hledger]
    exact hrelays.trans hr
  · exact ⟨hover.ended, hover.info, hover.closed, hover.written⟩
  · rw [hledger]
    exact hdials

/-- A handshake that an advance reaches the limit of is told nothing more, and nothing is dialled for it. -/
theorem cutOff_handshaking
    (hc : ((Service.fresh config).runAll w before).server.clients[id]? = some (.handled h)) {stage : Stage}
    (hctl : h.control = .handshaking stage (some x)) (ho : h.outbound = none)
    (hd : x.due ≤ ((Service.fresh config).runAll w before).server.now + span) (rest : List Service.Step) :
    let s := ((Service.fresh config).runAll w (before ++ .client (.advance span) :: rest)).server
    ∃ g, s.CutOff id g ∧ (g.client.written = [] ∨ g.client.written = [5, 0]) ∧
      (ledger (s.historyOf id)).dials = [] := by
  obtain ⟨hsound, hhist⟩ := sound_of_handled hc
  obtain ⟨hdials, hrelays, hwritten⟩ := hsound.handshaking hhist hctl
  have hx : h.timer? = some x := by rw [Handler.timer?, hctl]
  obtain ⟨g, hcut, hover, hsame⟩ := cutOff_advance hc hrelays ho hx hd rest
  refine ⟨g, hcut, ?_, hsame.trans hdials⟩
  rwa [hover.written, Handler.written_expire_handshaking ho hctl]

/-- A dial that an advance reaches the limit of is answered, if that can be written. -/
theorem cutOff_dialling
    (hc : ((Service.fresh config).runAll w before).server.clients[id]? = some (.handled h))
    (hctl : h.control = .dialling (some x)) (ho : h.outbound = none)
    (hd : x.due ≤ ((Service.fresh config).runAll w before).server.now + span) (rest : List Service.Step) :
    let s := ((Service.fresh config).runAll w (before ++ .client (.advance span) :: rest)).server
    ∃ g, s.CutOff id g ∧ (h.client.writeFault = none →
      g.client.written = [5, 0] ++ ReplyCode.ttlExpired.encode ∧ g.info.reply = some .ttlExpired) := by
  obtain ⟨hsound, hhist⟩ := sound_of_handled hc
  obtain ⟨r, hdials⟩ := hsound.dialling hhist hctl
  have hrelays : (ledger (((Service.fresh config).runAll w before).server.historyOf id)).relays = [] := by
    refine (authorised_runAll w config before id).unanswered ?_
    rw [hdials.writes]
    simp
  have hx : h.timer? = some x := by rw [Handler.timer?, hctl]
  obtain ⟨g, hcut, hover, -⟩ := cutOff_advance hc hrelays ho hx hd rest
  refine ⟨g, hcut, fun hf => ?_⟩
  obtain ⟨hw, hreply⟩ := Handler.written_expire_dialling ho hctl hdials.phase hf
  have hwritten : h.client.written = [5, 0] := by
    rw [show h.client.written = _ from hdials.stands.written, Ledger.written, hdials.writes, hdials.relayed]
    rfl
  refine ⟨?_, by rw [hover.info, hreply]⟩
  rw [hover.written, hw, hwritten]

/-- What an advance after a run is to a client with this handler. If its handshake goes on, the advance that
reaches the handshake's limit from when it came is the end of it, with no more than the answer to its offer; if
its dial is pending, the advance that reaches the dial's limit from when that was made, with the reply that time
is up if that can be written. Any other advance is nothing to it, and so is every advance once it has come
further than that. -/
def Punctual (w : Surroundings) (config : ServerConfig) (T C : Time) (before : List Service.Step) (id : Nat)
    (span : Time) (h : Handler) : Prop :=
  let s := ((Service.fresh config).runAll w before).server
  let after := fun rest =>
    ((Service.fresh config).runAll w (before ++ .client (.advance span) :: rest)).server
  match h.control with
  | .handshaking _ _ =>
    (∃ t, ComesAt w config id before t) ∧ ∀ t, ComesAt w config id before t → s.now < t + T ∧
      (t + T ≤ s.now + span → ∀ rest, ∃ g, (after rest).CutOff id g ∧
        (g.client.written = [] ∨ g.client.written = [5, 0]) ∧
        (ledger ((after rest).historyOf id)).dials = []) ∧
      (s.now + span < t + T → s.Untouched id (after []))
  | .dialling _ =>
    (∃ t, DialsAt w config id before t) ∧ ∀ t, DialsAt w config id before t → s.now < t + C ∧
      (t + C ≤ s.now + span → ∀ rest, ∃ g, (after rest).CutOff id g ∧
        (h.client.writeFault = none → g.client.written = [5, 0] ++ ReplyCode.ttlExpired.encode ∧
          g.info.reply = some .ttlExpired)) ∧
      (s.now + span < t + C → s.Untouched id (after []))
  | .watched _ | .relaying _ | .ended _ => s.Untouched id (after [])

/-- Timers fire exactly when they are due: for every client of every run, and for every advance after it. -/
theorem timers_exact (w : Surroundings) (config : ServerConfig) (T C : Time)
    (hT : config.handshakeTimeout = some T) (hC : config.connectTimeout = some C) (before : List Service.Step)
    (id : Nat) (h : Handler)
    (hc : ((Service.fresh config).runAll w before).server.clients[id]? = some (.handled h)) (span : Time) :
    Punctual w config T C before id span h := by
  let s := ((Service.fresh config).runAll w before).server
  let after := fun rest =>
    ((Service.fresh config).runAll w (before ++ .client (.advance span) :: rest)).server
  have hafter : after [] = s.advance span := congrArg Service.server (Service.runAll_append w _ before _)
  have ht := timed_runAll w config before hc
  rw [hT, hC] at ht
  have untouched : (∀ x, h.timer? = some x → s.now + span < x.due) → s.Untouched id (after []) := by
    intro hn
    rw [hafter]
    refine Server.untouched_advance fun g x hg hx => ?_
    obtain rfl : h = g := Client.handled.inj (Option.some.inj (hc.symm.trans hg))
    exact hn x hx
  unfold Handler.Timed Handler.Waits at ht
  unfold Handler.timer? at untouched
  unfold Punctual
  cases hctl : h.control with
  | handshaking stage timer =>
    rw [hctl] at ht untouched
    obtain ⟨⟨t, hcame, hruns⟩, ho⟩ := ht
    obtain ⟨rfl, hnow⟩ := hruns.some
    refine ⟨⟨t, hcame⟩, fun t' hcame' => ?_⟩
    obtain rfl : t = t' := hcame.unique Server.hasCome_step hcame'
    refine ⟨hnow, cutOff_handshaking hc hctl ho, fun hlt => untouched ?_⟩
    rintro x ⟨⟩
    exact hlt
  | dialling timer =>
    rw [hctl] at ht untouched
    obtain ⟨⟨t, hdialled, hruns⟩, ho⟩ := ht
    obtain ⟨rfl, hnow⟩ := hruns.some
    refine ⟨⟨t, hdialled⟩, fun t' hdialled' => ?_⟩
    obtain rfl : t = t' := hdialled.unique Server.hasDialled_step hdialled'
    refine ⟨hnow, cutOff_dialling hc hctl ho, fun hlt => untouched ?_⟩
    rintro x ⟨⟩
    exact hlt
  | _ =>
    rw [hctl] at untouched
    exact untouched nofun

end

/-- A network in which every dial hangs. -/
def silent : Surroundings where
  network _ _ := .hangs

/-- Dials may take longer than handshakes. -/
def lenient : ServerConfig := { connectTimeout := some 40 }

/-- A client sends its offer only, and another asks for port 80 of 10.0.0.1. -/
def waiting : List Service.Step :=
  [.client (.connect { sent := [5, 1, 0] }),
    .client (.connect { guest with sent := [5, 1, 0, 5, 1, 0, 1, 10, 0, 0, 1, 0, 80] })]

/-- After half a minute the first is done with and nothing has happened to the second, which is told that time
is up ten seconds after that. -/
theorem timers_exact_waiting :
    (∀ rest, ∃ g,
      ((Service.fresh lenient).runAll silent (waiting ++ .client (.advance 30) :: rest)).server.CutOff 0 g ∧
      (g.client.written = [] ∨ g.client.written = [5, 0])) ∧
    ((Service.fresh lenient).runAll silent waiting).server.Untouched 1
      ((Service.fresh lenient).runAll silent (waiting ++ [.client (.advance 30)])).server ∧
    ∀ rest, ∃ g,
      ((Service.fresh lenient).runAll silent (waiting ++ .client (.advance 40) :: rest)).server.CutOff 1 g ∧
      g.client.written = [5, 0] ++ ReplyCode.ttlExpired.encode := by
  have hcame : ComesAt silent lenient 0 waiting 0 := ⟨0, by decide, by decide +kernel, rfl⟩
  have hdialled : DialsAt silent lenient 1 waiting 0 := ⟨1, by decide +kernel, by decide +kernel, rfl⟩
  have first := timers_exact silent lenient 30 40 rfl rfl waiting 0 _ rfl 30
  have second := timers_exact silent lenient 30 40 rfl rfl waiting 1 _ rfl
  refine ⟨fun rest => ?_, ?_, fun rest => ?_⟩
  · obtain ⟨g, hcut, hw, -⟩ := (first.2 0 hcame).2.1 (by decide +kernel) rest
    exact ⟨g, hcut, hw⟩
  · exact ((second 30).2 0 hdialled).2.2 (by decide +kernel)
  · obtain ⟨g, hcut, hw⟩ := ((second 40).2 0 hdialled).2.1 (by decide +kernel) rest
    exact ⟨g, hcut, (hw rfl).1⟩

end Socks5
