import Socks5.Proofs.Server.Negotiation

/-!
What one handler does, against the ledger of its client. A handler is sound (`Handler.Sound`) if its
history is lawful and its ledger fits the point that it waits at. Each part of a handler leaves a sound
one (`sound_finish`, `sound_reply`, `sound_relay`, `sound_dial`, `sound_serve`), so a handler is sound
when it starts and stays so whatever happens next (`sound_start`, `sound_resume`, `sound_expire`).
-/
namespace Socks5

open Channel (Stream)

/-- Nothing is known yet of what the client wants. -/
def ConnectionInfo.Blank (i : ConnectionInfo) : Prop :=
  i.command = none ∧ i.targetHost = none ∧ i.targetPort = none ∧ i.reply = none

namespace Handler

section

variable (w : Surroundings) (config : ServerConfig) (t : List Happening)

/-- What the handler did after `t` is lawful, and the channel that a dial opened is in hand. -/
structure Fits (h : Handler) (l : Ledger) : Prop where
  stands : h.session.Stands w config (t ++ h.past) l
  linked : Opened w l → h.outbound.isSome

/-- A handler that waits for its dial. -/
structure Dials (h : Handler) (l : Ledger) (r : Request) : Prop where
  stands : h.session.Stands w config (t ++ h.past) l
  asked : Asked config l.taken r
  dialled : ∃ host, r.targetText? = some host ∧ l.dials = [(host, r.port)] ∧
    w.network host r.port = .hangs
  writes : l.writes = [selected]
  relayed : l.relayed = []
  tells : h.info.Tells r none
  phase : h.session.endpoint.phase = .requestDone

/-- The ledger of the handler, which goes on after `t`, fits the point that it waits at. -/
def Sound (h : Handler) : Prop :=
  match h.control with
  | .handshaking (.offer st) _ => InOffer w config (t ++ h.past) st h.session ∧ h.info.Blank
  | .handshaking (.request st) _ => InRequest w config (t ++ h.past) st h.session ∧ h.info.Blank
  | .dialling _ => ∃ l r, h.Dials w config t l r
  | .watched rest => ∃ l r, h.Fits w config t l ∧ Watching w l h.info rest ∧ Established w config l h.info r
  | .relaying _ => ∃ l r, h.Fits w config t l ∧ l.relays ≠ [] ∧ Established w config l h.info r
  | .ended _ => ∃ l, h.Fits w config t l

end

section

variable {w : Surroundings} {config : ServerConfig} {t : List Happening} {h : Handler} {l : Ledger}

/-! ## Steps of a handler -/

namespace Fits

theorem note (hf : h.Fits w config t l) (level : Level) (text : String)
    (fields : List (String × Value)) : (h.note level text fields).Fits w config t l :=
  ⟨hf.stands.noteAll _, hf.linked⟩

/-- An act of the handler, other than what the relay writes to the client. -/
theorem act (hf : h.session.Stands w config (t ++ h.past) l) {a : Act}
    (ha : ∀ bs, a ≠ .relayed .client bs) (hp : Permits w config l (.did a)) :
    (h.act a).session.Stands w config (t ++ (h.act a).past) (l.enter (.did a)) := by
  refine ⟨?_, ?_⟩
  · have := hf.stands.snoc hp
    simpa [Handler.act, history, Session.told] using this
  · calc (h.act a).session.channel.written = l.written := hf.written
      _ = (l.enter (.did a)).written := by
        cases a with
        | relayed side bs =>
          cases side with
          | client => exact absurd rfl (ha bs)
          | target => rfl
        | _ => rfl

/-- A channel is read, or closed. -/
theorem setChannel (hf : h.Fits w config t l) {side : Side} {c : Stream}
    (hc : c.written = (h.channel side).written) : (h.setChannel c side).Fits w config t l := by
  cases side with
  | client => exact ⟨⟨hf.stands.stands, hc.trans hf.stands.written⟩, hf.linked⟩
  | target => exact ⟨hf.stands, fun _ => rfl⟩

/-- The relay writes to one of its channels. -/
theorem sent (hf : h.Fits w config t l) (hr : l.relays ≠ []) {side : Side} {bs : Bytes}
    {c : Stream} (hc : c.written = (h.channel side).written ++ bs) :
    ((h.act (.relayed side bs)).setChannel c side).Fits w config t
      (l.enter (.did (.relayed side bs))) := by
  cases side with
  | target =>
    exact ⟨Fits.act hf.stands (fun _ => nofun) hr, fun _ => rfl⟩
  | client =>
    refine ⟨⟨?_, ?_⟩, hf.linked⟩
    · have := hf.stands.stands.snoc (x := .did (.relayed .client bs)) hr
      simpa [Handler.act, Handler.setChannel, history, Session.told] using this
    · calc c.written = h.session.channel.written ++ bs := hc
        _ = l.written ++ bs := by rw [hf.stands.written]
        _ = _ := by simp [Ledger.written]

end Fits

/-! ## The end -/

theorem fits_closeOutbound (hf : h.Fits w config t l) : h.closeOutbound.2.Fits w config t l := by
  unfold closeOutbound
  cases hu : h.outbound with
  | none => exact hf
  | some u =>
    have hf' : Fits w config t { h with outbound := some u.waitClosed.2.2 } l := ⟨hf.stands, fun _ => rfl⟩
    exact ⟨hf'.stands.noteAll _, hf'.linked⟩

theorem fits_closeClient (hf : h.Fits w config t l) : h.closeClient.2.Fits w config t l := by
  have hf' : (h.setChannel h.session.channel.waitClosed.2.2 .client).Fits w config t l :=
    hf.setChannel (Stream.written_waitClosed _)
  exact ⟨hf'.stands.noteAll _, hf'.linked⟩

theorem sound_finish (hf : h.Fits w config t l) (o : Outcome) : (h.finish o).Sound w config t := by
  have h1 := fits_closeOutbound hf
  unfold finish
  rcases hc : h.closeOutbound with ⟨r, h'⟩
  rw [hc] at h1
  cases r with
  | error e => exact ⟨l, h1.stands, h1.linked⟩
  | ok =>
    have h2 := fits_closeClient h1
    dsimp only
    rcases hd : h'.closeClient with ⟨r, h''⟩
    rw [hd] at h2
    cases r with
    | error e => exact ⟨l, h2.stands, h2.linked⟩
    | ok => exact ⟨l, h2.stands, h2.linked⟩

theorem sound_fail (hf : h.Fits w config t l) (e : Failure) : (fail e h).Sound w config t := by
  unfold fail
  repeat' split
  all_goals first
    | exact sound_finish (hf.note ..) _
    | exact sound_finish hf _

/-! ## The relay -/

theorem sound_relay (m : Moment) (relay : Relay) {r : Request} (hf : h.Fits w config t l)
    (hr : l.relays ≠ []) (he : Established w config l h.info r) :
    (Handler.relay m relay h).Sound w config t := by
  induction relay generalizing h l with
  | done =>
    exact sound_finish ⟨Fits.act (a := .relayDone h.info.client) hf.stands (fun _ => nofun) hr, hf.linked⟩ _
  | raise e => exact sound_fail hf e
  | hold next ih =>
    unfold Handler.relay
    split
    · exact ih hf hr he
    · exact ⟨l, r, ⟨hf.stands, hf.linked⟩, hr, he⟩
  | receive side limit next ih =>
    have hw := Stream.written_readSome limit (h.channel side)
    unfold Handler.relay
    rcases ha : (h.channel side).readSome limit with ⟨a, c⟩
    rw [ha] at hw
    have hinfo : (h.setChannel c side).info = h.info := by cases side <;> rfl
    cases a with
    | waiting => exact ⟨l, r, ⟨hf.stands, hf.linked⟩, hr, he⟩
    | failed e => exact ih _ (hf.setChannel hw) hr (hinfo ▸ he)
    | done bs => exact ih _ (hf.setChannel hw) hr (hinfo ▸ he)
  | send side bs next ih =>
    have hw := Stream.written_writeAll bs (h.channel side)
    unfold Handler.relay
    rcases ha : (h.channel side).writeAll bs with ⟨a, c⟩
    rw [ha] at hw
    have hinfo : ((h.act (.relayed side bs)).setChannel c side).info = h.info := by cases side <;> rfl
    refine ih _ (hf.sent hr hw) ?_ ?_
    · cases side <;> exact hr
    · rw [hinfo]
      cases side <;> exact ⟨he.asked, he.dialled, he.opened, he.writes, he.tells⟩

/-! ## Replies -/

/-- A reply is permitted once the offer was accepted, and then nothing is written before the relay. -/
theorem sound_reply {code : ReplyCode} {next : Handler → Handler} (hf : h.Fits w config t l)
    (hw : l.writes = [selected]) (hr : l.relayed = []) (hp : code = .success → Opened w l)
    (goes : ∀ h', h'.Fits w config t { l with writes := [selected, (code.encode, none)] } →
      h'.info = { h.info with reply := some code } → h'.outbound = h.outbound →
      (next h').Sound w config t) :
    (reply code next h).Sound w config t := by
  have hlink : ∀ {ws}, Opened w { l with writes := ws } → h.outbound.isSome := hf.linked
  refine hf.stands.sendReply (P := fun p => Sound w config t (afterReply code next h p)) hr hw hp ?_ ?_
  · intro e s' l' hs' hd
    refine sound_fail ⟨hs', ?_⟩ e
    rintro ⟨host, port, u, hds, hn⟩
    exact hf.linked ⟨host, port, u, hd ▸ hds, hn⟩
  · intro s' hs'
    exact goes _ ⟨hs', hlink⟩ rfl rfl

theorem sound_dialFailed (f : Fault) (hf : h.Fits w config t l) (hw : l.writes = [selected])
    (hr : l.relayed = []) : (dialFailed f h).Sound w config t := by
  unfold dialFailed
  split
  · refine sound_reply (hf.note ..) hw hr ?_ fun h' hf' _ _ => sound_finish hf' _
    intro hs
    exact absurd hs f.replyCode_ne_success
  · exact sound_fail hf _

/-! ## The connection -/

theorem sound_startRelay {m : Moment} {r : Request} (hf : h.Fits m.surroundings m.config t l)
    (hr : l.relays = []) (hc : Called m.surroundings l h.info)
    (he : Established m.surroundings m.config l h.info r) :
    (startRelay m h).Sound m.surroundings m.config t := by
  have hp : Permits m.surroundings m.config l (.did (.relay h.info)) := ⟨hr, hc, r, he⟩
  refine sound_relay (r := r) m _ ⟨Fits.act hf.stands (fun _ => nofun) hp, hf.linked⟩ ?_ ?_
  · simp
  · exact ⟨he.asked, he.dialled, he.opened, he.writes, he.tells⟩

/-- The callback returns or raises, or still waits. -/
theorem sound_watch {m : Moment} {rest : Watch} {r : Request} (hf : h.Fits m.surroundings m.config t l)
    (hw : Watching m.surroundings l h.info rest) (he : Established m.surroundings m.config l h.info r) :
    (watch m rest h).Sound m.surroundings m.config t := by
  induction rest with
  | done =>
    obtain ⟨told, hs, hleft⟩ := hw.told
    have hp : Permits m.surroundings m.config l (.did (.callbackDone h.info.client)) :=
      ⟨by simp [hw.callbacks], hw.returns, hw.relays⟩
    have hf' : Fits m.surroundings m.config t (h.act (.callbackDone h.info.client)) _ :=
      ⟨Fits.act hf.stands (fun _ => nofun) hp, hf.linked⟩
    refine sound_startRelay (r := r) hf' hw.relays ?_ ⟨he.asked, he.dialled, he.opened, he.writes, he.tells⟩
    rw [Called, hs]
    exact ⟨hw.callbacks, congrArg (· + 1) hw.returns, hleft.fault?_eq.symm⟩
  | raise f => exact sound_fail hf _
  | hold next ih =>
    unfold watch
    split
    · obtain ⟨told, hs, hleft⟩ := hw.told
      exact ih ⟨⟨told, hs, hleft.next⟩, hw.callbacks, hw.returns, hw.relays⟩
    · exact ⟨l, r, ⟨hf.stands, hf.linked⟩, hw, he⟩

theorem sound_callback {m : Moment} {r : Request} (hf : h.Fits m.surroundings m.config t l)
    (hr : l.relays = []) (hc : l.callbacks = []) (hn : l.returns = 0)
    (he : Established m.surroundings m.config l h.info r) :
    (callback m h).Sound m.surroundings m.config t := by
  unfold callback
  split
  · next hnone => exact sound_startRelay hf hr (by simpa [Called, hnone] using hc) he
  · next told hs =>
    have hp : Permits m.surroundings m.config l (.did (.callback h.info m.active)) := ⟨hc, hr, r, he⟩
    have hf' : Fits m.surroundings m.config t (h.act (.callback h.info m.active)) _ :=
      ⟨Fits.act hf.stands (fun _ => nofun) hp, hf.linked⟩
    refine sound_watch (r := r) hf' ⟨⟨told, hs, .all⟩, ?_, hn, hr⟩
      ⟨he.asked, he.dialled, he.opened, he.writes, he.tells⟩
    exact congrArg (· ++ [h.info]) hc

/-- A dial whose channel was opened. -/
theorem sound_connected {m : Moment} {r : Request} {host : String} {u : Stream}
    (hs : h.session.Stands m.surroundings m.config (t ++ h.past)
      { l with dials := [(host, r.port)] })
    (hl : l = { taken := l.taken, writes := [selected] })
    (ha : Asked m.config l.taken r) (hh : r.targetText? = some host)
    (hn : m.surroundings.network host r.port = .opens u) (ht : h.info.Tells r none) :
    (connected m u h).Sound m.surroundings m.config t := by
  rw [hl] at hs
  have ho : ∀ {ws}, Opened m.surroundings
      { taken := l.taken, writes := ws, dials := [(host, r.port)] } := ⟨host, r.port, u, rfl, hn⟩
  refine sound_reply ⟨hs, fun _ => rfl⟩ rfl rfl (fun _ => ho) fun h' hf' hi hu => ?_
  refine sound_callback (r := r) (hf'.note ..) rfl rfl rfl ⟨ha, ⟨host, hh, rfl⟩, ho, rfl, ?_⟩
  have hinfo : (h'.note .info "Connection established" [h'.targetField]).info = h'.info := rfl
  rw [hinfo, hi]
  exact ⟨ht.1, ht.2.1, ht.2.2.1, rfl⟩

theorem sound_dial {m : Moment} {r : Request}
    (hs : h.session.Stands m.surroundings m.config (t ++ h.past) l)
    (hl : l = { taken := l.taken, writes := [selected] })
    (ha : Asked m.config l.taken r) (ht : h.info.Tells r none)
    (hp : h.session.endpoint.phase = .requestDone) :
    (dial m r h).Sound m.surroundings m.config t := by
  have hd : l.dials = [] := by rw [hl]
  have hw : l.writes = [selected] := by rw [hl]
  have hr : l.relayed = [] := by rw [hl]
  unfold dial
  split
  · exact sound_dialFailed _ ⟨hs, fun h => absurd h (not_opened hd)⟩ hw hr
  · obtain ⟨host, hh⟩ : ∃ host, r.targetText? = some host := by
      obtain ⟨_, _, _, _, hq, _, _, _⟩ := ha
      cases hq
      exact ⟨_, rfl⟩
    have hperm : Permits m.surroundings m.config l (.did (.dial host r.port)) :=
      ⟨hd, hw, r, ha, hh, rfl⟩
    have hs' := Fits.act hs (a := .dial host r.port) (fun _ => nofun) hperm
    simp only [hh, Option.getD_some]
    cases hn : m.surroundings.network host r.port with
    | refuses f =>
      refine sound_dialFailed f ⟨hs', ?_⟩ hw hr
      rintro ⟨_, _, u, hds, hu⟩
      simp [hd] at hds
      rw [← hds.1, ← hds.2, hn] at hu
      cases hu
    | hangs =>
      refine ⟨_, r, ⟨hs', ha, ⟨host, hh, ?_, hn⟩, hw, hr, ht, hp⟩⟩
      simp [hd]
    | opens u =>
      have hc : (h.act (.dial host r.port)).session.Stands m.surroundings m.config
          (t ++ (h.act (.dial host r.port)).past) { l with dials := [(host, r.port)] } := by
        simpa [hd] using hs'
      exact sound_connected hc hl ha hh hn ht

theorem sound_serve {m : Moment} {r : Request} {offer bs : Bytes} (ho : AcceptedOffer offer)
    (hq : r.Spelled bs)
    (hs : h.session.Stands m.surroundings m.config (t ++ h.past)
      { taken := offer ++ bs, writes := [selected] })
    (hi : h.info.Blank) (hp : h.session.endpoint.phase = .requestDone) :
    (serve m r h).Sound m.surroundings m.config t := by
  obtain ⟨c, hc⟩ : ∃ c, r.command = some c := by
    cases hq
    exact ⟨_, rfl⟩
  unfold serve
  simp only [hc]
  split
  · next hallowed =>
    refine sound_dial hs rfl ⟨offer, bs, c, ho, hq, rfl, hc, by simpa using hallowed⟩ ?_ hp
    exact ⟨hc.symm, rfl, rfl, hi.2.2.2⟩
  · refine sound_reply ⟨hs.noteAll _, ?_⟩ rfl rfl nofun fun h' hf' _ _ => sound_finish hf' _
    exact fun h => absurd h (not_opened rfl)

/-! ## Whole runs -/

theorem sound_afterHandshake {m : Moment} {timer : Option Timer}
    {p : Progress Stream (Option Request)}
    (hp : Concludes m.surroundings m.config (t ++ h.past) p) (hi : h.info.Blank) :
    (afterHandshake m timer h p).Sound m.surroundings m.config t := by
  have hnot : ∀ {l : Ledger}, l.dials = [] → Opened m.surroundings l → h.outbound.isSome :=
    fun hd ho => absurd ho (not_opened hd)
  match p, hp with
  | .waiting (.offer st) s, hs => exact ⟨hs, hi⟩
  | .waiting (.request st) s, hs => exact ⟨hs, hi⟩
  | .raised e s, ⟨l, hs, hd⟩ =>
    exact sound_fail (h := { h with session := s }) ⟨hs, hnot hd⟩ e
  | .returned none s, ⟨l, hs, hd⟩ =>
    exact sound_finish (h := { h with session := s, info := _ }) ⟨hs, hnot hd⟩ _
  | .returned (some r) s, ⟨offer, bs, ho, hq, hs, hph⟩ => exact sound_serve ho hq hs hi hph

theorem sound_start {m : Moment} {label : String} {info : ConnectionInfo} {c : Stream}
    (ht : Stands m.surroundings m.config t {}) (hi : info.Blank) (hc : c.written = []) :
    (start m label info { channel := c }).Sound m.surroundings m.config t := by
  have hs : Session.Stands m.surroundings m.config (t ++ []) { channel := c } {} := by
    refine ⟨?_, hc⟩
    simpa [Session.told] using ht
  unfold start
  dsimp only
  split
  · exact sound_fail ⟨hs, fun h => absurd h (not_opened rfl)⟩ _
  · exact sound_afterHandshake (concludes_handshake ⟨[], rfl, hs, rfl⟩) hi

theorem sound_resume {m : Moment} (hs : h.Sound m.surroundings m.config t) :
    (resume m h).Sound m.surroundings m.config t := by
  unfold Sound at hs
  unfold resume
  split at hs
  · next hc =>
    simp only [hc]
    exact sound_afterHandshake (concludes_resumeOffer hs.1) hs.2
  · next hc =>
    simp only [hc]
    exact sound_afterHandshake (concludes_resumeRequest hs.1) hs.2
  · next hc =>
    simp only [hc]
    simpa [Sound, hc] using hs
  · next hc =>
    obtain ⟨l, r, hf, hw, he⟩ := hs
    simp only [hc]
    exact sound_watch hf hw he
  · next hc =>
    obtain ⟨l, r, hf, hr, he⟩ := hs
    simp only [hc]
    exact sound_relay m _ hf hr he
  · next hc =>
    simp only [hc]
    simpa [Sound, hc] using hs

/-- A dial that hangs opens nothing. -/
theorem Dials.not_opened {r : Request} (hd : h.Dials w config t l r) : ¬ Opened w l := by
  obtain ⟨host, _, hds, hn⟩ := hd.dialled
  rintro ⟨host', port', u, hds', hu⟩
  rw [hds, List.cons_eq_cons, Prod.mk.injEq] at hds'
  rw [← hds'.1.1, ← hds'.1.2, hn] at hu
  cases hu

theorem sound_expire (hs : h.Sound w config t) : (expire h).Sound w config t := by
  unfold Sound at hs
  unfold expire
  split at hs
  · next hc =>
    obtain ⟨⟨bs, _, hs, _⟩, _⟩ := hs
    simp only [hc]
    exact sound_fail ⟨hs, fun h => absurd h (not_opened rfl)⟩ _
  · next hc =>
    obtain ⟨⟨offer, bs, _, _, hs, _⟩, _⟩ := hs
    simp only [hc]
    exact sound_fail ⟨hs, fun h => absurd h (not_opened rfl)⟩ _
  · next hc =>
    obtain ⟨l, r, hd⟩ := hs
    simp only [hc]
    exact sound_dialFailed _ ⟨hd.stands, fun h => absurd h hd.not_opened⟩ hd.writes hd.relayed
  · next hc =>
    simp only [hc]
    simpa [Sound, hc] using hs
  · next hc =>
    simp only [hc]
    simpa [Sound, hc] using hs
  · next hc =>
    simp only [hc]
    simpa [Sound, hc] using hs

end

/-! ## What others keep -/

section

variable {w : Surroundings} {config : ServerConfig} {t : List Happening} {h : Handler}

/-- Soundness looks at the history as a whole, and at what the history does not tell. -/
theorem sound_congr {t' : List Happening} {h' : Handler} (hs : h.Sound w config t)
    (hcontrol : h'.control = h.control) (hinfo : h'.info = h.info) (hout : h'.outbound = h.outbound)
    (hend : h'.session.endpoint = h.session.endpoint)
    (hst : ∀ l, h.session.Stands w config (t ++ h.past) l →
      h'.session.Stands w config (t' ++ h'.past) l) :
    h'.Sound w config t' := by
  have hfits : ∀ {l}, h.Fits w config t l → h'.Fits w config t' l :=
    fun hf => ⟨hst _ hf.stands, hout ▸ hf.linked⟩
  unfold Sound at hs ⊢
  rw [hcontrol]
  split at hs
  · obtain ⟨⟨bs, ht, hs, he⟩, hi⟩ := hs
    exact ⟨⟨bs, ht, hst _ hs, hend.trans he⟩, hinfo ▸ hi⟩
  · obtain ⟨⟨offer, bs, ho, ht, hs, he⟩, hi⟩ := hs
    exact ⟨⟨offer, bs, ho, ht, hst _ hs, hend.trans he⟩, hinfo ▸ hi⟩
  · obtain ⟨l, r, hd⟩ := hs
    exact ⟨l, r, hst _ hd.stands, hd.asked, hd.dialled, hd.writes, hd.relayed, hinfo ▸ hd.tells,
      hend ▸ hd.phase⟩
  · obtain ⟨l, r, hf, hw, he⟩ := hs
    exact ⟨l, r, hfits hf, hinfo ▸ hw, hinfo ▸ he⟩
  · obtain ⟨l, r, hf, hr, he⟩ := hs
    exact ⟨l, r, hfits hf, hr, hinfo ▸ he⟩
  · obtain ⟨l, hf⟩ := hs
    exact ⟨l, hfits hf⟩

/-- What a handler did may be kept before it. -/
theorem sound_forgetful (hs : h.Sound w config t) :
    h.forgetful.Sound w config (t ++ h.history) := by
  refine sound_congr hs rfl rfl rfl rfl fun l hl => ⟨?_, hl.written⟩
  have := hl.stands
  simpa [forgetful, history, Session.told] using this

/-- Whatever arrives, nothing more is written. -/
theorem sound_receive (hs : h.Sound w config t) (i : Incoming) :
    ({ h with session := { h.session with channel := i.apply h.client } } : Handler).Sound w config t := by
  refine sound_congr hs rfl rfl rfl rfl fun l hl => ⟨hl.stands, ?_⟩
  rw [← hl.written]
  cases i <;> rfl

theorem stands_of_history {l : Ledger} (hh : h.history = [])
    (hs : h.session.Stands w config (t ++ h.past) l) : Stands w config t l := by
  obtain ⟨hp, ht⟩ := List.append_eq_nil_iff.1 hh
  have := hs.stands
  simpa [Session.told, hp, List.map_eq_nil_iff.1 ht] using this

/-- A history that is sound is lawful, and the client was sent what its ledger tells. -/
theorem Sound.stands (hs : h.Sound w config t) (hh : h.history = []) :
    ∃ l, Stands w config t l ∧ h.client.written = l.written ∧
      (Opened w l → h.outbound.isSome) := by
  unfold Sound at hs
  split at hs
  · obtain ⟨⟨bs, _, hs, _⟩, _⟩ := hs
    exact ⟨_, stands_of_history hh hs, hs.written, fun h => absurd h (not_opened rfl)⟩
  · obtain ⟨⟨offer, bs, _, _, hs, _⟩, _⟩ := hs
    exact ⟨_, stands_of_history hh hs, hs.written, fun h => absurd h (not_opened rfl)⟩
  · obtain ⟨l, r, hd⟩ := hs
    exact ⟨l, stands_of_history hh hd.stands, hd.stands.written, fun h => absurd h hd.not_opened⟩
  · obtain ⟨l, r, hf, _⟩ := hs
    exact ⟨l, stands_of_history hh hf.stands, hf.stands.written, hf.linked⟩
  · obtain ⟨l, r, hf, _⟩ := hs
    exact ⟨l, stands_of_history hh hf.stands, hf.stands.written, hf.linked⟩
  · obtain ⟨l, hf⟩ := hs
    exact ⟨l, stands_of_history hh hf.stands, hf.stands.written, hf.linked⟩

/-- Nothing is done for a client whose handshake goes on, and it was sent the answer to its offer at most. -/
theorem Sound.handshaking (hs : h.Sound w config t) (hh : h.history = []) {stage : Stage}
    {timer : Option Timer} (hc : h.control = .handshaking stage timer) :
    (ledger t).dials = [] ∧ (ledger t).relays = [] ∧ (h.client.written = [] ∨ h.client.written = [5, 0]) := by
  unfold Sound at hs
  rw [hc] at hs
  cases stage with
  | offer st =>
    obtain ⟨⟨bs, _, hs, _⟩, _⟩ := hs
    have hl := (stands_of_history hh hs).ledger_eq
    exact ⟨by rw [hl], by rw [hl], .inl hs.written⟩
  | request st =>
    obtain ⟨⟨offer, bs, _, _, hs, _⟩, _⟩ := hs
    have hl := (stands_of_history hh hs).ledger_eq
    exact ⟨by rw [hl], by rw [hl], .inr hs.written⟩

theorem Sound.dialling (hs : h.Sound w config t) (hh : h.history = []) {timer : Option Timer}
    (hc : h.control = .dialling timer) : ∃ r, h.Dials w config t (ledger t) r := by
  unfold Sound at hs
  rw [hc] at hs
  obtain ⟨l, r, hd⟩ := hs
  obtain rfl := (stands_of_history hh hd.stands).ledger_eq
  exact ⟨r, hd⟩

end
end Handler
end Socks5
