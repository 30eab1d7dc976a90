import Socks5.Proofs.Server.Closing
import Socks5.Proofs.Server.Life
import Socks5.Proofs.Server.Places

/-!
Handlers that keep their composure. As long as the errors that a handler meets are ordinary ones, and closing a
channel raises no other errors than the system's, each part of it ends by returning (`calm_fail`, `calm_relay`,
`calm_watch`, `calm_serve`), however deep in its own error handling it was. So in every run in which all clients, the
network, the relay and the callback raise ordinary errors only, whatever comes to an end has returned
(`returned_runAll`).
-/
namespace Socks5

open Channel (Stream)

/-! ## Ordinary errors -/

/-- An error that a handler of ordinary errors takes. -/
def Fault.Ordinary (f : Fault) : Prop := f.kind ≠ .base

def Failure.Ordinary : Failure → Prop
  | fault f => f.Ordinary
  | version _ | channel _ | hostName _ | sequence _ => True

theorem Fault.ordinary_timeout : Fault.Ordinary ⟨.timeout, []⟩ := nofun

/-- The relay raises ordinary errors only, if it meets no others. -/
def Relay.Ordinary : Relay → Prop
  | .done => True
  | .raise e => e.Ordinary
  | .hold next => next.Ordinary
  | .receive _ _ next => ∀ r, (∀ e, r = .error e → e.Ordinary) → (next r).Ordinary
  | .send _ _ next => ∀ r, (∀ e, r = .error e → e.Ordinary) → (next r).Ordinary

/-- The callback raises an ordinary error, if it raises one in the end. -/
def Watch.Ordinary : Watch → Prop
  | .done => True
  | .raise f => f.Ordinary
  | .hold next => next.Ordinary

namespace Channel.Stream

/-- Reading and writing raise ordinary errors only, and closing only those of the system. -/
structure Tame (c : Stream) : Prop where
  reads : ∀ f, c.readFault = some f → f.Ordinary
  writes : ∀ f, c.writeFault = some f → f.Ordinary
  closes : ∀ f, c.closeFault = some f → f.kind.isSystem = true

variable {c c' : Stream} {n : Nat} {bs : Bytes} {e : Failure}

/-- What leaves the faults of a channel as they are. -/
theorem Tame.congr (hc : c.Tame) (hr : c'.readFault = c.readFault) (hw : c'.writeFault = c.writeFault)
    (hx : c'.closeFault = c.closeFault) : c'.Tame :=
  ⟨hr ▸ hc.reads, hw ▸ hc.writes, hx ▸ hc.closes⟩

theorem Tame.readExact (hc : c.Tame) (n : Nat) : (c.readExact n).2.Tame := by
  unfold Stream.readExact
  repeat' split
  all_goals exact hc.congr rfl rfl rfl

theorem Tame.readSome (hc : c.Tame) (n : Nat) : (c.readSome n).2.Tame := by
  unfold Stream.readSome
  repeat' split
  all_goals exact hc.congr rfl rfl rfl

theorem Tame.writeAll (hc : c.Tame) (bs : Bytes) : (c.writeAll bs).2.Tame := by
  unfold Stream.writeAll
  dsimp only
  split
  all_goals exact hc.congr rfl rfl rfl

theorem Tame.close (hc : c.Tame) : c.close.Tame := hc.congr rfl rfl rfl

theorem Tame.readExact_failed (hc : c.Tame) (h : (c.readExact n).1 = .failed e) : e.Ordinary := by
  unfold Stream.readExact readFailure at h
  cases hf : c.readFault with
  | some f =>
    have hf' := hc.reads f hf
    rw [hf] at h
    dsimp only at h
    split at h
    all_goals cases h
    · trivial
    · exact hf'
  | none =>
    rw [hf] at h
    dsimp only at h
    repeat' split at h
    all_goals cases h
    trivial

theorem Tame.readSome_failed (hc : c.Tame) (h : (c.readSome n).1 = .failed e) : e.Ordinary := by
  unfold Stream.readSome at h
  cases hf : c.readFault with
  | some f =>
    rw [hf] at h
    cases h
    exact hc.reads f hf
  | none =>
    rw [hf] at h
    dsimp only at h
    split at h
    all_goals cases h

theorem Tame.writeAll_error (hc : c.Tame) (h : (c.writeAll bs).1 = .error e) : e.Ordinary := by
  unfold Stream.writeAll writeFailure at h
  cases hf : c.writeFault with
  | some f =>
    have hf' := hc.writes f hf
    rw [hf] at h
    dsimp only at h
    split at h
    all_goals cases h
    · trivial
    · exact hf'
  | none =>
    rw [hf] at h
    cases h

theorem Tame.waitClosed_ok (hc : c.Tame) : c.waitClosed.1 = .ok () := by
  cases h : c.waitClosed.1 with
  | ok => rfl
  | error e =>
    obtain ⟨f, hf, hs⟩ := waitClosed_eq_error.1 ⟨e, h⟩
    rw [hc.closes f hf] at hs
    cases hs

end Channel.Stream

/-- What arrives sets no fault that is not ordinary. -/
def Incoming.Ordinary : Incoming → Prop
  | readFault f | writeFault f => f.Ordinary
  | bytes _ | finish => True

theorem Incoming.Ordinary.tame {i : Incoming} {c : Stream} (hi : i.Ordinary) (hc : c.Tame) : (i.apply c).Tame := by
  cases i with
  | bytes bs => exact hc.congr rfl rfl rfl
  | finish => exact hc.congr rfl rfl rfl
  | readFault f =>
    refine ⟨?_, hc.writes, hc.closes⟩
    rintro g ⟨⟩
    exact hi
  | writeFault f =>
    refine ⟨hc.reads, ?_, hc.closes⟩
    rintro g ⟨⟩
    exact hi

/-- The network, the relay and the callback raise ordinary errors only. -/
structure Surroundings.Ordinary (w : Surroundings) : Prop where
  refuses : ∀ host port f, w.network host port = .refuses f → f.Ordinary
  opens : ∀ host port u, w.network host port = .opens u → u.Tame
  relay : ∀ i, (w.relay i).Ordinary
  callback : ∀ told i, w.callback = some told → (told i).Ordinary

/-! ## Calls -/

/-- A call over a tame channel leaves it tame. -/
theorem Session.Course.tame {α : Type} {E : Failure → Session Stream → Prop} {R : α → Session Stream → Prop}
    {s : Session Stream} {p : Progress Stream α} (h : Course E R s p) (hs : s.channel.Tame) :
    p.session.channel.Tame :=
  h.keeps (fun n _ hc => hc.readExact n) (fun bs _ hc => hc.writeAll bs) hs

/-- A call over a tame channel raises ordinary errors only, if those of its own are. -/
theorem Session.Course.ordinary {α : Type} {E : Failure → Session Stream → Prop}
    {R : α → Session Stream → Prop} {s s' : Session Stream} {p : Progress Stream α} {e : Failure} (h : Course E R s p)
    (own : ∀ e s, E e s → e.Ordinary) (hs : s.channel.Tame) (hp : p = .raised e s') : e.Ordinary :=
  h.raises (fun n _ hc => hc.readExact n) (fun bs _ hc => hc.writeAll bs) (fun _ _ _ hc he => hc.readExact_failed he)
    (fun _ _ _ hc he => hc.writeAll_error he) own hs hp

theorem Session.HandshakeFails.ordinary {e : Failure} {s : Session Stream} (h : HandshakeFails e s) : e.Ordinary := by
  rcases h with ⟨v, rfl⟩ | ⟨raw, rfl⟩ <;> trivial

/-! ## Handlers -/

/-- Whatever the handler goes on with, it will raise ordinary errors only; and if it has ended, it has returned. -/
def Control.Calm : Control → Prop
  | .handshaking _ _ | .dialling _ => True
  | .watched rest => rest.Ordinary
  | .relaying rest => rest.Ordinary
  | .ended o => o = .returned

namespace Handler

/-- The handler's channels are tame. -/
structure Tame (h : Handler) : Prop where
  client : h.client.Tame
  outbound : ∀ u, h.outbound = some u → u.Tame

/-- The handler is one whose channels are tame, and who will return. -/
structure Calm (h : Handler) : Prop where
  tame : h.Tame
  control : h.control.Calm

variable {h : Handler} {m : Moment}

theorem Tame.channel (hh : h.Tame) (side : Side) : (h.channel side).Tame := by
  cases side with
  | client => exact hh.client
  | target =>
    cases ho : h.outbound with
    | none => simpa [Handler.channel, ho] using (⟨nofun, nofun, nofun⟩ : Stream.Tame {})
    | some u => simpa [Handler.channel, ho] using hh.outbound u ho

theorem Tame.setChannel (hh : h.Tame) {c : Stream} (hc : c.Tame) (side : Side) : (h.setChannel c side).Tame := by
  cases side with
  | client => exact ⟨hc, hh.outbound⟩
  | target =>
    refine ⟨hh.client, ?_⟩
    rintro u ⟨⟩
    exact hc

/-- The end of a handler, with the outcome that it was to have. -/
theorem calm_finish (hh : h.Tame) : (h.finish .returned).Calm := by
  have hstuck : ¬ h.Stuck := by
    rintro ⟨u, f, hu, hf, hs⟩
    rw [(hh.outbound u hu).closes f hf] at hs
    cases hs
  obtain ⟨hout, -, hclient⟩ := finish_spec .returned h
  refine ⟨⟨?_, ?_⟩, ?_⟩
  · rw [hclient hstuck]
    exact hh.client.close
  · intro u hu
    rw [hout, Option.map_eq_some_iff] at hu
    obtain ⟨c, hc, rfl⟩ := hu
    exact (hh.outbound c hc).close
  · obtain ⟨-, hc, herr⟩ := closeOutbound_spec h
    unfold finish
    rcases hr : h.closeOutbound with ⟨r, g⟩
    rw [hr] at hc herr
    cases r with
    | error e => exact absurd (herr.1 ⟨e, rfl⟩) hstuck
    | ok =>
      have hg : g.client.Tame := hc ▸ hh.client
      have hok : g.closeClient.1 = .ok () := hg.waitClosed_ok
      dsimp only
      rcases hr' : g.closeClient with ⟨r, g'⟩
      rw [hr'] at hok
      obtain rfl : r = .ok () := hok
      rfl

theorem calm_fail (hh : h.Tame) {e : Failure} (he : e.Ordinary) : (fail e h).Calm := by
  have noted : ∀ level text fields, ((h.note level text fields).finish .returned).Calm :=
    fun _ _ _ => calm_finish ⟨hh.client, hh.outbound⟩
  cases e with
  | fault f =>
    unfold fail
    dsimp only
    split
    · exact noted _ _ _
    · split
      · next hb => exact absurd hb he
      · exact noted _ _ _
  | _ => exact noted _ _ _

theorem calm_relay (m : Moment) {rest : Relay} (hr : rest.Ordinary) (hh : h.Tame) : (relay m rest h).Calm := by
  induction rest generalizing h with
  | done => exact calm_finish (h := h.act _) ⟨hh.client, hh.outbound⟩
  | raise e => exact calm_fail hh hr
  | hold next ih =>
    unfold relay
    split
    · exact ih hr hh
    · exact ⟨⟨hh.client, hh.outbound⟩, hr⟩
  | receive side limit next ih =>
    have hc := (hh.channel side).readSome limit
    unfold relay
    rcases ha : (h.channel side).readSome limit with ⟨a, c⟩
    rw [ha] at hc
    cases a with
    | waiting => exact ⟨⟨hh.client, hh.outbound⟩, hr⟩
    | failed e =>
      refine ih _ (hr _ ?_) (hh.setChannel hc side)
      rintro x ⟨⟩
      exact (hh.channel side).readSome_failed (congrArg Prod.fst ha)
    | done bs =>
      refine ih _ (hr _ ?_) (hh.setChannel hc side)
      rintro x ⟨⟩
  | send side bs next ih =>
    have hc := (hh.channel side).writeAll bs
    have hh' : Tame (h.act (.relayed side bs)) := ⟨hh.client, hh.outbound⟩
    unfold relay
    rcases ha : (h.channel side).writeAll bs with ⟨r, c⟩
    rw [ha] at hc
    refine ih _ (hr _ ?_) (hh'.setChannel hc side)
    rintro x rfl
    exact (hh.channel side).writeAll_error (congrArg Prod.fst ha)

/-- A reply is sent, or the connection fails, as ever in order. -/
theorem calm_reply {r : ReplyCode} {next : Handler → Handler} (hh : h.Tame)
    (goes : ∀ g, g.Tame → (next g).Calm) : (reply r next h).Calm := by
  have hw := hh.client.writeAll r.encode
  refine reply_elim ?_ ?_ ?_
  · intro e c ha
    rw [ha] at hw
    exact calm_fail (h := { h with session := h.session.move _ c }) ⟨hw, hh.outbound⟩
      (hh.client.writeAll_error (congrArg Prod.fst ha))
  · intro c ha
    rw [ha] at hw
    exact goes _ ⟨hw, hh.outbound⟩
  · intro _ x
    exact calm_fail (e := .sequence x) hh trivial

theorem calm_dialFailed {f : Fault} (hf : f.Ordinary) (hh : h.Tame) : (dialFailed f h).Calm := by
  unfold dialFailed
  split
  · exact calm_reply ⟨hh.client, hh.outbound⟩ fun g hg => calm_finish hg
  · exact calm_fail hh hf

section

variable (hw : m.surroundings.Ordinary)

include hw

theorem calm_startRelay (hh : h.Tame) : (startRelay m h).Calm :=
  calm_relay m (hw.relay _) ⟨hh.client, hh.outbound⟩

theorem calm_watch {rest : Watch} (hr : rest.Ordinary) (hh : h.Tame) : (watch m rest h).Calm := by
  induction rest with
  | done => exact calm_startRelay (h := h.act _) hw ⟨hh.client, hh.outbound⟩
  | raise f => exact calm_fail hh hr
  | hold next ih =>
    unfold watch
    split
    · exact ih hr
    · exact ⟨⟨hh.client, hh.outbound⟩, hr⟩

theorem calm_callback (hh : h.Tame) : (callback m h).Calm := by
  unfold callback
  cases hc : m.surroundings.callback with
  | none => exact calm_startRelay hw hh
  | some told => exact calm_watch (h := h.act _) hw (hw.callback told h.info hc) ⟨hh.client, hh.outbound⟩

theorem calm_connected {u : Stream} (hu : u.Tame) (hh : h.Tame) : (connected m u h).Calm := by
  refine calm_reply ⟨hh.client, ?_⟩ fun g hg => calm_callback hw ⟨hg.client, hg.outbound⟩
  rintro v ⟨⟩
  exact hu

theorem calm_dial (r : Request) (hh : h.Tame) : (dial m r h).Calm := by
  unfold dial
  dsimp only
  split
  · exact calm_dialFailed Fault.ordinary_timeout hh
  · have hh' : Tame (h.act (.dial (r.targetText?.getD "") r.port)) := ⟨hh.client, hh.outbound⟩
    split
    · next f hf => exact calm_dialFailed (hw.refuses _ _ f hf) hh'
    · exact ⟨⟨hh'.client, hh'.outbound⟩, trivial⟩
    · next u hu => exact calm_connected hw (hw.opens _ _ u hu) hh'

theorem calm_serve (r : Request) (hh : h.Tame) : (serve m r h).Calm := by
  unfold serve
  dsimp only
  split
  · split
    · exact calm_dial hw r ⟨hh.client, hh.outbound⟩
    · exact calm_reply ⟨hh.client, hh.outbound⟩ fun g hg => calm_finish hg
  · exact calm_finish ⟨hh.client, hh.outbound⟩

theorem calm_afterHandshake (timer : Option Timer) (hh : h.Tame) {p : Progress Stream (Option Request)}
    (hp : p.session.channel.Tame) (he : ∀ e s, p = .raised e s → e.Ordinary) :
    (afterHandshake m timer h p).Calm := by
  cases p with
  | waiting stage s => exact ⟨⟨hp, hh.outbound⟩, trivial⟩
  | raised e s => exact calm_fail (h := { h with session := s }) ⟨hp, hh.outbound⟩ (he e s rfl)
  | returned r s =>
    cases r with
    | none => exact calm_finish ⟨hp, hh.outbound⟩
    | some r => exact calm_serve hw r ⟨hp, hh.outbound⟩

theorem calm_start {c : Stream} (hc : c.Tame) (label : String) (info : ConnectionInfo) :
    (start m label info { channel := c }).Calm := by
  have hcourse := Session.course_handshake (s := ({ channel := c } : Session Stream)) Stream.plain rfl
  have hsession : (Session.handshake ({ channel := c } : Session Stream)).session.channel.Tame := hcourse.tame hc
  have hraised : ∀ e s, Session.handshake ({ channel := c } : Session Stream) = .raised e s → e.Ordinary :=
    fun e s he => hcourse.ordinary (fun _ _ h => h.ordinary) hc he
  have hh : Tame ⟨label, info, { channel := c }, none, [], .handshaking (.offer .version) none⟩ := ⟨hc, by simp⟩
  unfold start
  dsimp only
  split
  · exact calm_fail hh Fault.ordinary_timeout
  · exact calm_afterHandshake hw _ hh hsession hraised

theorem Calm.resume (hh : h.Calm) : (h.resume m).Calm := by
  obtain ⟨ht, hc⟩ := hh
  unfold Handler.resume
  split
  · next stage timer _ =>
    have hcourse := Session.course_resumeHandshake Stream.plain stage h.session
    exact calm_afterHandshake hw timer ht (hcourse.tame ht.client) fun e s' he =>
      hcourse.ordinary (fun _ _ h => h.ordinary) ht.client he
  · next rest hrest =>
    rw [hrest] at hc
    exact calm_watch hw hc ht
  · next rest hrest =>
    rw [hrest] at hc
    exact calm_relay m hc ht
  · exact ⟨ht, hc⟩
  · exact ⟨ht, hc⟩

end

theorem Calm.expire (hh : h.Calm) : h.expire.Calm := by
  unfold Handler.expire
  split
  · exact calm_fail hh.tame Fault.ordinary_timeout
  · exact calm_dialFailed Fault.ordinary_timeout hh.tame
  · exact hh
  · exact hh
  · exact hh

end Handler

/-! ## At the door -/

/-- What came of a client that was turned away. -/
def Client.away? : Client → Option Outcome
  | handled _ => none
  | turnedAway _ o => some o

theorem Client.away?_receive (i : Incoming) (c : Client) : (c.receive i).away? = c.away? := by
  cases c <;> rfl

/-- A client comes from a proper address, over a tame channel. -/
structure Arrival.Decent (a : Arrival) : Prop where
  proper : a.peer.Proper
  tame : a.channel.Tame

/-- Whoever was turned away has returned. -/
def Server.Civil (s : Server) : Prop := ∀ id o, s.each Client.away? id = some o → o = .returned

section

variable {w : Surroundings} {s : Server}

/-- A client that comes last leaves the others as they are. -/
theorem Server.Civil.concat (hs : s.Civil) {c : Client} (hc : ∀ o, c.away? = some o → o = .returned) :
    Server.Civil { s with clients := s.clients ++ [c] } := by
  intro id o ho
  rw [Server.each_concat] at ho
  by_cases hid : id = s.clients.length
  · rw [hid, Function.update_self] at ho
    exact hc o ho
  · rw [Function.update_of_ne hid] at ho
    exact hs id o ho

theorem Server.Civil.connect (hs : s.Civil) {a : Arrival} (ha : a.Decent) : (s.connect w a).Civil := by
  obtain ⟨info, hi⟩ := ha.proper.info
  have hok := ha.tame.waitClosed_ok
  unfold Server.connect
  dsimp only
  split
  · refine hs.concat ?_
    rintro o ⟨⟩
    rw [hok]
  · rw [hi]
    exact hs.concat (c := .handled _) nofun

theorem Server.Civil.step (hs : s.Civil) (i : Server.Input) (hi : ∀ a, i = .connect a → a.Decent) :
    (s.step w i).Civil := by
  by_cases hc : ∃ a, i = .connect a
  · obtain ⟨a, rfl⟩ := hc
    exact hs.connect (hi a rfl)
  · have hkept : (s.step w i).each Client.away? = s.each Client.away? :=
      Server.each_step (fun _ _ _ => rfl) Client.away?_receive fun a e => hc ⟨a, e⟩
    unfold Server.Civil
    rwa [hkept]

theorem civil_runAll (w : Surroundings) (config : ServerConfig) {steps : List Service.Step}
    (hA : ∀ a, .client (.connect a) ∈ steps → a.Decent) :
    ((Service.fresh config).runAll w steps).server.Civil := by
  refine List.foldlRecOn (motive := fun s : Service => s.server.Civil) steps _ nofun ?_
  intro s hs x hx
  cases x with
  | client i => exact hs.step i fun a e => hA a (e ▸ hx)
  | _ => exact hs

end

/-! ## Runs -/

theorem sustained_calm {w : Surroundings} (hw : w.Ordinary) (config : ServerConfig) :
    Sustained w config (fun _ a => a.Decent) Incoming.Ordinary (fun _ => True) fun _ _ h => h.Calm where
  started := by
    rintro m a info es ha - rfl -
    have hc := Handler.calm_start (m := m) hw ha.tame a.peer.label info
    exact ⟨⟨hc.tame.client, hc.tame.outbound⟩, hc.control⟩
  received := fun bs t h i hi _ hc => ⟨⟨hi.tame hc.tame.client, hc.tame.outbound⟩, hc.control⟩
  resumed := by
    rintro m bs t h - rfl - hc
    have hc' := hc.resume hw
    exact ⟨⟨hc'.tame.client, hc'.tame.outbound⟩, hc'.control⟩
  expired := fun _ _ _ _ _ _ _ _ _ hc =>
    ⟨⟨hc.expire.tame.client, hc.expire.tame.outbound⟩, hc.expire.control⟩

/-- Clients come from proper addresses, and closing a channel raises errors of the system only. Then whatever comes,
in whatever order, and whatever ordinary errors are raised by reads and writes, by dials, by the callback and by the
relay: whoever comes to an end has returned, be it at the door or wherever its handler was. -/
theorem returned_runAll (w : Surroundings) (config : ServerConfig) (steps : List Service.Step) (hw : w.Ordinary)
    (hA : ∀ a, .client (.connect a) ∈ steps → a.Decent)
    (hB : ∀ id i, .client (.receive id i) ∈ steps → i.Ordinary) (id : Nat) (c : Client) (o : Outcome)
    (hc : ((Service.fresh config).runAll w steps).server.clients[id]? = some c) (ho : c.outcome? = some o) :
    o = .returned := by
  cases c with
  | turnedAway c o' =>
    obtain rfl : o' = o := Option.some.inj ho
    refine civil_runAll w config hA id o' ?_
    rw [Server.each, hc]
    rfl
  | handled h =>
    obtain ⟨-, -, -, hcalm⟩ := (sustained_calm hw config).runAll (fun _ => trivial) (fun _ => hA) hB hc
    have hctl := hcalm.control
    unfold Client.outcome? at ho
    cases he : h.control <;> simp only [he, Option.some.injEq, reduceCtorEq] at ho
    subst ho
    rwa [he] at hctl

/-- A network that refuses all dials. -/
def barred : Surroundings where
  network _ _ := .refuses ⟨.refused, []⟩

/-- A client whose channel raises an error when it is closed sends an offer, then nothing can be written to it
any more, and it asks for port 443 of 127.0.0.1. -/
def vanishing : List Service.Step :=
  [.client (.connect { sent := [5, 1, 0], closeFault := some ⟨.reset, []⟩ }),
    .client (.receive 0 (.writeFault ⟨.brokenPipe, []⟩)),
    .client (.receive 0 (.bytes [5, 1, 0, 1, 127, 0, 0, 1, 1, 187]))]

/-- The dial is refused, the reply that tells the client of this cannot be written, and closing the client's channel
raises an error; the handler returns. -/
theorem returned_runAll_vanishing :
    ∃ h o, ((Service.fresh {}).runAll barred vanishing).server.clients[0]? = some (.handled h) ∧
      h.control = .ended o ∧ h.client.written = [5, 0, 5, 5, 0, 1, 0, 0, 0, 0, 0, 0] ∧ o = .returned := by
  have hw : barred.Ordinary := by
    refine ⟨?_, ?_, fun _ => trivial, ?_⟩
    · rintro host port f ⟨⟩
      exact nofun
    · rintro host port u ⟨⟩
    · rintro told i ⟨⟩
  have hA : ∀ a, .client (.connect a) ∈ vanishing → a.Decent := by
    intro a ha
    simp only [vanishing, List.mem_cons, Service.Step.client.injEq, Server.Input.connect.injEq, reduceCtorEq,
      List.not_mem_nil, or_false] at ha
    subst ha
    refine ⟨.inl rfl, ?_, ?_, ?_⟩ <;> rintro f ⟨⟩
    rfl
  have hB : ∀ id i, .client (.receive id i) ∈ vanishing → i.Ordinary := by
    intro id i hi
    simp only [vanishing, List.mem_cons, Service.Step.client.injEq, Server.Input.receive.injEq, reduceCtorEq,
      List.not_mem_nil, or_false, false_or] at hi
    rcases hi with ⟨-, rfl⟩ | ⟨-, rfl⟩
    · exact nofun
    · trivial
  exact ⟨_, _, rfl, rfl, by decide +kernel, returned_runAll barred {} vanishing hw hA hB 0 _ _ rfl rfl⟩

end Socks5
