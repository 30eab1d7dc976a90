import Socks5.Proofs.Server.Alongside
import Socks5.Proofs.Server.Clients

/-!
It does not matter in which pieces a client's bytes come. A handler that gets some of its input later, and
one that had it from the start, come to the same (`Handler.start_receive`), and so do their servers
(`Server.connect_receive`). Hence all the ways to deliver the same bytes to a server that does not wait in
between leave it in the same state (`delivered_alike`).
-/
namespace Socks5

open Channel (Stream)

/-- What a client sends, or that it sends no more. -/
def Incoming.IsInput : Incoming → Prop
  | bytes _ | finish => True
  | readFault _ | writeFault _ => False

/-! ## Channels that are fed -/

namespace Channel

/-- The second channel is the first with something more to come. -/
def Fed (i : Incoming) (c d : Stream) : Prop := c.ended = false ∧ d = i.apply c

variable {i : Incoming} {c : Stream}

theorem readExact_fed (hi : i.IsInput) (hc : c.ended = false) (n : Nat) :
    c.readExact n = (.waiting, c) ∨ (i.apply c).readExact n = ((c.readExact n).1, i.apply (c.readExact n).2) := by
  cases hf : c.readFault with
  | some f =>
    refine .inr ?_
    cases i with
    | bytes bs => simp [Stream.readExact, Incoming.apply, Stream.feed, hf]
    | finish => simp [Stream.readExact, Incoming.apply, Stream.finish, hf]
    | _ => exact hi.elim
  | none =>
    by_cases hn : n ≤ c.unread.length
    · refine .inr ?_
      cases i with
      | bytes bs =>
        have hn' : n ≤ c.unread.length + bs.length := Nat.le_add_right_of_le hn
        simp [Stream.readExact, Incoming.apply, Stream.feed, hf, hn, hn', List.take_append_of_le_length,
          List.drop_append_of_le_length]
      | finish => simp [Stream.readExact, Incoming.apply, Stream.finish, hf, hn]
      | _ => exact hi.elim
    · exact .inl (by simp [Stream.readExact, hf, hn, hc])

theorem ended_readExact (n : Nat) (c : Stream) : (c.readExact n).2.ended = c.ended := by
  unfold Stream.readExact
  repeat' split
  all_goals rfl

theorem Fed.readExact (hi : i.IsInput) {c₁ d : Stream} (h : Fed i c d) {n : Nat} {a : Attempt Bytes}
    (ha : c.readExact n = (a, c₁)) (hw : a ≠ .waiting) : ∃ d₁, d.readExact n = (a, d₁) ∧ Fed i c₁ d₁ := by
  obtain ⟨hc, rfl⟩ := h
  rcases readExact_fed hi hc n with hr | hr
  · exact absurd (congrArg Prod.fst (ha.symm.trans hr)) hw
  · have he := ended_readExact n c
    rw [ha] at hr he
    exact ⟨_, hr, he.trans hc, rfl⟩

theorem writeAll_fed (hi : i.IsInput) (bs : Bytes) (c : Stream) :
    (i.apply c).writeAll bs = ((c.writeAll bs).1, i.apply (c.writeAll bs).2) := by
  unfold Stream.writeAll
  cases i with
  | bytes bs =>
    simp only [Incoming.apply, Stream.feed]
    cases c.writeFault <;> rfl
  | finish =>
    simp only [Incoming.apply, Stream.finish]
    cases c.writeFault <;> rfl
  | _ => exact hi.elim

theorem waitClosed_fed (hi : i.IsInput) (c : Stream) : (i.apply c).waitClosed =
    (c.waitClosed.1, c.waitClosed.2.1, i.apply c.waitClosed.2.2) := by
  unfold Stream.waitClosed
  cases i with
  | bytes bs =>
    simp only [Incoming.apply, Stream.feed]
    repeat' split
    all_goals rfl
  | finish =>
    simp only [Incoming.apply, Stream.finish]
    repeat' split
    all_goals rfl
  | _ => exact hi.elim

theorem follows_fed (hi : i.IsInput) : Follows (Fed i) where
  done h ha := h.readExact hi ha nofun
  fails h ha := h.readExact hi ha nofun
  waits {c c₁ d n} h ha := by
    obtain rfl : c₁ = c := Stream.readExact_waiting ha
    exact h
  writes {c d} bs h := by
    obtain ⟨hc, rfl⟩ := h
    change ((i.apply c).writeAll bs).1 = (c.writeAll bs).1 ∧ _
    rw [writeAll_fed hi]
    refine ⟨rfl, ?_, ?_⟩
    · change (c.writeAll bs).2.ended = false
      unfold Stream.writeAll
      cases c.writeFault <;> exact hc
    · exact congrArg Prod.snd (writeAll_fed hi bs c)
  closes {c d} h := by
    obtain ⟨hc, rfl⟩ := h
    rw [waitClosed_fed hi]
    refine ⟨rfl, rfl, ?_, rfl⟩
    unfold Stream.waitClosed
    repeat' split
    all_goals exact hc

theorem follows_eq : Follows Eq where
  done h ha := ⟨_, h ▸ ha, rfl⟩
  fails h ha := ⟨_, h ▸ ha, rfl⟩
  waits h ha := (Stream.readExact_waiting ha).trans h
  writes bs h := by
    rw [h]
    exact ⟨rfl, rfl⟩
  closes h := by
    rw [h]
    exact ⟨rfl, rfl, rfl⟩

end Channel

/-! ## Handlers that are fed -/

namespace Handler

open Channel (Fed follows_fed follows_eq)

variable {R : Stream → Stream → Prop} {t₀ : List Move} {t : List Happening} {h h' : Handler} {m : Moment}
  {i : Incoming}

/-- Handlers that are abreast differ in nothing but the client's channel, once what happened is left to
others to keep. -/
theorem Abreast.forgetful (ha : Abreast R t h h') :
    h'.forgetful = { h.forgetful with session := { h.forgetful.session with channel := h'.client } } := by
  obtain ⟨⟨t₀, hl, hi, ho, hs, -⟩, hc, -⟩ := ha
  dsimp only [Handler.forgetful, client]
  rw [hl, hi, ho, hs.endpoint, hc]

theorem Abreast.history (ha : Abreast R t h h') : h'.history = t ++ h.history := by
  obtain ⟨⟨t₀, hb⟩, -⟩ := ha
  exact hb.history

theorem Abreast.channel (ha : Abreast R t h h') : R h.client h'.client := by
  obtain ⟨⟨t₀, hb⟩, -⟩ := ha
  exact hb.session.channel

theorem eq_of_forgetful (hf : h'.forgetful = h.forgetful) :
    h'.isEnded = h.isEnded ∧ h'.label = h.label ∧ h'.outbound = h.outbound :=
  ⟨(congrArg isEnded hf :), (congrArg label hf :), (congrArg outbound hf :)⟩

/-- One that is at rest, and does not wait for its client, is not moved by what the client sends. -/
theorem resume_receive (hs : h.Settled m.released) (hc : h.control.IgnoresClient) :
    (h.receive i).resume m = h.receive i := by
  have hr : (h.receive i).Settled m.released := by
    obtain ⟨label, info, session, outbound, past, control⟩ := h
    unfold Settled at hs ⊢
    cases control with
    | handshaking stage timer => exact hc.elim
    | dialling timer => trivial
    | ended o => trivial
    | watched rest => cases rest <;> exact hs
    | relaying rest =>
      cases rest with
      | receive side limit next =>
        obtain ⟨rfl, -⟩ := hc
        exact hs
      | _ => exact hs
  exact hr.resume_eq fun _ => rfl

/-- One handler got its input later, the other had it from the start. -/
theorem Abreast.fed (ha : Abreast (Fed i) [] h h') (hs : h.Settled m.released) :
    h'.forgetful = ((h.forgetful.receive i).resume m).forgetful ∧
      h'.history = h.history ++ ((h.forgetful.receive i).resume m).history ∧
      h'.outbound = h.outbound := by
  have hr := resume_receive (i := i) hs.forgetful ha.2.2
  obtain ⟨⟨t₀, hb⟩, -, -⟩ := id ha
  rw [hr, ha.forgetful, ha.channel.2, ha.history]
  exact ⟨rfl, (List.append_nil _).symm, hb.outbound⟩

theorem afterHandshake_session (s : Session Stream) (timer : Option Timer) (h : Handler)
    (p : Progress Stream (Option Request)) :
    afterHandshake m timer { h with session := s } p = afterHandshake m timer h p := by
  cases p with
  | returned a s => cases a <;> rfl
  | _ => rfl

section

variable (hl : ∀ info, (m.surroundings.relay info).LeavesClient)

include hl

/-- What happened before makes no difference to a handshake that goes on. -/
theorem alike_afterHandshake (hb : Beside Eq t₀ t h h') (stage : Stage) (timer : Option Timer) :
    let g := afterHandshake m timer h (h.session.resumeHandshake stage)
    let g' := afterHandshake m timer h' (h'.session.resumeHandshake stage)
    g'.forgetful = g.forgetful ∧ g'.history = t ++ g.history := by
  intro g g'
  have hp := Session.leads_resumeHandshake follows_eq.toLeads hb.session stage
  rcases abreast_afterHandshake follows_eq hl hb hp timer with ⟨st, s, s', hs, hs', hss, hw⟩ | ha
  · have hw' : s'.channel.readExact st.need = (.waiting, s'.channel) := hss.channel ▸ hw
    have hg : g = { h with session := s, control := .handshaking st timer } := by
      simp only [g, hs, afterHandshake]
    have hg' : g' = { h' with session := s', control := .handshaking st timer } := by
      simp only [g', hs', Session.resumeHandshake_of_waiting hw', afterHandshake]
    have hb' := hb.withSession hss
    rw [hg, hg']
    refine ⟨?_, hb'.history⟩
    unfold Handler.forgetful
    dsimp only
    rw [hb.label, hb.info, hb.outbound, hss.endpoint, hss.channel]
  · refine ⟨?_, ha.history⟩
    rw [ha.forgetful, ← ha.channel]
    rfl

/-- One that waits at a stage of the handshake goes on from there as soon as it is fed. -/
theorem waiting_receive (hb : Beside (Fed i) [] [] h h') {s s' : Session Stream}
    (hs : s.Beside (Fed i) [] s') (stage : Stage) (timer : Option Timer) :
    let w : Handler := { h with session := s, control := .handshaking stage timer }
    let g := (w.forgetful.receive i).resume m
    let g' := afterHandshake m timer h' (s'.resumeHandshake stage)
    g'.forgetful = g.forgetful ∧ g'.history = w.history ++ g.history := by
  intro w g g'
  have hpast : h'.past = h.past := (List.append_nil _).symm.trans hb.past
  have hw : Beside Eq s.trace w.history (w.forgetful.receive i) { h' with session := s' } := by
    refine ⟨hb.label, hb.info, hb.outbound, ⟨hs.endpoint, hs.channel.2.symm, ?_⟩, ?_⟩
    · exact hs.trace.trans (List.append_nil _).symm
    · exact (congrArg (· ++ _) hpast).trans (List.append_nil _).symm
  have hg' : g' = afterHandshake m timer { h' with session := s' } (s'.resumeHandshake stage) :=
    (afterHandshake_session s' timer h' _).symm
  rw [hg']
  exact alike_afterHandshake hl hw stage timer

theorem start_receive (hi : i.IsInput) {c : Stream} (hc : c.ended = false) (label : String)
    (info : ConnectionInfo) :
    let h := start m label info { channel := c }
    let h' := start m label info { channel := i.apply c }
    let g := (h.forgetful.receive i).resume m
    h'.forgetful = g.forgetful ∧ h'.history = h.history ++ g.history ∧
      (h.outbound.isSome = true → h'.outbound.isSome = true) := by
  intro h h' g
  have hfed : Fed i c (i.apply c) := ⟨hc, rfl⟩
  rcases abreast_start (follows_fed hi) hl hfed label info with ⟨stage, timer, s, s', hh, hh', hss⟩ | ha
  · change h = _ at hh
    change h' = _ at hh'
    obtain ⟨hf, hhist⟩ := waiting_receive hl (beside_opening hfed label info) hss stage timer
    simp only [g, hh, hh']
    exact ⟨hf, hhist, nofun⟩
  · have hs : h.Settled m.released := (rests_start m label info rfl).settled
    obtain ⟨hf, hh, ho⟩ := ha.fed hs
    exact ⟨hf, hh, fun h => ho ▸ h⟩

end
end Handler

/-! ## Servers -/

/-- The client has sent more by the time that it comes. -/
def Arrival.plus (i : Incoming) (a : Arrival) : Arrival :=
  match i with
  | .bytes bs => { a with sent := a.sent ++ bs }
  | .finish => { a with ended := true }
  | .readFault f => { a with readFault := some f }
  | .writeFault f => { a with writeFault := some f }

theorem Arrival.channel_plus (i : Incoming) (a : Arrival) : (a.plus i).channel = i.apply a.channel := by
  cases i <;> rfl

theorem Arrival.peer_plus (i : Incoming) (a : Arrival) : (a.plus i).peer = a.peer := by
  cases i <;> rfl

namespace Server

variable {w : Surroundings} {i : Incoming} {s : Server}

theorem modify_concat {α : Type} (xs : List α) (x : α) (f : α → α) :
    (xs ++ [x]).modify xs.length f = xs ++ [f x] := by
  simp [List.modify_eq_take_drop]

theorem turnAway_receive (w : Surroundings) (i : Incoming) (c : Stream) (o : Outcome) (es : List Event)
    (s : Server) : (s.turnAway c o es).receive w s.clients.length i = s.turnAway (i.apply c) o es := by
  unfold receive resume run turnAway note
  dsimp only
  rw [modify_concat, List.getElem?_concat_length]
  rfl

/-- Something arrives for the client that came last. -/
theorem receive_last {cs : List Client} {h : Handler} (hc : s.clients = cs ++ [.handled h])
    (w : Surroundings) (i : Incoming) : s.receive w cs.length i =
      if h.isEnded then { s with clients := cs ++ [.handled (h.receive i)] }
      else ({ s with clients := cs ++ [.handled ((h.receive i).resume (s.moment w)).forgetful] } : Server).absorb
        cs.length ((h.receive i).resume (s.moment w)) := by
  have hmod : s.clients.modify cs.length (Client.receive i) = cs ++ [.handled (h.receive i)] := by
    rw [hc, modify_concat]
    rfl
  have hget : (cs ++ [Client.handled (h.receive i)])[cs.length]?.bind Client.handler? = some (h.receive i) := by
    rw [List.getElem?_concat_length]
    rfl
  have hset : ∀ g, (cs ++ [Client.handled (h.receive i)]).set cs.length (.handled g) = cs ++ [.handled g] :=
    fun g => by simp
  unfold receive resume run
  rw [hmod]
  dsimp only
  rw [hget, ← hset ((h.receive i).resume (s.moment w)).forgetful]
  rfl

theorem absorb_congr {h h' : Handler} (he : h'.isEnded = h.isEnded) (hl : h'.label = h.label)
    (ho : h'.outbound = h.outbound) (hh : h'.history = h.history) (id : Nat) (s : Server) :
    s.absorb id h' = s.absorb id h := by
  unfold absorb
  rw [he, hl, ho, hh]

/-- Two handlers taken in one after the other are as one that has done what both have done. -/
theorem absorb_absorb {id : Nat} {h g h' : Handler} (hn : h.isEnded = false)
    (hf : h'.forgetful = g.forgetful) (hh : h'.history = h.history ++ g.history)
    (ho : h.outbound.isSome = true → h'.outbound.isSome = true) (s : Server) (cs : List Client) :
    ({ s.absorb id h with clients := cs } : Server).absorb id g =
      ({ s with clients := cs } : Server).absorb id h' := by
  obtain ⟨hended, hlabel, hout⟩ := Handler.eq_of_forgetful hf
  rw [hout] at ho
  unfold absorb
  rw [Server.mk.injEq, hended, hlabel, hout, hh]
  refine ⟨rfl, rfl, ?_, rfl, rfl, ?_, ?_⟩
  · rw [hn]
    rfl
  · by_cases h₁ : h.outbound.isSome = true
    · by_cases hid : id ∈ s.dialled <;> simp [h₁, ho h₁, hid]
    · simp [h₁]
  · simp

section

variable (hl : ∀ info, (w.relay info).LeavesClient) (hi : i.IsInput)

include hl hi

theorem accept_receive (label : String) (info : ConnectionInfo) {c : Stream} (hc : c.ended = false)
    (s : Server) :
    (s.accept w label info c).receive w s.clients.length i = s.accept w label info (i.apply c) := by
  let e : Server := { s with registry := s.registry.enter label s.clients.length }
  let h := Handler.start (e.moment w) label info { channel := c }
  let h' := Handler.start (e.moment w) label info { channel := i.apply c }
  obtain ⟨hf, hh, ho⟩ := Handler.start_receive (m := e.moment w) hl hi hc label info
  change (s.withHandler label h).receive w s.clients.length i = s.withHandler label h'
  rw [receive_last (h := h.forgetful) (rfl : _ = s.clients ++ _)]
  cases hn : h.isEnded with
  | true =>
    have hg : (h.forgetful.receive i).resume (e.moment w) = h.forgetful.receive i :=
      Handler.resume_of_isEnded hn
    have hf : h'.forgetful = (h.forgetful.receive i).forgetful := by rw [hf, hg]
    have hh : h'.history = h.history := by
      rw [hh, hg]
      exact List.append_nil _
    have hn' : h.forgetful.isEnded = true := hn
    obtain ⟨hended, hlabel, hout⟩ : h'.isEnded = h.isEnded ∧ h'.label = h.label ∧ h'.outbound = h.outbound :=
      (Handler.eq_of_forgetful hf :)
    have ha : ∀ s' : Server, s'.absorb s.clients.length h' = s'.absorb s.clients.length h :=
      absorb_congr hended hlabel hout hh _
    rw [if_pos hn', withHandler, withHandler, ha, hf]
    rfl
  | false =>
    have hn' : ¬ h.forgetful.isEnded = true := Bool.eq_false_iff.1 hn
    have hm : (s.withHandler label h).moment w = e.moment w := by
      simp [withHandler, absorb, moment, active, hn, e]
    rw [if_neg hn', hm, withHandler, withHandler, hf]
    exact absorb_absorb hn hf hh ho { e with clients := s.clients ++ [.handled h.forgetful] } _

/-- Whoever comes, and whatever becomes of it. -/
theorem connect_receive {a : Arrival} (ha : a.ended = false) (s : Server) :
    (s.connect w a).receive w s.clients.length i = s.connect w (a.plus i) := by
  unfold connect
  rw [a.channel_plus, a.peer_plus]
  dsimp only
  split
  · rw [turnAway_receive, Channel.waitClosed_fed hi]
  · cases a.peer.info with
    | error x => exact turnAway_receive w i a.channel _ _ (s.note s.clients.length _)
    | ok info => exact accept_receive hl hi _ info ha (s.note s.clients.length _)

end

end Server

/-! ## Deliveries -/

/-- The ways in which the bytes `d` of a client get to a server that knows it by the number `id`: some of
them when the client comes, and the rest in pieces. At last the client may tell that this is all. -/
inductive Delivers (id : Nat) (a : Arrival) : Bytes → Bool → List Server.Input → Prop
  | connect (d : Bytes) (ended : Bool) : Delivers id a d ended [.connect { a with sent := d, ended := ended }]
  | bytes {d : Bytes} {steps : List Server.Input} (hs : Delivers id a d false steps) (bs : Bytes) :
      Delivers id a (d ++ bs) false (steps ++ [.receive id (.bytes bs)])
  | finish {d : Bytes} {steps : List Server.Input} (hs : Delivers id a d false steps) :
      Delivers id a d true (steps ++ [.receive id .finish])

/-- A delivery comes to the same as one in a single piece. -/
theorem Delivers.runAll {w : Surroundings} (hl : ∀ info, (w.relay info).LeavesClient) {a : Arrival} {d : Bytes}
    {ended : Bool} {steps : List Server.Input} {s : Server} (h : Delivers s.clients.length a d ended steps) :
    s.runAll w steps = s.connect w { a with sent := d, ended := ended } := by
  induction h with
  | connect d ended => rfl
  | bytes _ bs ih =>
    have hi : (Incoming.bytes bs).IsInput := trivial
    rw [Server.runAll, List.foldl_append]
    change ((s.runAll w _).receive w _ _) = _
    rw [ih]
    exact Server.connect_receive hl hi rfl s
  | finish _ ih =>
    have hi : Incoming.finish.IsInput := trivial
    rw [Server.runAll, List.foldl_append]
    change ((s.runAll w _).receive w _ _) = _
    rw [ih]
    exact Server.connect_receive hl hi rfl s

namespace Service

theorem runAll_client (w : Surroundings) (s : Service) (steps : List Server.Input) :
    s.runAll w (steps.map .client) = { s with server := s.server.runAll w steps } := by
  induction steps generalizing s with
  | nil => rfl
  | cons i steps ih => exact ih _

end Service

/-- A client comes to a service whose relays leave the client's input alone. Whatever the service is set up
with and has gone through before, and whatever the network and the callback do: two deliveries of the same
bytes, with no time passing in between, leave the service in the same state. So the same was written to the
client, the same of its input is unread, and the same was dialled, called and noted. -/
theorem delivered_alike (w : Surroundings) (hl : ∀ info, (w.relay info).LeavesClient) (s : Service) (a : Arrival)
    {d : Bytes} {ended : Bool} {steps steps' : List Server.Input}
    (h : Delivers s.server.clients.length a d ended steps)
    (h' : Delivers s.server.clients.length a d ended steps') :
    s.runAll w (steps.map .client) = s.runAll w (steps'.map .client) := by
  rw [Service.runAll_client, Service.runAll_client, h.runAll hl, h'.runAll hl]

/-- A client sends its offer, its request and a byte more at once, or in three pieces that end within the
offer and within the port. -/
theorem delivered_alike_pieces :
    let w : Surroundings := { network := fun _ _ => .opens {}, relay := fun _ => .hold .done }
    (Service.fresh {}).runAll w [.client (.connect { sent := [5, 1, 0, 5, 1, 0, 1, 127, 0, 0, 1, 1, 187, 22] })] =
      (Service.fresh {}).runAll w [.client (.connect { sent := [5, 1] }),
        .client (.receive 0 (.bytes [0, 5, 1, 0, 1, 127, 0, 0, 1, 1])),
        .client (.receive 0 (.bytes [187, 22]))] := by
  intro w
  have hl : ∀ info, (w.relay info).LeavesClient := fun _ => trivial
  exact delivered_alike w hl (Service.fresh {}) {} (.connect _ false)
    (.bytes (.bytes (.connect [5, 1] false) [0, 5, 1, 0, 1, 127, 0, 0, 1, 1]) [187, 22])

end Socks5
