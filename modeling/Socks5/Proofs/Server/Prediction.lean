import Socks5.Proofs.Server.Door
import Socks5.Proofs.Server.Life
import Socks5.Proofs.Server.Succession
import Socks5.Proofs.Wire.Following
import Socks5.Proofs.Wire.Inspection

/-!
What a client's bytes tell of what it will be sent. The channel of a client is behind a captured input of all
that the client sends (`Channel.Owes`), so its handshake comes to what the handshake over the captured input
comes to, or waits for what is owed (`View.Foreseen`). What the handler does then is settled, whatever comes
(`Handler.Heeds`). So the inspection of the bytes tells what a server writes to the client
(`inspect_predicts`).
-/
namespace Socks5

open Channel (Stream Memory)

/-! ## What is to come -/

/-- Ways in which bytes that are to come do come, one piece after the other, and then their end, if the client
has not told that before. -/
inductive Delivery : Bool → Bytes → List Incoming → Prop
  | nothing : Delivery true [] []
  | bytes (bs : Bytes) {future : Bytes} {is : List Incoming} (h : Delivery false future is) :
      Delivery false (bs ++ future) (.bytes bs :: is)
  | finish {is : List Incoming} (h : Delivery true [] is) : Delivery false [] (.finish :: is)

/-- After the end nothing comes. -/
theorem Delivery.last {all : Bool} {future : Bytes} {is : List Incoming} (h : Delivery all future is)
    (ha : all = true) : future = [] := by
  cases h with
  | bytes bs h => cases ha
  | _ => rfl

namespace Channel

/-- The channel gives what the captured input gives, but for some bytes that are to come. -/
structure Owes (future : Bytes) (all : Bool) (c : Stream) (m : Memory) : Prop where
  unread : m.unread = c.unread ++ future
  written : m.written = c.written
  opened : m.closed = false
  ended : c.ended = all
  last : all = true → future = []
  readable : c.readFault = none
  writable : c.writeFault = none

variable {future bs : Bytes} {all : Bool} {n : Nat} {c : Stream} {m : Memory}

/-- The three outcomes of a read in which the channel does not fail. -/
theorem Stream.readExact_cases (hr : c.readFault = none) (n : Nat) :
    n ≤ c.unread.length ∧ c.readExact n = (.done (c.unread.take n), { c with unread := c.unread.drop n }) ∨
    c.unread.length < n ∧ c.ended = true ∧
      c.readExact n = (.failed (.channel (.ended c.unread.length n)), { c with unread := [] }) ∨
    c.unread.length < n ∧ c.ended = false ∧ c.readExact n = (.waiting, c) := by
  unfold readExact
  rw [hr]
  dsimp only
  by_cases hn : n ≤ c.unread.length
  · exact .inl ⟨hn, by rw [if_pos hn]⟩
  · refine .inr ?_
    have hlt : c.unread.length < n := Nat.lt_of_not_le hn
    cases he : c.ended with
    | true => exact .inl ⟨hlt, rfl, by rw [if_neg hn, if_pos rfl]⟩
    | false => exact .inr ⟨hlt, rfl, by rw [if_neg hn, if_neg nofun]⟩

theorem Memory.readExact_cases (ho : m.closed = false) (n : Nat) :
    n ≤ m.unread.length ∧ m.readExact n = (.done (m.unread.take n), { m with unread := m.unread.drop n }) ∨
    m.unread.length < n ∧
      m.readExact n = (.failed (.channel (.ended m.unread.length n)), { m with unread := [] }) := by
  have hopen : ¬ m.closed = true := Bool.eq_false_iff.1 ho
  unfold readExact
  rw [if_neg hopen]
  rcases Nat.lt_or_ge m.unread.length n with hn | hn
  · exact .inr ⟨hn, by rw [if_pos hn]⟩
  · exact .inl ⟨hn, by rw [if_neg (Nat.not_lt.2 hn)]⟩

/-- What is read from the channel is read from the captured input too, unless it is still to come. -/
theorem Owes.readExact (h : Owes future all c m) (n : Nat) :
    c.readExact n = (.waiting, c) ∧ all = false ∨
      ((c.readExact n).1 = (m.readExact n).1 ∧ Owes future all (c.readExact n).2 (m.readExact n).2) := by
  obtain ⟨hu, hw, ho, he, hl, hr, hf⟩ := h
  have hlen : m.unread.length = c.unread.length + future.length := by rw [hu, List.length_append]
  rcases Stream.readExact_cases hr n with ⟨hn, ha⟩ | ⟨hn, hend, ha⟩ | ⟨hn, hend, ha⟩
  · rcases Memory.readExact_cases ho n with ⟨-, hb⟩ | ⟨hlt, -⟩
    · rw [ha, hb, hu, List.take_append_of_le_length hn, List.drop_append_of_le_length hn]
      exact .inr ⟨rfl, rfl, hw, ho, he, hl, hr, hf⟩
    · omega
  · obtain rfl := hl (he ▸ hend)
    rw [List.append_nil] at hu
    rcases Memory.readExact_cases ho n with ⟨hle, -⟩ | ⟨-, hb⟩
    · rw [hu] at hle
      omega
    · rw [ha, hb, hu]
      exact .inr ⟨rfl, rfl, hw, ho, he, hl, hr, hf⟩
  · exact .inl ⟨ha, he ▸ hend⟩

theorem owes_leads (future : Bytes) (all : Bool) : Leads (Owes future all) where
  done {c c₁ m n bs} h ha := by
    change c.readExact n = _ at ha
    rcases h.readExact n with ⟨hw, -⟩ | ⟨hr, hc⟩
    · cases ha.symm.trans hw
    · rw [ha] at hr hc
      exact ⟨_, Prod.ext hr.symm rfl, hc⟩
  fails {c c₁ m n e} h ha := by
    change c.readExact n = _ at ha
    rcases h.readExact n with ⟨hw, -⟩ | ⟨hr, hc⟩
    · cases ha.symm.trans hw
    · rw [ha] at hr hc
      exact ⟨_, Prod.ext hr.symm rfl, hc⟩
  waits {c c₁ m n} h ha := by
    change c.readExact n = _ at ha
    rcases h.readExact n with ⟨hw, -⟩ | ⟨hr, -⟩
    · cases ha.symm.trans hw
      exact h
    · rw [ha] at hr
      exact absurd hr.symm (Memory.readExact_ne_waiting n m)
  writes {c m} bs h := by
    obtain ⟨hu, hw, ho, he, hl, hr, hf⟩ := h
    change (m.writeAll bs).1 = (c.writeAll bs).1 ∧ Owes future all (c.writeAll bs).2 (m.writeAll bs).2
    have hb : m.writeAll bs = (.ok (), { m with written := m.written ++ bs }) := if_neg (Bool.eq_false_iff.1 ho)
    rw [Stream.writeAll_of_writeFault hf, hb]
    exact ⟨rfl, hu, congrArg (· ++ bs) hw, ho, he, hl, hr, hf⟩

theorem Owes.feed (h : Owes (bs ++ future) false c m) : Owes future false (c.feed bs) m :=
  ⟨by rw [h.unread, Stream.feed, List.append_assoc], h.written, h.opened, h.ended, nofun, h.readable, h.writable⟩

theorem Owes.finish (h : Owes [] false c m) : Owes [] true c.finish m :=
  ⟨h.unread, h.written, h.opened, rfl, fun _ => rfl, h.readable, h.writable⟩

end Channel

/-! ## Behind the handshake -/

namespace Handler

/-- What a handler goes on to, after what it told, when over the captured input its handshake comes to this.
It only relays from here on, or has ended, and the client was sent what the captured input was sent; and the
reply that the connection stands besides, if it asked for something that is allowed and can be dialled. -/
def Heeds (w : Surroundings) (config : ServerConfig) (t : List Happening) (h : Handler) :
    Progress Memory (Option Request) → Prop
  | .waiting _ _ => False
  | .raised _ s | .returned none s => h.Committed (·.written = s.channel.written)
  | .returned (some r) s => ∀ c host u, r.command = some c → c ∈ config.allowed → r.targetText? = some host →
      w.network host r.port = .opens u →
      h.Committed (·.written = s.channel.written ++ ReplyCode.success.encode) ∧ .did (.dial host r.port) ∈ t

/-- The handler stands where the handshake over the captured input stands too, but for bytes that are to come;
or it goes on as that foretells. -/
inductive Foreseen (w : Surroundings) (config : ServerConfig) (t : List Happening) (future : Bytes) (all : Bool)
    (p : Progress Memory (Option Request)) (h : Handler) : Prop
  | going {stage : Stage} {timer : Option Timer} {done : List Move} {s : Session Memory}
      (hc : h.control = .handshaking stage timer) (hs : h.session.Beside (Channel.Owes future all) done s)
      (hp : p = s.resumeHandshake stage)
  | heeds (hh : h.Heeds w config t p)

variable {w : Surroundings} {config : ServerConfig} {t t' : List Happening} {future bs : Bytes} {all : Bool}
  {p : Progress Memory (Option Request)} {h h' : Handler} {m : Moment} {i : Incoming}

theorem Heeds.mono (hh : h.Heeds w config t p)
    (hc : ∀ bs, h.Committed (·.written = bs) → h'.Committed (·.written = bs)) (ht : t ⊆ t') :
    h'.Heeds w config t' p := by
  cases p with
  | waiting stage s => exact hh
  | raised e s => exact hc _ hh
  | returned r? s =>
    cases r? with
    | none => exact hc _ hh
    | some r =>
      intro c host u hcommand hallowed htarget hopens
      obtain ⟨hcommitted, hdial⟩ := hh c host u hcommand hallowed htarget hopens
      exact ⟨hc _ hcommitted, ht hdial⟩

theorem Committed.forgetful {P : Stream → Prop} (hc : h.Committed P) : h.forgetful.Committed P :=
  ⟨hc.client, hc.control⟩

theorem Committed.receive (hc : h.Committed (·.written = bs)) (i : Incoming) :
    (h.receive i).Committed (·.written = bs) := by
  refine ⟨?_, hc.control⟩
  cases i <;> exact hc.client

/-- The handler knows what is asked for. -/
def asking (r : Request) (h : Handler) : Handler :=
  { h with info := { h.info with
    command := r.command, targetHost := r.targetText?, targetPort := some r.port.toNat } }

/-- What is allowed and can be dialled is dialled. -/
theorem serve_of_opens {r : Request} {c : Command} {host : String} {u : Stream}
    (hC : Timeout.isSpent m.config.connectTimeout = false) (hc : r.command = some c) (ha : c ∈ m.config.allowed)
    (ht : r.targetText? = some host) (ho : m.surroundings.network host r.port = .opens u) :
    serve m r h = connected m u ((h.asking r).act (.dial host r.port)) := by
  have hspent : ¬ Timeout.isSpent m.config.connectTimeout = true := Bool.eq_false_iff.1 hC
  have hdial : dial m r (h.asking r) = connected m u ((h.asking r).act (.dial host r.port)) := by
    unfold dial
    dsimp only
    rw [if_neg hspent, ht, Option.getD_some, ho]
  unfold serve
  dsimp only
  rw [hc]
  dsimp only
  rw [if_pos (List.contains_iff_mem.2 ha), ← hdial, asking, ← hc]

section

variable (hrelay : ∀ info, (m.surroundings.relay info).SparesClient)
  (hC : Timeout.isSpent m.config.connectTimeout = false)

include hrelay hC

theorem heeds_serve {r : Request} {c : Command} {host : String} {u : Stream}
    (hphase : h.session.endpoint.phase = .requestDone) (hc : r.command = some c) (ha : c ∈ m.config.allowed)
    (ht : r.targetText? = some host) (ho : m.surroundings.network host r.port = .opens u) :
    (serve m r h).Committed (·.written = h.client.written ++ ReplyCode.success.encode) ∧
      .did (.dial host r.port) ∈ (serve m r h).history := by
  let g := (h.asking r).act (.dial host r.port)
  have hwritten : (g.client.writeAll (ReplyCode.encode .success)).2.written =
      h.client.written ++ ReplyCode.success.encode := Stream.written_writeAll _ g.client
  have hdid : .did (.dial host r.port) ∈ g.past := List.mem_append_right _ (List.mem_singleton_self _)
  rw [serve_of_opens hC hc ha ht ho]
  refine ⟨committed_connected (Channel.lasting_written _) (fun info => (hrelay info).keeps _) hwritten
    (.inl hphase) u, ?_⟩
  exact List.mem_append_left _ ((past_connected m u g).subset hdid)

/-- What a handler makes of its handshake is foreseen. -/
theorem foreseen_afterHandshake {p₁ : Progress Stream (Option Request)} {done : List Move}
    (hp : ∀ r s, p = .returned (some r) s → s.endpoint.phase = .requestDone) (timer : Option Timer)
    (h : Handler)
    (hl : p₁.Leads (Channel.Owes future all) done id (fun stage s => s.resumeHandshake stage) p) :
    (afterHandshake m timer h p₁).forgetful.Foreseen m.surroundings m.config
      (t ++ (afterHandshake m timer h p₁).history) future all p := by
  cases hl with
  | @waiting stage c s s' hw hs =>
    have hbeside : Session.Beside (Channel.Owes future all) s'.trace { s with trace := [] } s' :=
      ⟨hs.endpoint, hs.channel, (List.append_nil _).symm⟩
    exact .going rfl hbeside rfl
  | @raised e s s' hs =>
    refine .heeds (Committed.forgetful ?_)
    exact committed_fail (h := { h with session := s }) (Channel.lasting_written _) hs.channel.written.symm e
  | @returned r? s s' hs =>
    cases r? with
    | none =>
      refine .heeds (Committed.forgetful ?_)
      let g : Handler := { h with session := s, info := { h.info with reply := s.endpoint.rejection } }
      exact committed_finish (h := g) (Channel.lasting_written _) hs.channel.written.symm .returned
    | some r =>
      refine .heeds fun c host u hc ha ht ho => ?_
      have hphase : s.endpoint.phase = .requestDone := hs.endpoint ▸ hp r s' rfl
      obtain ⟨hcommitted, hdial⟩ :=
        heeds_serve (h := { h with session := s }) hrelay hC hphase hc ha ht ho
      rw [hs.channel.written]
      exact ⟨hcommitted.forgetful, List.mem_append_right _ hdial⟩

/-- A handler that goes on stays with what is foreseen. -/
theorem Foreseen.resume (hp : ∀ r s, p = .returned (some r) s → s.endpoint.phase = .requestDone)
    (hf : h.Foreseen m.surroundings m.config t future all p) :
    (h.resume m).forgetful.Foreseen m.surroundings m.config (t ++ (h.resume m).history) future all p := by
  cases hf with
  | @going stage timer done s hc hs hp' =>
    have hl := Session.leads_resumeHandshake (Channel.owes_leads future all) hs stage
    rw [← hp'] at hl
    unfold Handler.resume
    rw [hc]
    exact foreseen_afterHandshake hrelay hC hp timer h hl
  | heeds hh =>
    refine .heeds (hh.mono (fun bs hc => ?_) (List.subset_append_left _ _))
    exact (hc.resume (Channel.lasting_written bs) fun info => (hrelay info).keeps _).forgetful

end

/-- What comes of a delivery leaves the rest of it to come. -/
theorem Foreseen.receive {is : List Incoming} (hf : h.Foreseen w config t future all p)
    (hd : Delivery all future (i :: is)) : ∃ future' all', Delivery all' future' is ∧
      (h.receive i).Foreseen w config t future' all' p := by
  obtain ⟨future', all', hd', hgoes⟩ : ∃ future' all', Delivery all' future' is ∧
      ∀ c m, Channel.Owes future all c m → Channel.Owes future' all' (i.apply c) m := by
    cases hd with
    | bytes bs hd => exact ⟨_, _, hd, fun c m h => h.feed⟩
    | finish hd => exact ⟨_, _, hd, fun c m h => h.finish⟩
  refine ⟨future', all', hd', ?_⟩
  cases hf with
  | going hc hs hp => exact .going hc ⟨hs.endpoint, hgoes _ _ hs.channel, hs.trace⟩ hp
  | heeds hh => exact .heeds (hh.mono (fun bs hc => hc.receive i) fun _ => id)

/-- Once all has come, the handshake is over. -/
theorem Foreseen.heeded {released : List (Held × String)} (hf : h.Foreseen w config t [] true p)
    (hs : h.Settled released) : h.Heeds w config t p := by
  cases hf with
  | @going stage timer done s hc hbeside hp =>
    unfold Settled at hs
    rw [hc] at hs
    rcases hbeside.channel.readExact stage.need with ⟨-, hall⟩ | ⟨hr, -⟩
    · cases hall
    · rw [show h.session.channel.readExact stage.need = _ from hs] at hr
      exact absurd hr.symm (Memory.readExact_ne_waiting _ _)
  | heeds hh => exact hh

end Handler

/-! ## Views -/

namespace View

/-- The client has a handler, and that stays with what is foreseen. -/
structure Foreseen (w : Surroundings) (config : ServerConfig) (future : Bytes) (all : Bool)
    (p : Progress Memory (Option Request)) (v : View) : Prop where
  config_eq : v.config = config
  handled : ∃ h, v.client = some (.handled h) ∧ h.Foreseen w config v.history future all p

variable {w : Surroundings} {config : ServerConfig} {future : Bytes} {all : Bool}
  {p : Progress Memory (Option Request)} {v : View} {name : String}
  (hrelay : ∀ info, (w.relay info).SparesClient) (hC : Timeout.isSpent config.connectTimeout = false)
  (hp : ∀ r s, p = .returned (some r) s → s.endpoint.phase = .requestDone)

include hrelay hC hp

theorem Foreseen.resume (hv : v.Foreseen w config future all p) :
    (v.resume w).Foreseen w config future all p := by
  obtain ⟨hconfig, h, hc, hf⟩ := hv
  rcases run_cases (Handler.resume (v.moment w)) v with ⟨he, -⟩ | ⟨g, hg, -, he⟩
  · rw [View.resume, he]
    exact ⟨hconfig, h, hc, hf⟩
  · obtain rfl : h = g := Client.handled.inj (Option.some.inj (hc.symm.trans hg))
    subst hconfig
    rw [View.resume, he]
    exact ⟨rfl, _, rfl, hf.resume (m := v.moment w) hrelay hC hp⟩

theorem Foreseen.receive (name : String) {i : Incoming} {is : List Incoming} (hv : v.Foreseen w config future all p)
    (hd : Delivery all future (i :: is)) : ∃ future' all', Delivery all' future' is ∧
      (v.step w name (.receive i)).Foreseen w config future' all' p := by
  obtain ⟨hconfig, h, hc, hf⟩ := hv
  obtain ⟨future', all', hd', hf'⟩ := hf.receive hd
  refine ⟨future', all', hd', Foreseen.resume hrelay hC hp ⟨hconfig, h.receive i, ?_, hf'⟩⟩
  dsimp only
  rw [hc]
  rfl

omit hrelay hC hp in
theorem Foreseen.pass {span : Time} (hv : v.Foreseen w config future all p)
    (hn : ∀ h x, v.client = some (.handled h) → h.timer? = some x → v.now + span < x.due) :
    (v.step w name (.pass span)).Foreseen w config future all p := by
  obtain ⟨hconfig, h, hc, hf⟩ := hv
  have hdue : ¬ ({ v with now := v.now + span } : View).isDue = true := by
    rw [isDue_iff (v := { v with now := v.now + span }) hc]
    rintro ⟨x, hx, hle⟩
    exact absurd hle (Rat.not_le.2 (hn h x hc hx))
  unfold step
  dsimp only
  rw [if_neg hdue]
  exact ⟨hconfig, h, hc, hf⟩

/-- Whoever comes stands where the handshake over all that it sends stands, but for what is to come. -/
theorem foreseen_come {a : Arrival} {info : ConnectionInfo} (hi : a.peer.info = .ok info)
    (hr : a.readFault = none) (hw : a.writeFault = none) (hT : Timeout.isSpent config.handshakeTimeout = false)
    (hv : v.config = config) (hlast : a.ended = true → future = [])
    (hhandshake : p = Session.handshake { channel := { unread := a.sent ++ future } }) :
    (v.come w a).Foreseen w config future a.ended p := by
  subst hv
  have hbeside : Session.Beside (Channel.Owes future a.ended) [] ({ channel := a.channel } : Session Stream)
      ({ channel := { unread := a.sent ++ future } } : Session Memory) :=
    ⟨rfl, ⟨rfl, rfl, rfl, rfl, hlast, hr, hw⟩, rfl⟩
  have hl := Session.leads_handshake (Channel.owes_leads future a.ended) hbeside
  rw [← hhandshake] at hl
  have hspent : ¬ Timeout.isSpent (v.moment w).config.handshakeTimeout = true := Bool.eq_false_iff.1 hT
  unfold come
  rw [hi]
  refine ⟨rfl, _, rfl, ?_⟩
  unfold Handler.start
  dsimp only
  rw [if_neg hspent]
  have hf := Handler.foreseen_afterHandshake (m := v.moment w)
    (t := v.history ++ [.noted (Server.newConnection a.peer.label)]) hrelay hC hp
    ((v.moment w).timer (v.moment w).config.handshakeTimeout)
    ⟨a.peer.label, info, { channel := a.channel }, none, [], .handshaking (.offer .version) none⟩ hl
  rwa [List.append_assoc] at hf

end View

/-! ## Runs -/

namespace Service

/-- No advance of the run reaches a timer of the client with this number. -/
def Unhurried (w : Surroundings) (id : Nat) (s : Service) (steps : List Service.Step) : Prop :=
  ∀ before span rest, steps = before ++ .client (.advance span) :: rest →
    ∀ h x, (s.runAll w before).server.clients[id]? = some (.handled h) → h.timer? = some x →
      (s.runAll w before).server.now + span < x.due

variable {w : Surroundings} {config : ServerConfig} {future : Bytes} {all : Bool} {id : Nat} {name : String}
  {p : Progress Memory (Option Request)} {s : Service} {steps : List Service.Step}
  (hrelay : ∀ info, (w.relay info).SparesClient) (hC : Timeout.isSpent config.connectTimeout = false)
  (hp : ∀ r s, p = .returned (some r) s → s.endpoint.phase = .requestDone)

theorem Unhurried.tail {x : Service.Step} (hu : s.Unhurried w id (x :: steps)) :
    (s.step w x).Unhurried w id steps :=
  fun before span rest he => hu (x :: before) span rest (congrArg (x :: ·) he)

include hrelay hC hp

theorem foreseen_step {x : Service.Step} (hid : id < s.server.clients.length)
    (hk : (s.server.view id name).Known name) (hd : Delivery all future (inputsOf id (x :: steps)))
    (hu : s.Unhurried w id (x :: steps)) (hv : (s.server.view id name).Foreseen w config future all p) :
    ∃ future' all', Delivery all' future' (inputsOf id steps) ∧
      ((s.step w x).server.view id name).Foreseen w config future' all' p := by
  have hview := view_step_of_lt (w := w) x hid hk
  have idle : x.turn? id name s.server.clients.length = none → inputsOf id (x :: steps) = inputsOf id steps →
      ∃ future' all', Delivery all' future' (inputsOf id steps) ∧
        ((s.step w x).server.view id name).Foreseen w config future' all' p := by
    intro ht hi
    rw [ht] at hview
    rw [hi] at hd
    exact ⟨future, all, hd, hview ▸ hv⟩
  cases x with
  | client i =>
    cases i with
    | connect a =>
      have hne : s.server.clients.length ≠ id := by omega
      exact idle (if_neg hne) rfl
    | receive j i =>
      by_cases hj : j = id
      · subst hj
        have hi : inputsOf j (.client (.receive j i) :: steps) = i :: inputsOf j steps := by
          simp [inputsOf, Step.input?]
        rw [hi] at hd
        have ht : Step.turn? j name s.server.clients.length (.client (.receive j i)) = some (.receive i) :=
          if_pos rfl
        rw [ht] at hview
        rw [hview]
        exact View.Foreseen.receive hrelay hC hp name hv hd
      · exact idle (if_neg hj) (by simp [inputsOf, Step.input?, hj])
    | release held c =>
      by_cases hc : c = name
      · have ht : Step.turn? id name s.server.clients.length (.client (.release held c)) = some (.release held) :=
          if_pos hc
        rw [ht] at hview
        rw [hview]
        have hreleased : View.Foreseen w config future all p { s.server.view id name with
            released := (s.server.view id name).released.insert (held, name) } := ⟨hv.config_eq, hv.handled⟩
        exact ⟨future, all, hd, hreleased.resume hrelay hC hp⟩
      · exact idle (if_neg hc) rfl
    | advance span =>
      have ht : Step.turn? id name s.server.clients.length (.client (.advance span)) = some (.pass span) := rfl
      have hpass : ((s.server.view id name).step w name (.pass span)).Foreseen w config future all p :=
        hv.pass (hu [] span steps rfl)
      rw [ht] at hview
      rw [hview]
      exact ⟨future, all, hd, hpass⟩
  | _ => exact idle rfl rfl

/-- After a run in which the rest of the delivery comes, nothing is left to come. -/
theorem foreseen_runAll (hid : id < s.server.clients.length) (hk : (s.server.view id name).Known name)
    (hd : Delivery all future (inputsOf id steps)) (hu : s.Unhurried w id steps)
    (hv : (s.server.view id name).Foreseen w config future all p) :
    ((s.runAll w steps).server.view id name).Foreseen w config [] true p ∧
      ((s.runAll w steps).server.view id name).Known name := by
  -- Each step leaves another rest of the delivery to come.
  induction steps generalizing s future all with
  | nil =>
    cases hd
    exact ⟨hv, hk⟩
  | cons x steps ih =>
    obtain ⟨future', all', hd', hv'⟩ := foreseen_step hrelay hC hp hid hk hd hu hv
    have hid' : id < (s.step w x).server.clients.length := by
      rw [length_step]
      omega
    exact ih hid' (hk.next (next_step x hid hk)) hd' hu.tail hv'

end Service

/-! ## Predictions -/

/-- What was written to a client, and what was dialled for it, as the inspection of its bytes tells. -/
def Predicted (w : Surroundings) (config : ServerConfig) (written : Bytes) (dials : List (String × UInt16)) :
    Progress Memory (Option Bool) → Prop
  | .returned none _ => written = [5, 255]
  | .returned (some false) s => written = [5, 0] ++ s.endpoint.suggestedReply.encode
  | .returned (some true) s => ∃ r c host, s.endpoint.request = some r ∧ r.command = some c ∧
      r.targetText? = some host ∧ ∀ u, c ∈ config.allowed → w.network host r.port = .opens u →
        written = [5, 0] ++ s.endpoint.suggestedReply.encode ∧ dials = [(host, r.port)]
  | .raised (.hostName _) _ => written = [5, 0] ++ ReplyCode.generalFailure.encode
  | .raised (.version _) s | .raised (.channel _) s => written = s.channel.written
  | .raised _ _ | .waiting _ _ => False

section

variable {w : Surroundings} {config : ServerConfig} {q : Progress Memory (Option Bool)}
  {p : Progress Memory (Option Request)}

theorem Foretells.requestDone (hf : Foretells q p) (r : Request) (s : Session Memory)
    (hp : p = .returned (some r) s) : s.endpoint.phase = .requestDone := by
  cases hf <;> cases hp
  next he => rw [he]

/-- A handler that goes on as the handshake over the captured input foretells has done what the inspection
tells. -/
theorem Foretells.predicted (hf : Foretells q p) {t : List Happening} {h : Handler} (hh : h.Heeds w config t p)
    (hd : (ledger t).dials.length ≤ 1) : Predicted w config h.client.written (ledger t).dials q := by
  cases hf with
  | refused hs => exact hh.client.trans hs.1
  | invalid hs => exact hh.client.trans hs.1
  | @valid s r bs hs hr he =>
    obtain ⟨port, ht⟩ := hr
    refine ⟨_, _, _, by rw [he], rfl, rfl, fun u ha ho => ?_⟩
    obtain ⟨hcommitted, hdial⟩ := hh _ _ u rfl ha rfl ho
    have hmem := mem_dials hdial
    obtain ⟨x, hx⟩ := List.length_eq_one_iff.1 (Nat.le_antisymm hd (List.length_pos_of_mem hmem))
    rw [hx] at hmem ⊢
    have hwritten := hcommitted.client
    rw [hs.1] at hwritten
    exact ⟨by rw [hwritten, he]; rfl, by rw [List.mem_singleton.1 hmem]⟩
  | misnamed raw hs => exact hh.client.trans hs.1
  | broken he =>
    obtain ⟨v, rfl⟩ | ⟨x, rfl⟩ := he <;> exact hh.client

end

/-- The inspection of a client's bytes predicts the server. A client is let in, all its bytes come, in whatever
pieces and whatever else happens, and then their end, and no timer of its runs out meanwhile. Then it was sent
the refusal or the reply that the inspection of these bytes suggests; if they are a request that is allowed and
can be dialled, its target was dialled and nothing else. -/
theorem inspect_predicts (w : Surroundings) (config : ServerConfig) (hrelay : ∀ info, (w.relay info).SparesClient)
    (hT : Timeout.isSpent config.handshakeTimeout = false) (hC : Timeout.isSpent config.connectTimeout = false)
    (before rest : List Service.Step) (a : Arrival) (future : Bytes)
    (ha : ((Service.fresh config).runAll w before).server.Admits a) (hr : a.readFault = none)
    (hw : a.writeFault = none) :
    let came := ((Service.fresh config).runAll w before).step w (.client (.connect a))
    let id := ((Service.fresh config).runAll w before).server.clients.length
    let s := ((Service.fresh config).runAll w (before ++ .client (.connect a) :: rest)).server
    Delivery a.ended future (inputsOf id rest) → came.Unhurried w id rest →
      ∃ h, s.clients[id]? = some (.handled h) ∧
        Predicted w config h.client.written (ledger (s.historyOf id)).dials (inspect (a.sent ++ future)) := by
  intro came id s hd hu
  obtain ⟨hroom, info, hi⟩ := ha
  have hforetold := foretells_inspect (a.sent ++ future)
  have hname : ∀ i, a.peer.info = .ok i → i.client = info.client := by
    intro i hi'
    rw [hi] at hi'
    cases hi'
    rfl
  have hs : s = (came.runAll w rest).server := congrArg Service.server (Service.runAll_append w _ before _)
  have hview : came.server.view id info.client =
      (((Service.fresh config).runAll w before).server.view id info.client).come w a :=
    Server.view_connect_self rfl w hroom hname
  have hconfig := (Server.tidy_runAll w config before).config_eq
  have hcame : (came.server.view id info.client).Foreseen w config future a.ended
      (Session.handshake { channel := { unread := a.sent ++ future } }) := by
    rw [hview]
    exact View.foreseen_come hrelay hC hforetold.requestDone hi hr hw hT hconfig hd.last rfl
  have hknown : (came.server.view id info.client).Known info.client := by
    rw [hview]
    exact View.known_come w hname _
  have hid : id < came.server.clients.length := by
    rw [Service.length_step]
    exact Nat.lt_succ_self _
  obtain ⟨⟨-, h, hc, hf⟩, hk⟩ :=
    Service.foreseen_runAll hrelay hC hforetold.requestDone hid hknown hd hu hcame
  rw [← hs] at hc hf hk
  have hledger : ledger (s.view id info.client).history = ledger (s.historyOf id) := ledger_unnumbered _
  have honce := (lawful_runAll w config (before ++ .client (.connect a) :: rest) id).at_most_once.1
  refine ⟨h, hc, ?_⟩
  rw [← hledger] at honce ⊢
  exact hforetold.predicted (hf.heeded (hk.settled h hc)) honce

/-- A network in which every dial succeeds, and a relay that passes nothing on. -/
def willing : Surroundings where
  network _ _ := .opens {}

/-- What a client still sends that has sent its offer: in two pieces, ten seconds apart, that it asks for port
80 of 10.0.0.1, and then its end. -/
def hesitation : List Service.Step :=
  [.client (.receive 1 (.bytes [5, 1, 0, 1])), .client (.advance 10),
    .client (.receive 1 (.bytes [10, 0, 0, 1, 0, 80])), .client (.receive 1 .finish)]

/-- The guest came before it and says nothing. -/
theorem inspect_predicts_hesitation :
    let s := ((Service.fresh {}).runAll willing
      (.client (.connect guest) :: .client (.connect { sent := [5, 1, 0] }) :: hesitation)).server
    ∃ h, s.clients[1]? = some (.handled h) ∧ h.client.written = [5, 0] ++ ReplyCode.success.encode ∧
      (ledger (s.historyOf 1)).dials = [("10.0.0.1", 80)] := by
  intro s
  have hdelivery : Delivery false [5, 1, 0, 1, 10, 0, 0, 1, 0, 80] (inputsOf 1 hesitation) :=
    .bytes [5, 1, 0, 1] (.bytes [10, 0, 0, 1, 0, 80] (.finish .nothing))
  have hunhurried : ((Service.fresh {}).runAll willing [.client (.connect guest),
      .client (.connect { sent := [5, 1, 0] })]).Unhurried willing 1 hesitation := by
    intro before span rest he h x hc hx
    obtain rfl : before = [.client (.receive 1 (.bytes [5, 1, 0, 1]))] := by
      rcases before with _ | ⟨_, _ | ⟨_, _ | ⟨_, _ | ⟨_, before⟩⟩⟩⟩ <;> simp [hesitation] at he
      simp [he.1]
    cases he
    cases hc
    cases hx
    decide +kernel
  obtain ⟨h, hc, r, c, host, hrequest, hcommand, htext, hgoes⟩ :=
    inspect_predicts willing {} (fun _ => trivial) (by decide) (by decide) [.client (.connect guest)] hesitation
      { sent := [5, 1, 0] } [5, 1, 0, 1, 10, 0, 0, 1, 0, 80] ⟨by decide +kernel, _, rfl⟩ rfl rfl hdelivery
      hunhurried
  cases hrequest
  cases hcommand
  cases htext
  obtain ⟨hwritten, hdials⟩ := hgoes {} (by decide) rfl
  exact ⟨h, hc, hwritten, hdials⟩

end Socks5
