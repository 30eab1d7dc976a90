import Mathlib.Data.List.Infix
import Socks5.Proofs.Server.Deadlines
import Socks5.Proofs.Server.Prediction
import Socks5.Proofs.Wire.Acceptance
import Socks5.Proofs.Wire.Diagnosis

/-!
What a client is told of a dial that fails. The code that it is sent goes by the kind of the error and then by its
number (`Fault.CallsFor`). A handler that is asked in time for something that is allowed dials, and from there on it
waits for its dial, as long as that has time, or has told the client how it failed (`Handler.Fails`). So whatever
else happens, every request whose dial fails is answered with the code for the error, and the client is closed
(`failed_dial_told`).
-/
namespace Socks5

open Channel (Stream Memory)

/-! ## Codes for errors -/

namespace Fault

/-- An error that is none of those which have a code of their own. -/
def IsOther (f : Fault) : Prop := f.kind ≠ .refused ∧ f.kind ≠ .timeout ∧ f.kind ≠ .addressInfo

/-- The code that tells of a dial that failed so. The kind of the error goes before its number, which only errors
of the system have. -/
inductive CallsFor (f : Fault) : ReplyCode → Prop
  | refused (h : f.kind = .refused) : CallsFor f .connectionRefused
  | timeout (h : f.kind = .timeout) : CallsFor f .ttlExpired
  | resolver (h : f.kind = .addressInfo) : CallsFor f .hostUnreachable
  | network (h : f.IsOther) (hn : f.hasErrno networkUnreachable = true) : CallsFor f .networkUnreachable
  | host (h : f.IsOther) (hn : f.hasErrno networkUnreachable = false) (hh : f.hasErrno hostUnreachable = true) :
      CallsFor f .hostUnreachable
  | other (h : f.IsOther) (hn : f.hasErrno networkUnreachable = false) (hh : f.hasErrno hostUnreachable = false) :
      CallsFor f .generalFailure

theorem callsFor_replyCode (f : Fault) : f.CallsFor f.replyCode := by
  have others (h : f.IsOther) : f.CallsFor (if f.hasErrno networkUnreachable then .networkUnreachable
      else if f.hasErrno hostUnreachable then .hostUnreachable else .generalFailure) := by
    cases hn : f.hasErrno networkUnreachable with
    | true => exact .network h hn
    | false =>
      cases hh : f.hasErrno hostUnreachable with
      | true => exact .host h hn hh
      | false => exact .other h hn hh
  unfold replyCode
  cases hk : f.kind with
  | refused => exact .refused hk
  | timeout => exact .timeout hk
  | addressInfo => exact .resolver hk
  | _ => exact others ⟨by simp [hk], by simp [hk], by simp [hk]⟩

theorem callsFor_iff {f : Fault} {c : ReplyCode} : f.CallsFor c ↔ c = f.replyCode := by
  constructor
  · intro h
    have others (ho : f.IsOther) : f.replyCode = if f.hasErrno networkUnreachable then .networkUnreachable
        else if f.hasErrno hostUnreachable then .hostUnreachable else .generalFailure := by
      obtain ⟨hr, ht, ha⟩ := ho
      unfold replyCode
      split
      · exact absurd ‹_› hr
      · exact absurd ‹_› ht
      · exact absurd ‹_› ha
      · rfl
    cases h with
    | refused h => rw [replyCode, h]
    | timeout h => rw [replyCode, h]
    | resolver h => rw [replyCode, h]
    | network h hn => simp [others h, hn]
    | host h hn hh => simp [others h, hn, hh]
    | other h hn hh => simp [others h, hn, hh]
  · rintro rfl
    exact callsFor_replyCode f

/-- What a client is sent behind the answer to its offer when its dial failed: the code for the error, if it is one
that dials have, and nothing for others. -/
inductive Answers (f : Fault) : Bytes → Prop
  | code {c : ReplyCode} (h : f.kind.isSystem = true ∨ f.kind.isValue = true) (hc : f.CallsFor c) (hs : c ≠ .success) :
      Answers f c.encode
  | nothing (hs : f.kind.isSystem = false) (hv : f.kind.isValue = false) : Answers f []

/-- The kind that a system error takes from its number, which it has if a text comes with it and no more than
three arguments behind that. -/
def numberedKind? : List Value → Option FaultKind
  | n :: _ :: rest => if rest.length ≤ 3 then n.toInt?.bind FaultKind.ofErrno? else none
  | _ => none

/-- What becomes of an error that is made of a kind and some arguments. Only a system error of no special kind may
take another kind; all others keep theirs, whatever their number. -/
structure MadeOf (kind : FaultKind) (args : List Value) (f : Fault) : Prop where
  holds : f.args = args
  keeps : kind ≠ .os → f.kind = kind
  takes : kind = .os → f.kind = (numberedKind? args).getD .os

theorem madeOf_make (kind : FaultKind) (args : List Value) : MadeOf kind args (make kind args) := by
  by_cases hk : kind = .os
  · subst hk
    rcases args with _ | ⟨n, _ | ⟨text, rest⟩⟩
    · exact ⟨rfl, fun h => absurd rfl h, fun _ => rfl⟩
    · exact ⟨rfl, fun h => absurd rfl h, fun _ => rfl⟩
    · refine ⟨rfl, fun h => absurd rfl h, fun _ => ?_⟩
      simp only [make, numberedKind?]
      split <;> rfl
  · have hm : make kind args = ⟨kind, args⟩ := by
      unfold make
      split
      · exact absurd rfl hk
      · rfl
    rw [hm]
    exact ⟨rfl, fun _ => rfl, fun h => absurd h hk⟩

end Fault

/-! ## Dials that fail -/

/-- The one way in which a dial to the target can come to an end is that it fails with the fault: the network
refuses it, or lets it hang until its time is up, or there is no time for it at all. -/
inductive DialFails (w : Surroundings) (config : ServerConfig) (host : String) (port : UInt16) : Fault → Prop
  | refused {f : Fault} (hs : Timeout.isSpent config.connectTimeout = false) (hn : w.network host port = .refuses f) :
      DialFails w config host port f
  | late (hs : Timeout.isSpent config.connectTimeout = false) (hn : w.network host port = .hangs) :
      DialFails w config host port ⟨.timeout, []⟩
  | spent (hs : Timeout.isSpent config.connectTimeout = true) : DialFails w config host port ⟨.timeout, []⟩

/-- The dial that is made, unless there is no time for it. -/
def attempted (config : ServerConfig) (host : String) (port : UInt16) : List (String × UInt16) :=
  if Timeout.isSpent config.connectTimeout then [] else [(host, port)]

variable {w : Surroundings} {config : ServerConfig} {host : String} {port : UInt16} {f : Fault}

theorem DialFails.not_opened (hf : DialFails w config host port f) {l : Ledger}
    (hl : l.dials = attempted config host port) : ¬ Opened w l := by
  rintro ⟨host', port', u, hd, ho⟩
  have hmem : (host', port') ∈ attempted config host port := by
    rw [← hl, hd]
    exact List.mem_singleton_self _
  unfold attempted at hmem
  split at hmem
  · cases hmem
  · cases List.mem_singleton.1 hmem
    cases hf with
    | refused hs hn => cases hn.symm.trans ho
    | late hs hn => cases hn.symm.trans ho
    | spent hs => contradiction

/-! ## Handlers -/

/-- Bytes that are to come have come. Behind its end, a channel is owed none. -/
theorem Channel.Owes.fed {bs future : Bytes} {all : Bool} {c : Stream} {m : Memory}
    (h : Channel.Owes (bs ++ future) all c m) : Channel.Owes future all (c.feed bs) m := by
  cases all with
  | false => exact h.feed
  | true =>
    obtain ⟨rfl, rfl⟩ := List.append_eq_nil_iff.1 (h.last rfl)
    have hfeed : c.feed [] = c := by simp [Stream.feed]
    rw [hfeed]
    exact h

namespace Handler

variable {t : List Happening} {h g : Handler} {m : Moment} {r : Request}

/-- The client's offer was accepted, and it can be sent a reply. -/
structure Answerable (h : Handler) : Prop where
  phase : h.session.endpoint.phase = .requestDone
  writable : h.client.writeFault = none
  written : h.client.written = [5, 0]
  outbound : h.outbound = none

/-- The client was sent the answer to its offer and what tells of the fault, and is done with. -/
structure Told (f : Fault) (h : Handler) : Prop where
  ended : h.isEnded = true
  closed : h.client.closed = true
  written : ∃ bs, f.Answers bs ∧ h.client.written = [5, 0] ++ bs

/-- How the handler of a client stands whose dial can only fail. Either its dial hangs, and it waits for that under
a timer of `R`; or it was told. -/
inductive Fails (w : Surroundings) (config : ServerConfig) (host : String) (port : UInt16) (f : Fault)
    (R : Option Timer → Prop) (t : List Happening) (h : Handler) : Prop
  | awaits {timer : Option Timer} (hn : w.network host port = .hangs) (hf : f = ⟨.timeout, []⟩)
      (hc : h.control = .dialling timer) (hr : R timer) (ha : h.Answerable)
      (hd : (ledger t).dials = attempted config host port)
  | told (ht : h.Told f) (hd : (ledger t).dials = attempted config host port)

/-- How the handler stands, whatever its timer. -/
abbrev Failing (w : Surroundings) (config : ServerConfig) (host : String) (port : UInt16) (f : Fault) :
    List Happening → Handler → Prop := Fails w config host port f fun _ => True

theorem dials_history (h : Handler) (t : List Happening) :
    (ledger (t ++ h.history)).dials = (ledger (t ++ h.past)).dials := by
  rw [history, ← List.append_assoc]
  exact (ledger_moved (t ++ h.past) h.session.trace).1

theorem told_of_finish {bs : Bytes} (hw : g.client.written = bs) (ho : g.outbound = none) (o : Outcome) :
    (g.finish o).isEnded = true ∧ (g.finish o).client.closed = true ∧ (g.finish o).client.written = bs := by
  have hd := dropped_finish ho o
  refine ⟨hd.ended, hd.closed, ?_⟩
  rw [client_finish ho]
  exact hw

theorem told_of_fail {bs : Bytes} (hw : g.client.written = bs) (ho : g.outbound = none) (e : Failure) :
    (fail e g).isEnded = true ∧ (fail e g).client.closed = true ∧ (fail e g).client.written = bs := by
  unfold fail
  repeat' split
  all_goals first
    | exact told_of_finish (g := g.noteAll _) hw ho _
    | exact told_of_finish hw ho _

/-- A client that can be answered is told of any fault of its dial. -/
theorem told_dialFailed (ha : h.Answerable) (f : Fault) :
    (dialFailed f h).Told f ∧ (dialFailed f h).past = h.past := by
  unfold dialFailed
  by_cases hk : (f.kind.isSystem || f.kind.isValue) = true
  · rw [if_pos hk]
    have hanswers : f.Answers f.replyCode.encode :=
      .code (Bool.or_eq_true _ _ ▸ hk) (Fault.callsFor_replyCode f) f.replyCode_ne_success
    generalize hg : h.note .warning "Outbound connection failed" _ = g
    have hp : g.session.endpoint.phase = .requestDone := by
      rw [← hg]
      exact ha.phase
    have hf : g.client.writeFault = none := by
      rw [← hg]
      exact ha.writable
    obtain ⟨s, hs, hr⟩ := reply_of_writes hp hf f.replyCode (finish .returned)
    rw [hr]
    have hw : s.channel.written = [5, 0] ++ f.replyCode.encode := by
      rw [hs, ← hg, ← ha.written]
      rfl
    have ho : g.outbound = none := by
      rw [← hg]
      exact ha.outbound
    obtain ⟨he, hc, hw⟩ := told_of_finish
      (g := { g with session := s, info := { g.info with reply := some f.replyCode } }) hw ho .returned
    refine ⟨⟨he, hc, _, hanswers, hw⟩, ?_⟩
    rw [past_finish, ← hg]
    rfl
  · rw [if_neg hk]
    obtain ⟨hs, hv⟩ : f.kind.isSystem = false ∧ f.kind.isValue = false := by simpa using hk
    obtain ⟨he, hc, hw⟩ := told_of_fail ha.written ha.outbound (.fault f)
    exact ⟨⟨he, hc, [], .nothing hs hv, by rw [hw, List.append_nil]⟩, past_fail _ h⟩

theorem Answerable.act (ha : h.Answerable) (a : Act) : (h.act a).Answerable :=
  ⟨ha.phase, ha.writable, ha.written, ha.outbound⟩

theorem Told.forgetful (ht : h.Told f) : h.forgetful.Told f := ⟨ht.ended, ht.closed, ht.written⟩

theorem dials_act (h : Handler) (t : List Happening) (host : String) (port : UInt16) :
    (ledger (t ++ (h.act (.dial host port)).past)).dials = (ledger (t ++ h.past)).dials ++ [(host, port)] := by
  rw [act, ← List.append_assoc, ledger_snoc, ← dials_history]
  rfl

/-- The dial of a client that can be answered fails. -/
theorem fails_dial (ha : h.Answerable) (hf : DialFails m.surroundings m.config host r.port f)
    (ht : r.targetText? = some host) (hd : (ledger (t ++ h.past)).dials = []) :
    Failing m.surroundings m.config host r.port f (t ++ (dial m r h).history) (dial m r h).forgetful := by
  have hhost : r.targetText?.getD "" = host := by rw [ht, Option.getD_some]
  unfold dial
  dsimp only
  rw [hhost]
  cases hf with
  | spent hs =>
    rw [if_pos hs]
    obtain ⟨htold, hpast⟩ := told_dialFailed ha ⟨.timeout, []⟩
    refine .told htold.forgetful ?_
    rw [dialTimedOut, dials_history, hpast, hd, attempted, if_pos hs]
  | refused hs hn =>
    rw [if_neg (by simp [hs]), hn]
    obtain ⟨htold, hpast⟩ := told_dialFailed (ha.act (.dial host r.port)) f
    refine .told htold.forgetful ?_
    dsimp only
    rw [dials_history, hpast, dials_act, hd, attempted, if_neg (by simp [hs])]
    rfl
  | late hs hn =>
    rw [if_neg (by simp [hs]), hn]
    refine .awaits hn rfl rfl trivial ⟨ha.phase, ha.writable, ha.written, ha.outbound⟩ ?_
    rw [dials_history, attempted, if_neg (by simp [hs])]
    refine (dials_act h t host r.port).trans ?_
    rw [hd]
    rfl

/-! ## What stays so -/

variable {R R' : Option Timer → Prop}

theorem Fails.imp (hh : h.Fails w config host port f R t) (hi : ∀ timer, h.control = .dialling timer → R' timer) :
    h.Fails w config host port f R' t := by
  cases hh with
  | awaits hn hf hc _ ha hd => exact .awaits hn hf hc (hi _ hc) ha hd
  | told ht hd => exact .told ht hd

theorem Fails.dials (hh : h.Fails w config host port f R t) : (ledger t).dials = attempted config host port := by
  cases hh with
  | awaits _ _ _ _ _ hd => exact hd
  | told _ hd => exact hd

theorem Fails.receive {i : Incoming} (hh : h.Fails w config host port f R t) (hi : ∀ x, i ≠ .writeFault x) :
    (h.receive i).Fails w config host port f R t := by
  have hw : (h.receive i).client.writeFault = h.client.writeFault := by
    cases i with
    | writeFault x => exact absurd rfl (hi x)
    | _ => rfl
  have hsame : (h.receive i).client.written = h.client.written ∧ (h.receive i).client.closed = h.client.closed := by
    cases i <;> exact ⟨rfl, rfl⟩
  cases hh with
  | awaits hn hf hc hr ha hd =>
    exact .awaits hn hf hc hr ⟨ha.phase, hw.trans ha.writable, hsame.1.trans ha.written, ha.outbound⟩ hd
  | told ht hd => exact .told ⟨ht.ended, hsame.2.trans ht.closed, hsame.1 ▸ ht.written⟩ hd

/-- Nothing that comes makes the handler go on. -/
theorem Fails.resume_eq (hh : h.Fails w config host port f R t) (m : Moment) : h.resume m = h := by
  cases hh with
  | awaits _ _ hc _ _ _ => rw [Handler.resume, hc]
  | told ht _ => exact resume_of_isEnded ht.ended

theorem Fails.resume (hh : h.Fails w config host port f R t) (hn : h.history = []) (m : Moment) :
    (h.resume m).forgetful.Fails w config host port f R (t ++ (h.resume m).history) := by
  rw [hh.resume_eq, hn, List.append_nil, forgetful_of_history hn]
  exact hh

/-- A dial that hangs is told of when its time is up. -/
theorem Fails.expire (hh : h.Fails w config host port f R t) (hn : h.history = []) :
    h.expire.forgetful.Fails w config host port f R (t ++ h.expire.history) := by
  cases hh with
  | told ht hd =>
    rw [expire_of_isEnded ht.ended, hn, List.append_nil, forgetful_of_history hn]
    exact .told ht hd
  | awaits hnet hf hc hr ha hd =>
    have he : h.expire = dialFailed f h := by rw [Handler.expire, hc, hf, dialTimedOut]
    obtain ⟨htold, hpast⟩ := told_dialFailed ha f
    rw [he]
    refine .told htold.forgetful ?_
    rw [dials_history, hpast, (List.append_eq_nil_iff.1 hn).1, List.append_nil]
    exact hd

/-! ## Before the dial -/

theorem serve_of_allowed {c : Command} (hc : r.command = some c) (ha : c ∈ m.config.allowed) (h : Handler) :
    serve m r h = dial m r (h.asking r) := by
  unfold serve
  dsimp only
  rw [hc]
  dsimp only
  rw [if_pos (List.contains_iff_mem.2 ha), asking, ← hc]

/-- The handler stands where the handshake over the captured input stands too, but for bytes that are to come. It
waits for these under its timer, and has dialled nothing. -/
structure Going (timer : Option Timer) (future : Bytes) (all : Bool) (p : Progress Memory (Option Request))
    (t : List Happening) (h : Handler) : Prop where
  stands : ∃ stage done, ∃ s : Session Memory, h.control = .handshaking stage timer ∧
    h.session.Beside (Channel.Owes future all) done s ∧ p = s.resumeHandshake stage
  outbound : h.outbound = none
  dials : (ledger t).dials = []

end Handler

/-- A dial that fails is told of, or waited for, whatever comes then. -/
theorem sustained_fails (w : Surroundings) (config : ServerConfig) (host : String) (port : UInt16) (f : Fault) :
    Sustained w config (fun _ _ => False) (fun i => ∀ x, i ≠ .writeFault x) (fun _ => True)
      (fun _ t h => h.Failing w config host port f t) where
  started := fun _ _ _ _ ha => ha.elim
  received := fun _ _ _ _ hi _ hf => hf.receive hi
  resumed := fun m _ _ _ _ _ hh hf => hf.resume hh m
  expired := fun _ _ _ _ _ _ _ _ hh hf => hf.expire hh

/-- A captured input that is too short for a stage gives no request. -/
theorem Session.resumeHandshake_short {s s' : Session Memory} {stage : Stage} {r : Option Request}
    (ho : s.channel.closed = false) (hl : s.channel.unread.length < stage.need) :
    s.resumeHandshake stage ≠ .returned r s' := by
  cases stage with
  | offer st =>
    obtain ⟨next, hn⟩ := resumeOffer_eq_read st s
    rw [resumeHandshake, hn, read_short ho hl]
    intro h
    cases h
  | request st =>
    obtain ⟨next, hn⟩ := resumeRequest_eq_read st s
    rw [resumeHandshake, hn, read_short ho hl]
    intro h
    cases h

/-- Once all of a request has come, its handshake is over. -/
theorem Handler.Going.not_settled {timer : Option Timer} {all : Bool} {p : Progress Memory (Option Request)}
    {t : List Happening} {h : Handler} {released : List (Held × String)} (hg : h.Going timer [] all p t)
    (hs : h.Settled released) (r : Option Request) (s : Session Memory) : p ≠ .returned r s := by
  obtain ⟨stage, done, s', hc, hbeside, rfl⟩ := hg.stands
  unfold Handler.Settled at hs
  rw [hc] at hs
  refine Session.resumeHandshake_short hbeside.channel.opened ?_
  have hu : s'.channel.unread = h.client.unread := hbeside.channel.unread.trans (List.append_nil _)
  rw [hu]
  rcases Stream.readExact_cases hbeside.channel.readable stage.need with ⟨-, hr⟩ | ⟨hl, -⟩ | ⟨hl, -⟩
  · rw [show h.session.channel.readExact stage.need = _ from hs] at hr
    cases hr
  · exact hl
  · exact hl

/-- The handshake over the captured input `d` comes to a request that is allowed, for a target whose dial can only
fail with the fault. -/
structure Doomed (w : Surroundings) (config : ServerConfig) (d : Bytes) (r : Request) (host : String) (f : Fault) :
    Prop where
  asks : ∃ rest, Asks d r rest
  allowed : ∃ c, r.command = some c ∧ c ∈ config.allowed
  target : r.targetText? = some host
  fails : DialFails w config host r.port f

namespace Doomed

variable {d future bs : Bytes} {all : Bool} {t : List Happening} {h : Handler} {m : Moment} {r : Request}

theorem returned (hd : Doomed w config d r host f) :
    ∃ s, Session.handshake ({ channel := { unread := d } } : Session Memory) = .returned (some r) s ∧
      s.channel.written = [5, 0] ∧ s.endpoint.phase = .requestDone := by
  obtain ⟨rest, hasks⟩ := hd.asks
  obtain ⟨s, hs, hc, he⟩ := Session.handshake_of_asks hasks
  exact ⟨s, hs, by rw [hc], by rw [he]⟩

/-- Behind a part of its handshake, the handler waits for more bytes, or its dial fails. -/
theorem afterHandshake {p₁ : Progress Stream (Option Request)} {done : List Move}
    (hd : Doomed m.surroundings m.config d r host f)
    (hl : p₁.Leads (Channel.Owes future all) done id (fun stage s => s.resumeHandshake stage)
      (Session.handshake { channel := { unread := d } }))
    (timer : Option Timer) (ho : h.outbound = none) (hp : h.past = []) (ht : (ledger t).dials = []) :
    Handler.Going timer future all (Session.handshake { channel := { unread := d } })
        (t ++ (h.afterHandshake m timer p₁).history) (h.afterHandshake m timer p₁).forgetful ∨
      Handler.Failing m.surroundings m.config host r.port f
        (t ++ (h.afterHandshake m timer p₁).history) (h.afterHandshake m timer p₁).forgetful := by
  obtain ⟨s₀, hreturns, hwritten, hphase⟩ := hd.returned
  revert hl
  generalize Session.handshake ({ channel := { unread := d } } : Session Memory) = p at hreturns ⊢
  intro hl
  cases hl with
  | @waiting stage c s s' hw hs =>
    have hbeside : Session.Beside (Channel.Owes future all) s'.trace { s with trace := [] } s' :=
      ⟨hs.endpoint, hs.channel, (List.append_nil _).symm⟩
    refine .inl ⟨⟨stage, s'.trace, s', rfl, hbeside, rfl⟩, ho, ?_⟩
    rw [Handler.dials_history]
    show (ledger (t ++ h.past)).dials = []
    rw [hp, List.append_nil]
    exact ht
  | raised hs => cases hreturns
  | @returned r? s s' hs =>
    cases hreturns
    obtain ⟨c, hc, hallowed⟩ := hd.allowed
    let g := ({ h with session := s } : Handler).asking r
    have hg : g.Answerable := by
      refine ⟨?_, hs.channel.writable, ?_, ho⟩
      · exact hs.endpoint ▸ hphase
      · exact hs.channel.written.symm.trans hwritten
    have hpast : (ledger (t ++ g.past)).dials = [] := by
      rw [show g.past = [] from hp, List.append_nil]
      exact ht
    have hserve : Handler.afterHandshake m timer h (.returned (some r) s) = Handler.dial m r g :=
      Handler.serve_of_allowed hc hallowed _
    rw [hserve]
    exact .inr (Handler.fails_dial hg hd.fails hd.target hpast)

/-- What holds of the handler of a client that came at this time, as long as only bytes come, which make up `d` in
the end. -/
def Upheld (w : Surroundings) (config : ServerConfig) (came : Time) (d : Bytes) (r : Request) (host : String)
    (f : Fault) (all : Bool) (bs : Bytes) (t : List Happening) (h : Handler) : Prop :=
  ∀ future, bs ++ future = d →
    h.Going (config.handshakeTimeout.map fun span => ⟨came + span, came⟩) future all
      (Session.handshake { channel := { unread := d } }) t ∨ h.Failing w config host r.port f t

/-- As long as the clock is below the limit, no time runs out but that of a dial. -/
theorem sustained (hd : Doomed w config d r host f) (came : Time) {a : Arrival} (hr : a.readFault = none)
    (hw : a.writeFault = none) (hlast : a.ended = true → a.sent = d)
    (hspent : Timeout.isSpent config.handshakeTimeout = false) :
    Sustained w config (fun now b => now = came ∧ b = a) (fun i => ∃ bs, i = .bytes bs)
      (fun now => ∀ span, config.handshakeTimeout = some span → now < came + span)
      (Upheld w config came d r host f a.ended) where
  started := by
    rintro m a info es ⟨rfl, rfl⟩ rfl rfl hi h future hfuture
    have hquiet : (ledger (es.map Happening.noted)).dials = [] := by
      have hstands : Stands m.surroundings m.config (es.map .noted) {} := stands_notes es
      rw [hstands.ledger_eq]
    have hend : a.ended = true → future = [] := by
      intro he
      rw [← hlast he] at hfuture
      exact List.append_right_eq_self.1 hfuture
    subst hfuture
    have hbeside : Session.Beside (Channel.Owes future a.ended) [] ({ channel := a.channel } : Session Stream)
        ({ channel := { unread := a.sent ++ future } } : Session Memory) :=
      ⟨rfl, ⟨rfl, rfl, rfl, rfl, hend, hr, hw⟩, rfl⟩
    have hl := Session.leads_handshake (Channel.owes_leads future a.ended) hbeside
    let g : Handler := ⟨a.peer.label, info, { channel := a.channel }, none, [], .handshaking (.offer .version) none⟩
    unfold h Handler.start
    dsimp only
    rw [if_neg (Bool.eq_false_iff.1 hspent)]
    exact hd.afterHandshake (h := g) hl _ rfl rfl hquiet
  received := by
    rintro bs t h _ ⟨x, rfl⟩ hh hI future hfuture
    rcases hI (x ++ future) (by rw [← hfuture, List.append_assoc]; rfl) with hg | hf
    · obtain ⟨stage, done, s, hc, hs, hp⟩ := hg.stands
      exact .inl ⟨⟨stage, done, s, hc, ⟨hs.endpoint, hs.channel.fed, hs.trace⟩, hp⟩, hg.outbound, hg.dials⟩
    · exact .inr (hf.receive fun _ => nofun)
  resumed := by
    rintro m bs t h rfl rfl hh hI future hfuture
    rcases hI future hfuture with hg | hf
    · obtain ⟨stage, done, s, hc, hs, hp⟩ := hg.stands
      have hl := Session.leads_resumeHandshake (Channel.owes_leads future a.ended) hs stage
      rw [← hp] at hl
      unfold Handler.resume
      rw [hc]
      exact hd.afterHandshake hl _ hg.outbound (List.append_eq_nil_iff.1 hh).1 hg.dials
    · exact .inr (hf.resume hh m)
  expired := by
    rintro now x bs t h hnow hx hle hh hI future hfuture
    rcases hI future hfuture with hg | hf
    -- The timer that has run out is that of the handshake, but the clock is below the limit.
    · obtain ⟨stage, done, s, hc, -⟩ := hg.stands
      rw [Handler.timer?, hc, Option.map_eq_some_iff] at hx
      obtain ⟨span, hspan, rfl⟩ := hx
      exact absurd hle (not_le.2 (hnow span hspan))
    · exact .inr (hf.expire hh)

end Doomed

/-! ## Runs -/

/-- Of how many connections a callback was told makes no difference here. -/
theorem Handler.Fails.of_unnumbered {R : Option Timer → Prop} {t : List Happening} {h : Handler}
    (hh : h.Fails w config host port f R (t.map Happening.unnumbered)) : h.Fails w config host port f R t := by
  cases hh with
  | awaits hn hf hc hr ha hd => exact .awaits hn hf hc hr ha (ledger_unnumbered t ▸ hd)
  | told ht hd => exact .told ht (ledger_unnumbered t ▸ hd)

/-- All through the run the clock is below the limit, counted from now. -/
def Service.InTime (w : Surroundings) (limit : Timeout) (s : Service) (steps : List Service.Step) : Prop :=
  ∀ span, limit = some span → ∀ first, first <+: steps → (s.runAll w first).server.now < s.server.now + span

theorem Service.InTime.isSpent {limit : Timeout} {s : Service} {steps : List Service.Step}
    (h : s.InTime w limit steps) : Timeout.isSpent limit = false := by
  cases limit with
  | none => rfl
  | some span =>
    have hlt : s.server.now < s.server.now + span := h span rfl [] List.nil_prefix
    exact decide_eq_false (not_le.2 (pos_of_lt_add_right hlt))

/-- A dial was made for the client, and its timer was set then and has not run out. -/
def HasTime (w : Surroundings) (config : ServerConfig) (steps : List Service.Step) (id : Nat) (timer : Option Timer) :
    Prop :=
  ∃ t, DialsAt w config id steps t ∧
    config.connectTimeout.Runs t ((Service.fresh config).runAll w steps).server.now timer

/-- A handler that waits for its dial has time for it. -/
theorem hasTime_of_dialling {steps : List Service.Step} {id : Nat} {h : Handler} {timer : Option Timer}
    (hc : ((Service.fresh config).runAll w steps).server.clients[id]? = some (.handled h))
    (hd : h.control = .dialling timer) : HasTime w config steps id timer := by
  have htimed := timed_runAll w config steps hc
  unfold Handler.Timed Handler.Waits at htimed
  rw [hd] at htimed
  exact htimed.1

/-- Every dial that fails is told of. A client is let in that can be read from and written to, and what it sends
before its time is up, in whatever pieces and whatever else happens, is a request that is allowed and whose dial can
only fail with the error. Then, unless the dial hangs and there is still time for it, the client was sent the answer
to its offer and the code for the error, if that is one that dials have, and was closed; and no callback and no
relay was called for it. -/
theorem failed_dial_told (w : Surroundings) (config : ServerConfig) (before during after : List Service.Step)
    (a : Arrival) (r : Request) (host : String) (kind : FaultKind) (args : List Value)
    (ha : ((Service.fresh config).runAll w before).server.Admits a) (hr : a.readFault = none)
    (hw : a.writeFault = none) :
    let id := ((Service.fresh config).runAll w before).server.clients.length
    let steps := before ++ .client (.connect a) :: during ++ after
    let s := ((Service.fresh config).runAll w steps).server
    let f := Fault.make kind args
    (∀ i ∈ inputsOf id during, ∃ bs, i = .bytes bs) → (a.ended = true → inputsOf id during = []) →
    ((Service.fresh config).runAll w before).InTime w config.handshakeTimeout (.client (.connect a) :: during) →
    (∀ x, .writeFault x ∉ inputsOf id after) →
    Doomed w config (a.sentWith (inputsOf id during)) r host f →
      ∃ h, s.clients[id]? = some (.handled h) ∧
        h.Fails w config host r.port f (HasTime w config steps id) (s.historyOf id) ∧
        (ledger (s.historyOf id)).callbacks = [] ∧ (ledger (s.historyOf id)).relays = [] ∧
        f.MadeOf kind args := by
  intro id steps s f hbytes hlast hintime hafter hd
  obtain ⟨hroom, info, hi⟩ := ha
  have hall : a.ended = true → a.sent = a.sentWith (inputsOf id during) := by
    intro he
    rw [Arrival.sentWith, hlast he]
    exact (List.append_nil _).symm
  have hsustained := hd.sustained ((Service.fresh config).runAll w before).server.now hr hw hall hintime.isSpent
  have hclock : ∀ first, first <+: during → ∀ span, config.handshakeTimeout = some span →
      ((((Service.fresh config).runAll w before).step w (.client (.connect a))).runAll w first).server.now <
        ((Service.fresh config).runAll w before).server.now + span :=
    fun first hf span hspan =>
      hintime span hspan (.client (.connect a) :: first) (List.cons_prefix_cons.2 ⟨rfl, hf⟩)
  have hsent := hsustained.standing_runAll hbytes hclock
    (hsustained.standing_connect before ⟨rfl, rfl⟩ hroom hi)
  -- When all has come, the request has been read, so what is left is that its dial fails.
  have hfails := hsent.imp (J := fun _ t h => h.Failing w config host r.port f t) fun t h hsettled hupheld => by
    rcases hupheld [] (List.append_nil _) with hg | hf
    · obtain ⟨s₀, hreturns, -, -⟩ := hd.returned
      exact absurd hreturns (hg.not_settled hsettled _ _)
    · exact hf
  have hwrites : ∀ i ∈ inputsOf id after, ∀ x, i ≠ .writeFault x := by
    rintro _ hmem x rfl
    exact hafter x hmem
  have hends := (sustained_fails w config host r.port f).standing_runAll hwrites (fun _ _ => trivial) hfails
  have hruns : (Service.fresh config).runAll w steps =
      ((((Service.fresh config).runAll w before).step w (.client (.connect a))).runAll w during).runAll w after := by
    dsimp only [steps]
    rw [Service.runAll_append, Service.runAll_append]
    rfl
  have hs : s = _ := congrArg Service.server hruns
  obtain ⟨-, h, hc, -, hnumbered⟩ := hends.holds
  rw [← hs] at hc hnumbered
  have hdone := hnumbered.of_unnumbered
  have hlawful := lawful_runAll w config steps id
  have hopened := hd.fails.not_opened hdone.dials
  exact ⟨h, hc, hdone.imp fun _ => hasTime_of_dialling hc, hlawful.callbacks hopened, hlawful.authorised.unopened hopened,
    Fault.madeOf_make kind args⟩

/-- The network refuses every connection. -/
def refusing : Surroundings where
  network := fun _ _ => .refuses (.make .os [.int 111, .text "Connection refused"])

/-- The rest of a request for port 80 of the host 10.0.0.1, in two pieces that are ten seconds apart. -/
def refusedPieces : List Service.Step :=
  [.client (.receive 1 (.bytes [5, 1, 0, 1])), .client (.advance 10),
    .client (.receive 1 (.bytes [10, 0, 0, 1, 0, 80]))]

/-- Somebody came before the client, which is told that its connection was refused. -/
theorem failed_dial_told_refused :
    let s := ((Service.fresh {}).runAll refusing ([.client (.connect guest)] ++
      .client (.connect { sent := [5, 1, 0] }) :: refusedPieces ++ [.client (.receive 1 .finish)])).server
    ∃ h, s.clients[1]? = some (.handled h) ∧ h.client.closed = true ∧
      h.client.written = [5, 0] ++ ReplyCode.connectionRefused.encode := by
  intro s
  have hasks : Asks [5, 1, 0, 5, 1, 0, 1, 10, 0, 0, 1, 0, 80]
      ⟨some .connect, some (.address (.v4 (.ofBytes [10, 0, 0, 1]))), 80⟩ [] :=
    ⟨_, _, ⟨[0], by decide, by decide, rfl⟩, .mk 80 (@Target.Spelled.ipv4 [10, 0, 0, 1] rfl), rfl⟩
  have hdoomed : Doomed refusing {} [5, 1, 0, 5, 1, 0, 1, 10, 0, 0, 1, 0, 80]
      ⟨some .connect, some (.address (.v4 (.ofBytes [10, 0, 0, 1]))), 80⟩ "10.0.0.1"
      (.make .os [.int 111, .text "Connection refused"]) :=
    ⟨⟨[], hasks⟩, ⟨.connect, rfl, by decide⟩, rfl, .refused (by decide) rfl⟩
  have hbytes : ∀ i ∈ inputsOf 1 refusedPieces, ∃ bs, i = .bytes bs := by
    intro i hi
    rcases List.mem_pair.1 hi with rfl | rfl <;> exact ⟨_, rfl⟩
  have hintime : ((Service.fresh {}).runAll refusing [.client (.connect guest)]).InTime refusing (some 30)
      (.client (.connect { sent := [5, 1, 0] }) :: refusedPieces) := by
    rintro span ⟨⟩ first hf
    have hall : ∀ first ∈ (.client (.connect { sent := [5, 1, 0] }) :: refusedPieces).inits,
        (((Service.fresh {}).runAll refusing [.client (.connect guest)]).runAll refusing first).server.now <
          ((Service.fresh {}).runAll refusing [.client (.connect guest)]).server.now + 30 := by
      decide +kernel
    exact hall first ((List.mem_inits _ _).2 hf)
  obtain ⟨h, hc, hfails, -⟩ := failed_dial_told refusing {} [.client (.connect guest)] refusedPieces
    [.client (.receive 1 .finish)] { sent := [5, 1, 0] } _ "10.0.0.1" .os [.int 111, .text "Connection refused"]
    ⟨by decide +kernel, _, rfl⟩ rfl rfl hbytes nofun hintime (fun x hx => nomatch List.mem_singleton.1 hx) hdoomed
  refine ⟨h, hc, ?_⟩
  cases hfails with
  | awaits hn => cases hn
  | told ht =>
    obtain ⟨bs, hbs, hw⟩ := ht.written
    refine ⟨ht.closed, ?_⟩
    cases hbs with
    | code _ hcode => rw [hw, Fault.callsFor_iff.1 hcode]; rfl
    | nothing hsystem => cases hsystem

end Socks5
