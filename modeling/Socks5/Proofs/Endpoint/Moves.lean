import Mathlib.Logic.Relation
import Socks5.Proofs.Wire.Course
import Socks5.Proofs.Wire.Reading
import Socks5.Endpoint.Usage

/-!
What becomes of an endpoint while it is used. Every call is a chain of three operations, each started or
gone on with in its own phase (`Session.Operates`): an offer is taken, a request is read, a reply is sent.
One such operation takes the endpoint at most one phase on (`Operates.next`). A call that is not admitted
raises a sequence error and does nothing at all (`Call.run_refused`), and no other call raises one
(`Call.run_proceeds`, `Call.resume_proceeds`).
-/
namespace Socks5

variable {χ α β : Type}

/-! ## Failures from outside -/

/-- A call is broken off by the other side or by the channel. The other failures tell that a name cannot be
read, or that a call is out of order. -/
def Failure.BreaksOff : Failure → Prop
  | version _ | channel _ | fault _ => True
  | hostName _ | sequence _ => False

/-- What fails in a channel breaks a call off. -/
structure Channel.Outward (χ : Type) [Duplex χ] : Prop where
  read : ∀ {n} {c c' : χ} {e}, Duplex.readExact n c = (.failed e, c') → e.BreaksOff
  write : ∀ {bs} {c c' : χ} {e}, Duplex.writeAll bs c = (.error e, c') → e.BreaksOff

namespace Channel

theorem Memory.outward : Outward Memory where
  read h := by
    obtain ⟨x, rfl⟩ := Memory.failed_readExact (congrArg Prod.fst h)
    trivial
  write h := by
    obtain ⟨x, rfl⟩ := Memory.error_writeAll (congrArg Prod.fst h)
    trivial

theorem Stream.outward : Outward Stream where
  read {n c c' e} h := by
    change c.readExact n = _ at h
    unfold readExact readFailure at h
    repeat' split at h
    all_goals cases h
    all_goals trivial
  write {bs c c' e} h := by
    change c.writeAll bs = _ at h
    unfold writeAll writeFailure at h
    dsimp only at h
    repeat' split at h
    all_goals cases h
    all_goals trivial

end Channel

/-! ## Steps of an endpoint -/

/-- How an endpoint may be changed by one operation. -/
inductive Endpoint.Next (e : Endpoint) : Endpoint → Prop
  | still : Next e e
  | selected (accepted : Bool) (hp : e.phase = .new) :
      Next e { e with authAccepted := accepted, phase := .authDone }
  | rejected (r : Option ReplyCode) (hp : e.phase = .authDone) (ha : e.authAccepted = true) :
      Next e { e with rejection := r }
  | stored (q : Request) (r : Option ReplyCode) (hp : e.phase = .authDone) (ha : e.authAccepted = true) :
      Next e { e with request := some q, rejection := r, phase := .requestDone }
  | replied (hp : e.phase = .requestDone) : Next e { e with phase := .replied }

/-- The stage belongs to what an endpoint in this state reads. -/
def Stage.Fits (e : Endpoint) : Stage → Prop
  | offer _ => e.phase = .new
  | request _ => e.phase = .authDone ∧ e.authAccepted = true

/-- What an offer is answered with. -/
def offerAnswer (accepted : Bool) : Bytes :=
  if accepted then AuthMethod.noAuth.encode else AuthMethod.noAcceptable.encode

def Move.written? : Move → Option Bytes
  | wrote bs _ => some bs
  | took _ | noted _ => none

namespace Session

/-- The messages that were handed to the channel, whether they went through or not. -/
def writes (s : Session χ) : List Bytes := s.trace.filterMap Move.written?

@[simp] theorem writes_move (ms : List Move) (c : χ) (s : Session χ) :
    (s.move ms c).writes = s.writes ++ ms.filterMap Move.written? := List.filterMap_append

/-! ## What one operation comes to -/

/-- The state of the endpoint, and the messages so far. -/
def At (e : Endpoint) (w : List Bytes) (s : Session χ) : Prop := s.endpoint = e ∧ s.writes = w

/-- The endpoint has chosen, and has handed its answer over. -/
def Chosen (e : Endpoint) (w : List Bytes) (b : Bool) (s : Session χ) : Prop :=
  s.At { e with authAccepted := b, phase := .authDone } (w ++ [offerAnswer b])

/-- The offer is read to its end, and then the endpoint has chosen. -/
def Offered (e : Endpoint) (w : List Bytes) : Progress χ Bool → Prop
  | .waiting stage s => (∃ st, stage = .offer st) ∧ s.At e w
  | .raised x s => x.BreaksOff ∧ (s.At e w ∨ ∃ b, Chosen e w b s)
  | .returned b s => Chosen e w b s

/-- Some of the request was read. -/
def Underway (e : Endpoint) (w : List Bytes) (s : Session χ) : Prop := ∃ r, s.At { e with rejection := r } w

/-- The request was read, and stored. -/
def Stored (e : Endpoint) (w : List Bytes) (s : Session χ) : Prop :=
  ∃ q r, s.At { e with request := some q, rejection := r, phase := .requestDone } w

/-- The request is read to its end, or to a name that cannot be read, and stored only then. -/
def Requested (e : Endpoint) (w : List Bytes) : Progress χ Bool → Prop
  | .waiting stage s => (∃ st, stage = .request st) ∧ Underway e w s
  | .raised x s => x.BreaksOff ∧ Underway e w s ∨ (∃ raw, x = .hostName raw) ∧ Stored e w s
  | .returned _ s => Stored e w s

variable {e : Endpoint} {w : List Bytes} {s s' : Session χ}

theorem At.move (hs : s.At e w) {ms : List Move} (hm : ms.filterMap Move.written? = []) (c : χ) :
    (s.move ms c).At e w := ⟨hs.1, by rw [writes_move, hm, List.append_nil, hs.2]⟩

theorem Underway.move (hs : Underway e w s) {ms : List Move} (hm : ms.filterMap Move.written? = []) (c : χ) :
    Underway e w (s.move ms c) := hs.imp fun _ h => h.move hm c

theorem Stored.move (hs : Stored e w s) {ms : List Move} (hm : ms.filterMap Move.written? = []) (c : χ) :
    Stored e w (s.move ms c) := hs.imp fun _ h => h.imp fun _ h => h.move hm c

theorem underway_self (s : Session χ) : Underway s.endpoint s.writes s := ⟨s.endpoint.rejection, rfl, rfl⟩

theorem Underway.reject (hs : Underway e w s) (r : ReplyCode) : Underway e w (s.reject r) := by
  obtain ⟨r', he, hw⟩ := hs
  exact ⟨some r, by rw [endpoint_reject, he], hw⟩

theorem Underway.checkHead (hs : Underway e w s) (h : Head) : Underway e w (s.checkHead h) := by
  have hc : Underway e w (s.checkCommand h) := by
    unfold checkCommand
    split
    · exact hs
    · exact (hs.move rfl _).reject _
  unfold Session.checkHead checkReserved
  split
  · exact hc
  · dsimp only
    split
    · exact (hc.move rfl _).reject _
    · exact hc.move rfl _

theorem Underway.store (hs : Underway e w s) (q : Request) : Stored e w (s.storeRequest q) := by
  obtain ⟨r, he, hw⟩ := hs
  exact ⟨q, r, by rw [storeRequest, he], hw⟩

/-- What becomes of the endpoint by an operation, and what is handed to the channel meanwhile. -/
inductive Goes (s s' : Session χ) : Prop
  | still (h : s'.At s.endpoint s.writes)
  | chosen (b : Bool) (hp : s.endpoint.phase = .new) (h : Chosen s.endpoint s.writes b s')
  | underway (hp : s.endpoint.phase = .authDone) (ha : s.endpoint.authAccepted = true)
      (h : Underway s.endpoint s.writes s')
  | stored (hp : s.endpoint.phase = .authDone) (ha : s.endpoint.authAccepted = true)
      (h : Stored s.endpoint s.writes s')
  | unsent (r : ReplyCode) (hp : s.endpoint.phase = .requestDone)
      (h : s'.At s.endpoint (s.writes ++ [r.encode]))
  | replied (r : ReplyCode) (hp : s.endpoint.phase = .requestDone)
      (h : s'.At { s.endpoint with phase := .replied } (s.writes ++ [r.encode]))

theorem Goes.next (h : s.Goes s') : s.endpoint.Next s'.endpoint := by
  cases h with
  | still h => exact h.1 ▸ .still
  | chosen b hp h => exact h.1 ▸ .selected b hp
  | underway hp ha h =>
    obtain ⟨r, he, -⟩ := h
    exact he ▸ .rejected r hp ha
  | stored hp ha h =>
    obtain ⟨q, r, he, -⟩ := h
    exact he ▸ .stored q r hp ha
  | unsent r hp h => exact h.1 ▸ .still
  | replied r hp h => exact h.1 ▸ .replied hp

theorem inPhase_refused {op : Operation} {run : Session χ → Progress χ α} (hp : s.endpoint.phase ≠ op.phase) :
    s.inPhase op run = .raised (.sequence (.wrongPhase op s.endpoint.phase)) s := if_neg hp

variable [Duplex χ]

section

variable (hχ : Channel.Outward χ)

include hχ

theorem offered_read (hs : s.At e w) {st : OfferStage} {next : Bytes → Session χ → Progress χ Bool}
    (goes : ∀ bs s', s'.At e w → Offered e w (next bs s')) : Offered e w (s.read (.offer st) next) :=
  read_elim (fun c _ => ⟨⟨st, rfl⟩, hs.move rfl c⟩) (fun _ c h => ⟨hχ.read h, .inl (hs.move rfl c)⟩)
    fun bs c _ => goes bs _ (hs.move rfl c)

/-- The choice is made before it is told, so it stands even if that fails. -/
theorem offered_write {b : Bool} (hs : s.At { e with authAccepted := b, phase := .authDone } w) :
    Offered e w ((s.write (offerAnswer b)).andThen fun _ s => .returned b s) := by
  refine write_elim (P := fun p => Offered e w (p.andThen _)) (fun x c h => ?_) fun c _ => ?_
  · exact ⟨hχ.write h, .inr ⟨b, hs.1, by rw [writes_move, hs.2]; rfl⟩⟩
  · exact ⟨hs.1, by rw [writes_move, hs.2]; rfl⟩

theorem offered_select (hs : s.At e w) (methods : Bytes) : Offered e w (select methods s) := by
  have hs' : At { e with authAccepted := methods.contains AuthMethod.noAuth.code, phase := .authDone } w
      { s with endpoint := { s.endpoint with
        authAccepted := methods.contains AuthMethod.noAuth.code, phase := .authDone } } :=
    ⟨by rw [hs.1], hs.2⟩
  unfold select
  dsimp only
  cases hb : methods.contains AuthMethod.noAuth.code with
  | true =>
    rw [hb] at hs'
    exact offered_write hχ hs'
  | false =>
    rw [hb] at hs'
    exact offered_write hχ (hs'.move rfl _)

theorem offered_readMethods (hs : s.At e w) (n : Nat) : Offered e w (readMethods n s) :=
  offered_read hχ hs fun bs _ hs => offered_select hχ hs bs

theorem offered_readCount (hs : s.At e w) : Offered e w (readCount s) :=
  offered_read hχ hs fun _ _ hs => offered_readMethods hχ hs _

theorem offered_readOffer (hs : s.At e w) : Offered e w (readOffer s) := by
  unfold readOffer readVersion
  refine offered_read hχ hs fun bs s' hs => ?_
  dsimp only
  split
  · exact offered_readCount hχ hs
  · exact ⟨trivial, .inl (hs.move rfl _)⟩

theorem offered_resumeOffer (st : OfferStage) (s : Session χ) :
    Offered s.endpoint s.writes (resumeOffer st s) := by
  have hs : s.At s.endpoint s.writes := ⟨rfl, rfl⟩
  cases st with
  | version => exact offered_readOffer hχ hs
  | count => exact offered_readCount hχ hs
  | methods n => exact offered_readMethods hχ hs n

theorem requested_read (hs : Underway e w s) {st : RequestStage} {next : Bytes → Session χ → Progress χ Bool}
    (goes : ∀ bs s', Underway e w s' → Requested e w (next bs s')) :
    Requested e w (s.read (.request st) next) :=
  read_elim (fun c _ => ⟨⟨st, rfl⟩, hs.move rfl c⟩) (fun _ c h => .inl ⟨hχ.read h, hs.move rfl c⟩)
    fun bs c _ => goes bs _ (hs.move rfl c)

section

variable (h : Head)

theorem requested_readPort (hs : Underway e w s) (target : Target) : Requested e w (readPort h target s) :=
  requested_read hχ hs fun _ _ hs => (hs.store _).move rfl _

theorem requested_readIPv4 (hs : Underway e w s) : Requested e w (readIPv4 h s) :=
  requested_read hχ hs fun _ _ hs => requested_readPort hχ h hs _

theorem requested_readIPv6 (hs : Underway e w s) : Requested e w (readIPv6 h s) :=
  requested_read hχ hs fun _ _ hs => requested_readPort hχ h hs _

theorem requested_readName (hs : Underway e w s) (length : Nat) : Requested e w (readName h length s) := by
  refine requested_read hχ hs fun bs s' hs => ?_
  split
  · exact requested_readPort hχ h hs _
  · exact .inr ⟨⟨bs, rfl⟩, ((hs.move rfl _).reject _).store _⟩

theorem requested_readNameLength (hs : Underway e w s) : Requested e w (readNameLength h s) :=
  requested_read hχ hs fun _ _ hs => requested_readName hχ h hs _

theorem requested_readTarget (hs : Underway e w s) (kind : UInt8) : Requested e w (readTarget h kind s) := by
  unfold readTarget
  split
  · exact requested_readIPv4 hχ h hs
  · exact requested_readNameLength hχ h hs
  · exact requested_readIPv6 hχ h hs
  · exact ((hs.move rfl _).reject _).store _

end

theorem requested_readHead (hs : Underway e w s) : Requested e w (readHead s) :=
  requested_read hχ hs fun _ _ hs => requested_readTarget hχ _ (hs.checkHead _) _

theorem requested_readBody (hs : Underway e w s) : Requested e w (readBody s) := by
  unfold readBody readVersion
  refine requested_read hχ hs fun bs s' hs => ?_
  dsimp only
  split
  · exact requested_readHead hχ hs
  · exact .inl ⟨trivial, hs.move rfl _⟩

theorem requested_resumeRequest (st : RequestStage) (s : Session χ) :
    Requested s.endpoint s.writes (resumeRequest st s) := by
  have hs := underway_self s
  cases st with
  | version => exact requested_readBody hχ hs
  | head => exact requested_readHead hχ hs
  | ipv4 h => exact requested_readIPv4 hχ h hs
  | nameLength h => exact requested_readNameLength hχ h hs
  | name h n => exact requested_readName hχ h hs n
  | ipv6 h => exact requested_readIPv6 hχ h hs
  | port h target => exact requested_readPort hχ h hs target

end

/-- A reply goes out, or the endpoint is as it was. -/
theorem sendReply_cases (hχ : Channel.Outward χ) (r : ReplyCode) (hp : s.endpoint.phase = .requestDone) :
    (∃ x c, x.BreaksOff ∧ s.sendReply r = .raised x (s.move [.wrote r.encode (some x)] c)) ∨
      ∃ c, s.sendReply r = .returned ()
        { s.move [.wrote r.encode none] c with endpoint := { s.endpoint with phase := .replied } } := by
  have hp' : s.endpoint.phase = Operation.sendReply.phase := hp
  unfold sendReply inPhase
  rw [if_pos hp']
  rcases ha : Duplex.writeAll r.encode s.channel with ⟨o, c⟩
  simp only [write, ha]
  cases o with
  | error x => exact .inl ⟨x, c, hχ.write ha, rfl⟩
  | ok => exact .inr ⟨c, rfl⟩

/-! ## Operations -/

/-- An operation is started or gone on with, and goes as far as the channel allows. Or the channel changes
by itself. -/
inductive Operates : Session χ → Session χ → Prop
  | offer {s : Session χ} (st : OfferStage) (hp : s.endpoint.phase = .new) :
      Operates s (resumeOffer st s).session
  | request {s : Session χ} (st : RequestStage) (hp : s.endpoint.phase = .authDone)
      (ha : s.endpoint.authAccepted = true) : Operates s (resumeRequest st s).session
  | reply {s : Session χ} (r : ReplyCode) (hp : s.endpoint.phase = .requestDone) :
      Operates s (sendReply r s).session
  | changes {s : Session χ} (c : χ) : Operates s { s with channel := c }

theorem Operates.goes (hχ : Channel.Outward χ) (h : Operates s s') : s.Goes s' := by
  cases h with
  | offer st hp =>
    have ho := offered_resumeOffer hχ st s
    cases hr : resumeOffer st s <;> rw [hr] at ho
    case waiting stage s' => exact .still ho.2
    case raised x s' =>
      rcases ho.2 with h | ⟨b, h⟩
      · exact .still h
      · exact .chosen b hp h
    case returned b s' => exact .chosen b hp ho
  | request st hp ha =>
    have hq := requested_resumeRequest hχ st s
    cases hr : resumeRequest st s <;> rw [hr] at hq
    case waiting stage s' => exact .underway hp ha hq.2
    case raised x s' =>
      rcases hq with ⟨-, h⟩ | ⟨-, h⟩
      · exact .underway hp ha h
      · exact .stored hp ha h
    case returned b s' => exact .stored hp ha hq
  | reply r hp =>
    rcases sendReply_cases hχ r hp with ⟨x, c, -, h⟩ | ⟨c, h⟩
    · rw [h]
      exact .unsent r hp ⟨rfl, writes_move _ _ _⟩
    · rw [h]
      exact .replied r hp ⟨rfl, writes_move [.wrote r.encode none] c s⟩
  | changes c => exact .still ⟨rfl, rfl⟩

/-- How a call that is admitted stands: it waits where it may, or it has ended without an error of order;
and if it was broken off then no reply has gone out. -/
def Sound : Progress χ α → Prop
  | .waiting stage s => stage.Fits s.endpoint
  | .raised x s => x.BreaksOff ∧ s.endpoint.phase ≠ .replied ∨ ∃ raw, x = .hostName raw
  | .returned _ _ => True

/-- Some operations, one after another. -/
abbrev Chain : Session χ → Session χ → Prop := Relation.ReflTransGen Operates

/-- From `s` on, operations have led to `p`. -/
structure Proceeds (s : Session χ) (p : Progress χ α) : Prop where
  chain : Chain s p.session
  sound : Sound p

namespace Proceeds

theorem returned (a : α) (s : Session χ) : Proceeds s (.returned a s) := ⟨.refl, trivial⟩

theorem trans {p : Progress χ α} (hc : Chain s s') (hp : Proceeds s' p) :
    Proceeds s p := ⟨hc.trans hp.chain, hp.sound⟩

theorem andThen {p : Progress χ α} {next : α → Session χ → Progress χ β} (hp : Proceeds s p)
    (goes : ∀ a s', p = .returned a s' → Proceeds s' (next a s')) : Proceeds s (p.andThen next) := by
  cases p with
  | waiting stage s' => exact ⟨hp.chain, hp.sound⟩
  | raised x s' => exact ⟨hp.chain, hp.sound⟩
  | returned a s' => exact trans hp.chain (goes a s' rfl)

theorem answer {p : Progress χ α} (hp : Proceeds s p) (f : α → Answer) : Proceeds s (p.answer f) :=
  hp.andThen fun _ s' _ => returned _ s'

end Proceeds

section

variable (hχ : Channel.Outward χ)

include hχ

theorem proceeds_resumeOffer (st : OfferStage) (hp : s.endpoint.phase = .new) :
    Proceeds s (resumeOffer st s) := by
  refine ⟨.single (.offer st hp), ?_⟩
  have ho := offered_resumeOffer hχ st s
  revert ho
  cases resumeOffer st s with
  | waiting stage s' =>
    rintro ⟨⟨st, rfl⟩, he, -⟩
    exact (congrArg Endpoint.phase he).trans hp
  | raised x s' =>
    rintro ⟨hx, ⟨he, -⟩ | ⟨b, he, -⟩⟩
    · exact .inl ⟨hx, fun h => nomatch (hp.symm.trans (congrArg Endpoint.phase he).symm).trans h⟩
    · exact .inl ⟨hx, fun h => nomatch (congrArg Endpoint.phase he).symm.trans h⟩
  | returned b s' => exact fun _ => trivial

theorem proceeds_resumeRequest (st : RequestStage) (hp : s.endpoint.phase = .authDone)
    (ha : s.endpoint.authAccepted = true) : Proceeds s (resumeRequest st s) := by
  refine ⟨.single (.request st hp ha), ?_⟩
  have hr := requested_resumeRequest hχ st s
  revert hr
  cases resumeRequest st s with
  | waiting stage s' =>
    rintro ⟨⟨st, rfl⟩, r, he, -⟩
    exact ⟨(congrArg Endpoint.phase he).trans hp, (congrArg Endpoint.authAccepted he).trans ha⟩
  | raised x s' =>
    rintro (⟨hx, r, he, -⟩ | ⟨hx, -⟩)
    · refine .inl ⟨hx, ?_⟩
      rw [he]
      change s.endpoint.phase ≠ _
      rw [hp]
      decide
    · exact .inr hx
  | returned b s' => exact fun _ => trivial

theorem proceeds_sendReply (r : ReplyCode) (hp : s.endpoint.phase = .requestDone) :
    Proceeds s (s.sendReply r) := by
  refine ⟨.single (.reply r hp), ?_⟩
  rcases sendReply_cases hχ r hp with ⟨x, c, hx, h⟩ | ⟨c, h⟩
  · rw [h]
    refine .inl ⟨hx, ?_⟩
    change s.endpoint.phase ≠ _
    rw [hp]
    decide
  · rw [h]
    trivial

/-- An answer goes out only when the request was stored. -/
theorem proceeds_answerInvalid (st : RequestStage) (hp : s.endpoint.phase = .authDone)
    (ha : s.endpoint.authAccepted = true) : Proceeds s (answerInvalid (resumeRequest st s)) := by
  have hs := proceeds_resumeRequest hχ st hp ha
  have hr := requested_resumeRequest hχ st s
  revert hs hr
  cases resumeRequest st s with
  | waiting stage s' => exact fun hs _ => ⟨hs.chain, hs.sound⟩
  | raised x s' =>
    intro hs hr
    cases x with
    | hostName raw =>
      obtain ⟨q, r, he, -⟩ : Stored s.endpoint s.writes s' := by simpa [Requested, Failure.BreaksOff] using hr
      refine .trans hs.chain ((proceeds_sendReply hχ _ (congrArg Endpoint.phase he)).andThen ?_)
      exact fun _ s' _ => ⟨.refl, .inr ⟨raw, rfl⟩⟩
    | _ => exact ⟨hs.chain, hs.sound⟩
  | returned valid s' =>
    rintro hs ⟨q, r, he, -⟩
    cases valid with
    | true => exact ⟨hs.chain, trivial⟩
    | false =>
      refine .trans hs.chain ((proceeds_sendReply hχ _ (congrArg Endpoint.phase he)).andThen ?_)
      exact fun _ s' _ => .returned _ s'

theorem proceeds_afterOffer (st : OfferStage) (hp : s.endpoint.phase = .new) :
    Proceeds s (afterOffer (resumeOffer st s)) := by
  refine (proceeds_resumeOffer hχ st hp).andThen fun accepted s' h => ?_
  have ho := offered_resumeOffer hχ st s
  rw [h] at ho
  cases accepted with
  | false => exact .returned _ s'
  | true =>
    have hp' : s'.endpoint.phase = Operation.readRequest.phase := congrArg Endpoint.phase ho.1
    have ha : s'.endpoint.authAccepted = true := congrArg Endpoint.authAccepted ho.1
    rw [if_pos rfl, readRequest, inPhase, if_pos hp', if_pos ha]
    exact proceeds_answerInvalid hχ .version hp' ha

end

end Session

/-! ## Calls -/

/-- The calls that an endpoint in this state admits. -/
def Call.Admitted (e : Endpoint) : Call → Prop
  | acceptAuthentication | handshake => e.phase = .new
  | readRequest => e.phase = .authDone ∧ e.authAccepted = true
  | sendReply _ => e.phase = .requestDone
  | suggestedReply => True

namespace Call

open Session (Proceeds inPhase_refused)

variable [Duplex χ] {c : Call} {s : Session χ}

/-- A call out of order does nothing. -/
theorem run_refused (h : ¬ c.Admitted s.endpoint) : ∃ x, c.run s = .raised (.sequence x) s := by
  cases c with
  | acceptAuthentication =>
    have hp : s.endpoint.phase ≠ Operation.acceptAuthentication.phase := h
    exact ⟨_, by rw [run, Session.acceptAuthentication, inPhase_refused hp]; rfl⟩
  | readRequest =>
    by_cases hp : s.endpoint.phase = Operation.readRequest.phase
    · have ha : ¬ s.endpoint.authAccepted = true := fun ha => h ⟨hp, ha⟩
      exact ⟨.refused, by rw [run, Session.readRequest, Session.inPhase, if_pos hp, if_neg ha]; rfl⟩
    · exact ⟨_, by rw [run, Session.readRequest, inPhase_refused hp]; rfl⟩
  | handshake =>
    have hp : s.endpoint.phase ≠ Operation.acceptAuthentication.phase := h
    exact ⟨_, by rw [run, Session.handshake, Session.acceptAuthentication, inPhase_refused hp]; rfl⟩
  | sendReply r =>
    have hp : s.endpoint.phase ≠ Operation.sendReply.phase := h
    exact ⟨_, by rw [run, Session.sendReply, inPhase_refused hp]; rfl⟩
  | suggestedReply => exact absurd trivial h

section

variable (hχ : Channel.Outward χ)

include hχ

theorem run_proceeds (h : c.Admitted s.endpoint) : Proceeds s (c.run s) := by
  cases c with
  | acceptAuthentication =>
    have hp : s.endpoint.phase = Operation.acceptAuthentication.phase := h
    rw [run, Session.acceptAuthentication, Session.inPhase, if_pos hp]
    exact (Session.proceeds_resumeOffer hχ .version hp).answer _
  | readRequest =>
    have hp : s.endpoint.phase = Operation.readRequest.phase := h.1
    rw [run, Session.readRequest, Session.inPhase, if_pos hp, if_pos h.2]
    exact (Session.proceeds_resumeRequest hχ .version hp h.2).answer _
  | handshake =>
    have hp : s.endpoint.phase = Operation.acceptAuthentication.phase := h
    rw [run, Session.handshake, Session.acceptAuthentication, Session.inPhase, if_pos hp]
    exact (Session.proceeds_afterOffer hχ .version hp).answer _
  | sendReply r => exact (Session.proceeds_sendReply hχ r h).answer _
  | suggestedReply => exact .returned _ s

/-- A call that goes on is not out of order. -/
theorem resume_proceeds {stage : Stage} (h : stage.Fits s.endpoint) : Proceeds s (c.resume stage s) := by
  have waits : Proceeds s (.waiting stage s : Progress χ Answer) := ⟨.refl, h⟩
  cases stage with
  | offer st =>
    cases c with
    | acceptAuthentication => exact (Session.proceeds_resumeOffer hχ st h).answer _
    | handshake => exact (Session.proceeds_afterOffer hχ st h).answer _
    | _ => exact waits
  | request st =>
    cases c with
    | readRequest => exact (Session.proceeds_resumeRequest hχ st h.1 h.2).answer _
    | handshake => exact (Session.proceeds_answerInvalid hχ st h.1 h.2).answer _
    | _ => exact waits

/-- An error of order is raised by the calls that are not admitted, and by no other. -/
theorem raised_sequence_iff {x : SequenceError} {s' : Session χ} (h : c.run s = .raised (.sequence x) s') :
    ¬ c.Admitted s.endpoint ∧ s' = s := by
  by_cases ha : c.Admitted s.endpoint
  · have hs := (run_proceeds hχ ha).sound
    rw [h] at hs
    simp [Session.Sound, Failure.BreaksOff] at hs
  · obtain ⟨y, hy⟩ := run_refused ha
    rw [hy, Progress.raised.injEq] at h
    exact ⟨ha, h.2.symm⟩

end

end Call
end Socks5
