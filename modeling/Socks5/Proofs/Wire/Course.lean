import Mathlib.Data.List.Basic
import Socks5.Endpoint.Handshake

/-!
How a call of an endpoint goes, whatever its channel does: it reads what a stage needs and goes on, or it
writes and goes on, or it ends (`Session.Course`). Each call is of this kind (`course_readRequest`,
`course_acceptAuthentication`), and so are the handshake and its later parts (`course_handshake`,
`course_resumeHandshake`). What holds of every call then follows by induction: it leaves alone what reads
and writes leave alone (`Course.keeps`), it stops only where the channel makes it wait (`Course.waits`), and
over a captured input it comes to an end (`Course.ends`).
-/
namespace Socks5

/-! ## Failures of channels -/

namespace Channel

theorem Memory.failed_readExact {n : Nat} {c : Memory} {e : Failure}
    (h : (Duplex.readExact n c).1 = .failed e) : ∃ x, e = .channel x := by
  change (c.readExact n).1 = _ at h
  unfold readExact at h
  repeat' split at h
  all_goals cases h
  all_goals exact ⟨_, rfl⟩

theorem Memory.error_writeAll {bs : Bytes} {c : Memory} {e : Failure}
    (h : (Duplex.writeAll bs c).1 = .error e) : ∃ x, e = .channel x := by
  change (c.writeAll bs).1 = _ at h
  unfold writeAll at h
  split at h
  all_goals cases h
  exact ⟨_, rfl⟩

/-- A channel does not fail with a host name that cannot be read, which alone is answered. -/
structure Plain (χ : Type) [Duplex χ] : Prop where
  read : ∀ n (c : χ) raw, (Duplex.readExact n c).1 ≠ .failed (.hostName raw)
  write : ∀ bs (c : χ) raw, (Duplex.writeAll bs c).1 ≠ .error (.hostName raw)

theorem Memory.plain : Plain Memory where
  read n c raw h := by
    obtain ⟨x, hx⟩ := failed_readExact h
    cases hx
  write bs c raw h := by
    obtain ⟨x, hx⟩ := error_writeAll h
    cases hx

theorem Stream.plain : Plain Stream where
  read n c raw h := by
    change (c.readExact n).1 = _ at h
    unfold readExact readFailure at h
    repeat' split at h
    all_goals cases h
  write bs c raw h := by
    change (c.writeAll bs).1 = _ at h
    unfold writeAll writeFailure at h
    dsimp only at h
    repeat' split at h
    all_goals cases h

end Channel

/-! ## Courses -/

/-- A call from `s` that comes to `p`. It may raise `E` or return `R` by itself; what the channel raises
comes on top of that. -/
inductive Session.Course {χ α : Type} [Duplex χ] (E : Failure → Session χ → Prop)
    (R : α → Session χ → Prop) : Session χ → Progress χ α → Prop
  | returned {s s' : Session χ} {a : α} (hc : s'.channel = s.channel) (hr : R a s') :
      Course E R s (.returned a s')
  | raised {s s' : Session χ} {e : Failure} (hc : s'.channel = s.channel) (he : E e s') :
      Course E R s (.raised e s')
  | read {s s₁ : Session χ} {stage : Stage} {next : Bytes → Session χ → Progress χ α}
      (hc : s₁.channel = s.channel)
      (goes : ∀ bs s', s'.endpoint = s₁.endpoint → Course E R s' (next bs s')) :
      Course E R s (s₁.read stage next)
  | write {s s₁ : Session χ} {bs : Bytes} {next : Unit → Session χ → Progress χ α}
      (hc : s₁.channel = s.channel)
      (goes : ∀ s', s'.endpoint = s₁.endpoint → Course E R s' (next () s')) :
      Course E R s ((s₁.write bs).andThen next)

namespace Session

theorem channel_checkHead {χ : Type} (h : Head) (s : Session χ) : (s.checkHead h).channel = s.channel := by
  have first : (s.checkCommand h).channel = s.channel := by
    unfold checkCommand
    split <;> rfl
  unfold checkHead checkReserved
  split
  · exact first
  · dsimp only
    split <;> exact first

variable {χ α β : Type} [Duplex χ] {E E' : Failure → Session χ → Prop} {R : α → Session χ → Prop}
  {R' : β → Session χ → Prop} {s s' : Session χ} {p : Progress χ α}

/-! ## Reads and writes -/

/-- What holds of a read in each of its outcomes. -/
theorem read_elim {P : Progress χ α → Prop} {stage : Stage} {next : Bytes → Session χ → Progress χ α}
    (waits : ∀ c, Duplex.readExact stage.need s.channel = (.waiting, c) → P (.waiting stage (s.move [] c)))
    (fails : ∀ e c, Duplex.readExact stage.need s.channel = (.failed e, c) → P (.raised e (s.move [] c)))
    (goes : ∀ bs c, Duplex.readExact stage.need s.channel = (.done bs, c) →
      P (next bs (s.move [.took bs] c))) : P (s.read stage next) := by
  rcases ha : Duplex.readExact stage.need s.channel with ⟨a, c⟩
  simp only [read, ha]
  cases a with
  | waiting => exact waits c ha
  | failed e => exact fails e c ha
  | done bs => exact goes bs c ha

/-- What holds of a write in each of its outcomes. -/
theorem write_elim {P : Progress χ Unit → Prop} {bs : Bytes}
    (fails : ∀ e c, Duplex.writeAll bs s.channel = (.error e, c) →
      P (.raised e (s.move [.wrote bs (some e)] c)))
    (goes : ∀ c, Duplex.writeAll bs s.channel = (.ok (), c) →
      P (.returned () (s.move [.wrote bs none] c))) : P (s.write bs) := by
  rcases ha : Duplex.writeAll bs s.channel with ⟨r, c⟩
  simp only [write, ha]
  cases r with
  | error e => exact fails e c ha
  | ok => exact goes c ha

/-! ## Stages -/

/-- A part of a handshake begins with the read that its stage waits for. -/
theorem resumeOffer_eq_read (st : OfferStage) (s : Session χ) :
    ∃ next, resumeOffer st s = s.read (.offer st) next := by
  cases st with
  | version => exact ⟨_, by rw [resumeOffer, readOffer, readVersion]⟩
  | count => exact ⟨_, rfl⟩
  | methods n => exact ⟨_, rfl⟩

theorem resumeRequest_eq_read (st : RequestStage) (s : Session χ) :
    ∃ next, resumeRequest st s = s.read (.request st) next := by
  cases st with
  | version => exact ⟨_, by rw [resumeRequest, readBody, readVersion]⟩
  | head => exact ⟨_, by rw [resumeRequest, readHead]⟩
  | name h n => exact ⟨_, by rw [resumeRequest, readName]⟩
  | port h t => exact ⟨_, by rw [resumeRequest, readPort]⟩
  | _ => exact ⟨_, rfl⟩

/-! ## Building calls -/

theorem Course.of_channel (h : Course E R s' p) (hc : s'.channel = s.channel) : Course E R s p := by
  cases h with
  | returned hc' hr => exact .returned (hc'.trans hc) hr
  | raised hc' he => exact .raised (hc'.trans hc) he
  | read hc' goes => exact .read (hc'.trans hc) goes
  | write hc' goes => exact .write (hc'.trans hc) goes

theorem read_andThen (stage : Stage) (next : Bytes → Session χ → Progress χ α)
    (f : α → Session χ → Progress χ β) (s : Session χ) :
    (s.read stage next).andThen f = s.read stage fun bs s => (next bs s).andThen f := by
  unfold read
  rcases Duplex.readExact stage.need s.channel with ⟨a, c⟩
  cases a <;> rfl

theorem Course.andThen {next : α → Session χ → Progress χ β} (h : Course E R s p)
    (raises : ∀ e s', E e s' → E' e s') (goes : ∀ a s', R a s' → Course E' R' s' (next a s')) :
    Course E' R' s (p.andThen next) := by
  induction h with
  | returned hc hr => exact (goes _ _ hr).of_channel hc
  | raised hc he => exact .raised hc (raises _ _ he)
  | read hc _ ih =>
    rw [read_andThen]
    exact .read hc ih
  | write hc _ ih =>
    rw [Progress.andThen_assoc]
    exact .write hc ih

theorem course_inPhase {op : Operation} {run : Session χ → Progress χ α}
    (hp : s.endpoint.phase = op.phase) (h : Course E R s (run s)) :
    Course E R s (s.inPhase op run) := by
  unfold inPhase
  rwa [if_pos hp]

/-! ## Requests -/

/-- What the reading of a request may raise by itself. -/
def RequestFails (e : Failure) (s : Session χ) : Prop :=
  (∃ v, e = .version v) ∨ ∃ raw, e = .hostName raw ∧ s.endpoint.phase = .requestDone

def RequestDone (_ : Bool) (s : Session χ) : Prop := s.endpoint.phase = .requestDone

section

variable (h : Head)

theorem course_readPort (target : Target) (s : Session χ) :
    Course RequestFails RequestDone s (readPort h target s) :=
  .read rfl fun _ _ _ => .returned rfl rfl

theorem course_readIPv4 (s : Session χ) : Course RequestFails RequestDone s (readIPv4 h s) :=
  .read rfl fun _ s' _ => course_readPort h _ s'

theorem course_readIPv6 (s : Session χ) : Course RequestFails RequestDone s (readIPv6 h s) :=
  .read rfl fun _ s' _ => course_readPort h _ s'

theorem course_readName (length : Nat) (s : Session χ) :
    Course RequestFails RequestDone s (readName h length s) := by
  refine .read rfl fun bs s' _ => ?_
  split
  · exact course_readPort h _ s'
  · exact .raised rfl (.inr ⟨bs, rfl, rfl⟩)

theorem course_readNameLength (s : Session χ) :
    Course RequestFails RequestDone s (readNameLength h s) :=
  .read rfl fun _ s' _ => course_readName h _ s'

theorem course_readTarget (kind : UInt8) (s : Session χ) :
    Course RequestFails RequestDone s (readTarget h kind s) := by
  unfold readTarget
  split
  · exact course_readIPv4 h s
  · exact course_readNameLength h s
  · exact course_readIPv6 h s
  · exact .returned rfl rfl

end

theorem course_readHead (s : Session χ) : Course RequestFails RequestDone s (readHead s) :=
  .read rfl fun _ s' _ => (course_readTarget _ _ _).of_channel (channel_checkHead _ s')

theorem course_readBody (s : Session χ) : Course RequestFails RequestDone s (readBody s) := by
  unfold readBody readVersion
  refine .read rfl fun bs s' _ => ?_
  dsimp only
  split
  · exact course_readHead s'
  · exact .raised rfl (.inl ⟨_, rfl⟩)

theorem course_resumeRequest (st : RequestStage) (s : Session χ) :
    Course RequestFails RequestDone s (resumeRequest st s) := by
  cases st with
  | version => exact course_readBody s
  | head => exact course_readHead s
  | ipv4 h => exact course_readIPv4 h s
  | nameLength h => exact course_readNameLength h s
  | name h n => exact course_readName h n s
  | ipv6 h => exact course_readIPv6 h s
  | port h t => exact course_readPort h t s

theorem course_readRequest (hp : s.endpoint.phase = .authDone) (ha : s.endpoint.authAccepted = true) :
    Course RequestFails RequestDone s s.readRequest := by
  refine course_inPhase hp ?_
  rw [if_pos ha]
  exact course_readBody s

/-! ## Offers -/

/-- What the reading of an offer may raise by itself. -/
def OfferFails (e : Failure) (_ : Session χ) : Prop := ∃ v, e = .version v

def OfferDone (accepted : Bool) (s : Session χ) : Prop :=
  s.endpoint.phase = .authDone ∧ s.endpoint.authAccepted = accepted

theorem course_select (methods : Bytes) (s : Session χ) :
    Course OfferFails OfferDone s (select methods s) := by
  unfold select
  dsimp only
  split
  · next ha =>
    refine .write rfl fun s' he => .returned rfl ?_
    rw [OfferDone, he]
    exact ⟨rfl, ha⟩
  · next ha =>
    refine .write rfl fun s' he => .returned rfl ?_
    rw [OfferDone, he]
    exact ⟨rfl, Bool.eq_false_iff.2 ha⟩

theorem course_readMethods (count : Nat) (s : Session χ) :
    Course OfferFails OfferDone s (readMethods count s) :=
  .read rfl fun bs s' _ => course_select bs s'

theorem course_readCount (s : Session χ) : Course OfferFails OfferDone s (readCount s) :=
  .read rfl fun _ s' _ => course_readMethods _ s'

theorem course_readOffer (s : Session χ) : Course OfferFails OfferDone s (readOffer s) := by
  unfold readOffer readVersion
  refine .read rfl fun bs s' _ => ?_
  dsimp only
  split
  · exact course_readCount s'
  · exact .raised rfl ⟨_, rfl⟩

theorem course_resumeOffer (st : OfferStage) (s : Session χ) :
    Course OfferFails OfferDone s (resumeOffer st s) := by
  cases st with
  | version => exact course_readOffer s
  | count => exact course_readCount s
  | methods n => exact course_readMethods n s

theorem course_acceptAuthentication (hp : s.endpoint.phase = .new) :
    Course OfferFails OfferDone s s.acceptAuthentication :=
  course_inPhase hp (course_readOffer s)

/-! ## The handshake -/

/-- What a handshake may raise by itself. -/
def HandshakeFails (e : Failure) (_ : Session χ) : Prop :=
  (∃ v, e = .version v) ∨ ∃ raw, e = .hostName raw

/-- What a handshake may return. -/
def HandshakeDone (_ : Option Request) (_ : Session χ) : Prop := True

theorem course_sendReply {r : ReplyCode} (hp : s.endpoint.phase = .requestDone)
    {next : Unit → Session χ → Progress χ α}
    (goes : ∀ s', Course E R s' (next () s')) : Course E R s ((s.sendReply r).andThen next) := by
  have hp' : s.endpoint.phase = Operation.sendReply.phase := hp
  unfold sendReply inPhase
  rw [if_pos hp', Progress.andThen_assoc]
  exact .write rfl fun s' _ => (goes _).of_channel rfl

theorem answerInvalid_raised {e : Failure} (h : ∀ raw, e ≠ .hostName raw) (s : Session χ) :
    answerInvalid (.raised e s) = .raised e s := by
  cases e with
  | hostName raw => exact absurd rfl (h raw)
  | _ => rfl

theorem answerInvalid_read (hχ : Channel.Plain χ) (stage : Stage) (next : Bytes → Session χ → Progress χ Bool)
    (s : Session χ) :
    answerInvalid (s.read stage next) = s.read stage fun bs s => answerInvalid (next bs s) := by
  rcases ha : Duplex.readExact stage.need s.channel with ⟨a, c⟩
  simp only [read, ha]
  cases a with
  | failed e =>
    refine answerInvalid_raised (fun raw he => hχ.read stage.need s.channel raw ?_) _
    rw [ha, he]
  | _ => rfl

theorem answerInvalid_write (hχ : Channel.Plain χ) (bs : Bytes) (next : Unit → Session χ → Progress χ Bool)
    (s : Session χ) :
    answerInvalid ((s.write bs).andThen next) =
      (s.write bs).andThen fun u s => answerInvalid (next u s) := by
  rcases ha : Duplex.writeAll bs s.channel with ⟨r, c⟩
  simp only [write, ha]
  cases r with
  | ok => rfl
  | error e =>
    refine answerInvalid_raised (fun raw he => hχ.write bs s.channel raw ?_) _
    rw [ha, he]

theorem course_answerInvalid (hχ : Channel.Plain χ) {p : Progress χ Bool} (h : Course RequestFails RequestDone s p) :
    Course HandshakeFails HandshakeDone s (answerInvalid p) := by
  induction h with
  | @returned s s' valid hc hr =>
    cases valid with
    | true => exact .returned hc trivial
    | false =>
      have goes : ∀ s' : Session χ, Course HandshakeFails HandshakeDone s' (.returned none s') :=
        fun _ => .returned rfl trivial
      exact (course_sendReply hr goes).of_channel hc
  | raised hc he =>
    rcases he with ⟨v, rfl⟩ | ⟨raw, rfl, hp⟩
    · exact .raised hc (.inl ⟨v, rfl⟩)
    · exact (course_sendReply hp fun _ => .raised rfl (.inr ⟨raw, rfl⟩)).of_channel hc
  -- An answer is given only at the end of a call, since no read and no write fails with a host name.
  | read hc _ ih =>
    rw [answerInvalid_read hχ]
    exact .read hc ih
  | write hc _ ih =>
    rw [answerInvalid_write hχ]
    exact .write hc ih

theorem course_afterOffer (hχ : Channel.Plain χ) {p : Progress χ Bool} (h : Course OfferFails OfferDone s p) :
    Course HandshakeFails HandshakeDone s (afterOffer p) := by
  refine h.andThen (fun e s' he => .inl he) fun accepted s' hd => ?_
  cases accepted with
  | true => exact course_answerInvalid hχ (course_readRequest hd.1 hd.2)
  | false => exact .returned rfl trivial

theorem course_handshake (hχ : Channel.Plain χ) (hp : s.endpoint.phase = .new) :
    Course HandshakeFails HandshakeDone s s.handshake :=
  course_afterOffer hχ (course_acceptAuthentication hp)

theorem course_resumeHandshake (hχ : Channel.Plain χ) (stage : Stage) (s : Session χ) :
    Course HandshakeFails HandshakeDone s (s.resumeHandshake stage) := by
  cases stage with
  | offer st => exact course_afterOffer hχ (course_resumeOffer st s)
  | request st => exact course_answerInvalid hχ (course_resumeRequest st s)

/-! ## What holds of every call -/

/-- What no read and no write changes is so at the end of a call. -/
theorem Course.keeps {P : χ → Prop} (hread : ∀ n c, P c → P (Duplex.readExact n c).2)
    (hwrite : ∀ bs c, P c → P (Duplex.writeAll bs c).2) (h : Course E R s p) (hs : P s.channel) :
    P p.session.channel := by
  induction h with
  | returned hc _ => exact (congrArg P hc).mpr hs
  | raised hc _ => exact (congrArg P hc).mpr hs
  | @read s s₁ stage next hc _ ih =>
    have hc' := hread stage.need s₁.channel ((congrArg P hc).mpr hs)
    refine read_elim (P := fun p => P p.session.channel) ?_ ?_ ?_
    · intro c ha
      rwa [ha] at hc'
    · intro e c ha
      rwa [ha] at hc'
    · intro bs c ha
      rw [ha] at hc'
      exact ih bs _ rfl hc'
  | @write s s₁ bs next hc _ ih =>
    have hc' := hwrite bs s₁.channel ((congrArg P hc).mpr hs)
    refine write_elim (P := fun p => P (p.andThen next).session.channel) ?_ ?_
    · intro e c ha
      rwa [ha] at hc'
    · intro c ha
      rw [ha] at hc'
      exact ih _ rfl hc'

/-- A call that waits has found that the channel makes it wait. -/
theorem Course.waits (h : Course E R s p) {stage : Stage} (hp : p = .waiting stage s') :
    ∃ c, Duplex.readExact stage.need c = (.waiting, s'.channel) := by
  induction h with
  | returned _ _ => cases hp
  | raised _ _ => cases hp
  | read _ _ ih =>
    revert hp
    refine read_elim (P := fun p => p = .waiting stage s' → _) ?_ nofun ?_
    · rintro c ha ⟨⟩
      exact ⟨_, ha⟩
    · exact fun bs c _ hp => ih bs (Session.move _ c _) rfl hp
  | @write s s₁ bs next _ _ ih =>
    revert hp
    refine write_elim (P := fun p => p.andThen next = .waiting stage s' → _) nofun ?_
    exact fun c _ hp => ih (s₁.move _ c) rfl hp

/-- A call raises what is its own, or what its channel has failed with. -/
theorem Course.raises {P : χ → Prop} {G : Failure → Prop} (hread : ∀ n c, P c → P (Duplex.readExact n c).2)
    (hwrite : ∀ bs c, P c → P (Duplex.writeAll bs c).2)
    (fails : ∀ n c e, P c → (Duplex.readExact n c).1 = .failed e → G e)
    (breaks : ∀ bs c e, P c → (Duplex.writeAll bs c).1 = .error e → G e) (own : ∀ e s, E e s → G e)
    (h : Course E R s p) (hs : P s.channel) {e : Failure} (hp : p = .raised e s') : G e := by
  induction h with
  | returned _ _ => cases hp
  | raised _ he =>
    cases hp
    exact own _ _ he
  | @read s s₁ stage next hc _ ih =>
    have hs₁ : P s₁.channel := (congrArg P hc).mpr hs
    have hc' := hread stage.need s₁.channel hs₁
    revert hp
    refine read_elim (P := fun p => p = .raised e s' → G e) nofun ?_ ?_
    · rintro x c ha ⟨⟩
      exact fails _ _ _ hs₁ (congrArg Prod.fst ha)
    · intro bs c ha hp
      rw [ha] at hc'
      exact ih bs (s₁.move _ c) rfl hc' hp
  | @write s s₁ bs next hc _ ih =>
    have hs₁ : P s₁.channel := (congrArg P hc).mpr hs
    have hc' := hwrite bs s₁.channel hs₁
    revert hp
    refine write_elim (P := fun p => p.andThen next = .raised e s' → G e) ?_ ?_
    · rintro x c ha ⟨⟩
      exact breaks _ _ _ hs₁ (congrArg Prod.fst ha)
    · intro c ha hp
      rw [ha] at hc'
      exact ih (s₁.move _ c) rfl hc' hp

/-! ## Over a captured input -/

/-- A call over a captured input comes to an end, and what it raises is its own or the channel's. -/
theorem Course.ends {E : Failure → Session Channel.Memory → Prop} {R : α → Session Channel.Memory → Prop}
    {s : Session Channel.Memory} {p : Progress Channel.Memory α} (h : Course E R s p) :
    (∃ a s', p = .returned a s' ∧ R a s') ∨
      ∃ e s', p = .raised e s' ∧ (E e s' ∨ ∃ x, e = .channel x) := by
  induction h with
  | returned _ hr => exact .inl ⟨_, _, rfl, hr⟩
  | raised _ he => exact .inr ⟨_, _, rfl, .inl he⟩
  | @read s s₁ stage next _ _ ih =>
    refine read_elim (P := fun p => (∃ a s', p = .returned a s' ∧ R a s') ∨
      ∃ e s', p = .raised e s' ∧ (E e s' ∨ ∃ x, e = .channel x)) ?_ ?_ ?_
    · intro c ha
      exact absurd (congrArg Prod.fst ha) (Channel.Memory.readExact_ne_waiting _ _)
    · intro e c ha
      obtain ⟨x, rfl⟩ := Channel.Memory.failed_readExact (congrArg Prod.fst ha)
      exact .inr ⟨_, _, rfl, .inr ⟨x, rfl⟩⟩
    · exact fun bs c _ => ih bs _ rfl
  | @write s s₁ bs next _ _ ih =>
    refine write_elim (P := fun p => (∃ a s', p.andThen next = .returned a s' ∧ R a s') ∨
      ∃ e s', p.andThen next = .raised e s' ∧ (E e s' ∨ ∃ x, e = .channel x)) ?_ ?_
    · intro e c ha
      obtain ⟨x, rfl⟩ := Channel.Memory.error_writeAll (congrArg Prod.fst ha)
      exact .inr ⟨_, _, rfl, .inr ⟨x, rfl⟩⟩
    · exact fun c _ => ih _ rfl

end Session
end Socks5
