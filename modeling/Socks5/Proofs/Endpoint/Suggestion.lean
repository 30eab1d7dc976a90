import Socks5.Proofs.Endpoint.Order

/-!
Whether the reply that an endpoint suggests suits the request that it has read. The flag that is returned
is about the one call, but what was rejected is kept in the endpoint, where a call that was broken off
leaves it behind (`Usage.left_runAll`). A later call is judged with that in view (`Verdict`), and the reply
suits if and only if nothing was left behind that outlasts it (`Verdict.suits_iff`,
`suggestedReply_suits_iff`).
-/
namespace Socks5

variable {χ α : Type}

/-! ## The reply that is due -/

/-- The reply that a request gets by its head and by the kind of its address. -/
def Head.due (h : Head) (kind : UInt8) : ReplyCode :=
  if (AddressType.ofCode? kind.toNat).isNone then .addressTypeNotSupported else h.rejection.getD .success

/-- The reply is success if and only if the request is valid, and otherwise it is the one that is due. -/
def ReplyCode.Suits (r : ReplyCode) (valid : Bool) (due : ReplyCode) : Prop :=
  (valid = true ↔ r = .success) ∧ (valid = false → r = due)

theorem Target.Spelled.kind {t : Target} {tb : Bytes} (ht : t.Spelled tb) :
    ∃ kind rest, tb = kind :: rest ∧ (AddressType.ofCode? kind.toNat).isNone = false := by
  cases ht with
  | ipv4 hl => exact ⟨_, _, rfl, rfl⟩
  | name hl ha => exact ⟨_, _, rfl, rfl⟩
  | ipv6 hl => exact ⟨_, _, rfl, rfl⟩

/-- The reply for what is rejected after a reading, against the one that is due. What was rejected before
counts only where the command is known: an unknown one outranks it. -/
theorem Head.suits_iff (h : Head) (before : Option ReplyCode) :
    ((h.rejectionAfter before).getD .success).Suits h.isValid (h.rejection.getD .success) ↔
      before = none ∨ before = some (h.rejection.getD .success) ∨
        h.rejection.getD .success = .commandNotSupported := by
  unfold ReplyCode.Suits rejectionAfter rejection isValid
  cases hc : h.command?.isSome with
  | false => simp
  | true =>
    by_cases hz : h.reserved = 0
    · cases before <;> simp [hz]
    · cases before with
      | none => simp [hz]
      | some r => cases r <;> simp [hz]

/-- What was read is a request, its flag is by the reply that is due, and the reply for what is rejected
suits unless something else was rejected before that the request itself does not outrank. -/
theorem Verdict.suits_iff {before : Option ReplyCode} {bs : Bytes} {valid : Bool} {r : Request}
    {rejection : Option ReplyCode} (hv : Verdict before bs valid r rejection) :
    ∃ (h : Head) (kind : UInt8) (rest : Bytes), bs = version :: h.command :: h.reserved :: kind :: rest ∧
      (valid = true ↔ h.due kind = .success) ∧
      ((rejection.getD .success).Suits valid (h.due kind) ↔
        before = none ∨ before = some (h.due kind) ∨ h.due kind = .addressTypeNotSupported ∨
          h.due kind = .commandNotSupported) := by
  cases hv with
  | @read h t tb port ht =>
    obtain ⟨kind, rest, rfl, hk⟩ := ht.kind
    have hdue : h.due kind = h.rejection.getD .success := by
      rw [Head.due, hk]
      rfl
    refine ⟨h, kind, rest ++ Bytes.ofWord port.toNat, rfl, ?_, ?_⟩
    · rw [hdue, Head.isValid, Head.rejection]
      cases h.command?.isSome with
      | false => simp
      | true => by_cases hz : h.reserved = 0 <;> simp [hz]
    · have hne : h.rejection.getD .success ≠ .addressTypeNotSupported := by
        unfold Head.rejection
        split
        · split <;> simp
        · simp
      rw [hdue, h.suits_iff before]
      simp [hne]
  | @unknownKind h kind hk =>
    have hdue : h.due kind = .addressTypeNotSupported := by
      rw [Head.due, hk]
      rfl
    refine ⟨h, kind, [], rfl, ?_, ?_⟩
    · simp [hdue]
    · simp [hdue, ReplyCode.Suits]

/-! ## A call that is left alone -/

/-- Nothing that would break a call off. -/
def Use.Patient : Use χ → Prop
  | resume | change _ => True
  | ask _ | abandon => False

namespace Usage

/-- A request is read by a call that began with the endpoint `e`, after `base` was taken and when `given` had
come of everything before: the call waits, or it is over. -/
inductive Reading (e : Endpoint) (base : Bytes) (given : List (Ask × Attempt Given)) (u : Usage χ) : Prop
  | waits (st : RequestStage) (ha : Call.readRequest.Admitted e) (hp : u.pending = some (.readRequest, .request st))
      (ho : u.outcomes = given)
      (hs : Session.Requesting (fun bs s => s.taken = base ++ bs) e st u.session)
  | ended (r : Attempt Given) (hp : u.pending = none) (ho : u.outcomes = given ++ [(.call .readRequest, r)])
      (hr : ∀ valid, r = .done (.answer (.flag valid)) → Call.readRequest.Admitted e ∧
        ∃ bs q rejection, u.session.taken = base ++ bs ∧ Verdict e.rejection bs valid q rejection ∧
          u.session.endpoint = { e with phase := .requestDone, request := some q, rejection := rejection })

variable {e : Endpoint} {base : Bytes} {given : List (Ask × Attempt Given)} {u : Usage χ}

theorem reading_proceed (ha : Call.readRequest.Admitted e) (ho : u.outcomes = given) {p : Progress χ Bool}
    (hp : Session.Judged (fun bs (s : Session χ) => s.taken = base ++ bs) (fun _ => True) e p) :
    (u.proceed .readRequest (p.answer .flag)).Reading e base given := by
  cases p with
  | waiting stage s =>
    obtain ⟨st, rfl, hs⟩ := hp
    exact .waits st ha rfl ho hs
  | raised x s => exact .ended _ rfl (congrArg (· ++ _) ho) nofun
  | returned valid s =>
    refine .ended _ rfl (congrArg (· ++ _) ho) fun valid' h => ⟨ha, ?_⟩
    obtain rfl : valid = valid' := by simpa using h
    exact hp

variable [Duplex χ] {unread : χ → Bytes} (hd : Drains unread)

include hd

theorem reading_ask (u : Usage χ) : (u.ask (.call .readRequest)).Reading u.session.endpoint u.session.taken
    u.abandon.outcomes := by
  rw [ask_call]
  have hs := (abandon_eq u).1
  by_cases ha : Call.readRequest.Admitted u.abandon.session.endpoint
  · have hp : u.abandon.session.endpoint.phase = Operation.readRequest.phase := ha.1
    have hrun : Call.readRequest.run u.abandon.session = (Session.readBody u.abandon.session).answer .flag := by
      rw [Call.run, Session.readRequest, Session.inPhase, if_pos hp, if_pos ha.2]
    rw [hrun]
    rw [hs] at ha ⊢
    have hstart : Session.Requesting (fun bs (s : Session χ) => s.taken = u.session.taken ++ bs)
        u.session.endpoint .version u.session := ⟨[], rfl, (List.append_nil _).symm, rfl⟩
    exact reading_proceed ha rfl ((hd.follows u.session.taken).readBody hstart)
  · obtain ⟨x, hx⟩ := Call.run_refused ha
    rw [hx]
    refine .ended _ rfl rfl fun valid h => ?_
    cases h

theorem Reading.step (h : u.Reading e base given) {x : Use χ} (hx : x.Patient) :
    (u.step x).Reading e base given := by
  cases x with
  | ask a => exact hx.elim
  | abandon => exact hx.elim
  | resume =>
    change u.resume.Reading e base given
    unfold Usage.resume
    cases h with
    | waits st ha hp ho hs =>
      rw [hp]
      exact reading_proceed ha ho ((hd.follows base).resumeRequest hs)
    | ended r hp ho hr =>
      rw [hp]
      exact .ended r hp ho hr
  | change f =>
    cases h with
    | waits st ha hp ho hs => exact .waits st ha hp ho hs
    | ended r hp ho hr => exact .ended r hp ho hr

theorem Reading.runAll (h : u.Reading e base given) {uses : List (Use χ)} (hp : ∀ x ∈ uses, x.Patient) :
    (u.runAll uses).Reading e base given := by
  induction uses generalizing u with
  | nil => exact h
  | cons x uses ih =>
    exact ih (h.step hd (hp x List.mem_cons_self)) fun y hy => hp y (List.mem_cons_of_mem x hy)

end Usage

/-! ## What is left behind -/

/-- The calls that read a request. -/
def Call.ReadsRequest : Call → Prop
  | readRequest | handshake => True
  | acceptAuthentication | sendReply _ | suggestedReply => False

/-- Some call that reads a request was not seen to its end: it failed, or it was abandoned. -/
def BrokenOff (given : List (Ask × Attempt Given)) : Prop :=
  ∃ c r, (.call c, r) ∈ given ∧ c.ReadsRequest ∧ ∀ g, r ≠ .done g

theorem BrokenOff.append {xs : List (Ask × Attempt Given)} (h : BrokenOff xs)
    (ys : List (Ask × Attempt Given)) : BrokenOff (xs ++ ys) := by
  obtain ⟨c, r, hm, hc, hr⟩ := h
  exact ⟨c, r, List.mem_append_left ys hm, hc, hr⟩

theorem BrokenOff.last {c : Call} (hc : c.ReadsRequest) {r : Attempt Given} (hr : ∀ g, r ≠ .done g)
    (given : List (Ask × Attempt Given)) : BrokenOff (given ++ [(.call c, r)]) :=
  ⟨c, r, List.mem_append_right given List.mem_cons_self, hc, hr⟩

namespace Endpoint

/-- Nothing was rejected before there was a request to read. -/
def Unread (e : Endpoint) : Prop := e.phase = .new → e.rejection = none

theorem Next.unread {e e' : Endpoint} (h : e.Next e') (he : e.Unread) : e'.Unread := by
  cases h with
  | still => exact he
  | rejected r hp ha => exact fun h => nomatch hp.symm.trans h
  | selected b hp => exact nofun
  | stored q r hp ha => exact nofun
  | replied hp => exact nofun

/-- What was rejected while a request is still to be read was left behind by an earlier reading. -/
def Left (given : List (Ask × Attempt Given)) (e : Endpoint) : Prop :=
  e.phase = .authDone → e.rejection ≠ none → BrokenOff given

end Endpoint

theorem Progress.session_answer (f : α → Answer) (p : Progress χ α) :
    (p.answer f).session = p.session := by
  cases p <;> rfl

theorem Progress.returned_of_answer {f : α → Answer} {p : Progress χ α} {a : Answer} {s : Session χ}
    (h : p.answer f = .returned a s) : ∃ b, p = .returned b s := by
  cases p with
  | waiting stage s' => cases h
  | raised x s' => cases h
  | returned b s' =>
    cases h
    exact ⟨b, rfl⟩

namespace Session

variable [Duplex χ] {s s' : Session χ}

theorem Chain.unread (hχ : Channel.Outward χ) (h : Chain s s') (hs : s.endpoint.Unread) :
    s'.endpoint.Unread := by
  induction h with
  | refl => exact hs
  | tail _ hstep ih => exact (hstep.goes hχ).next.unread ih

section

variable (hχ : Channel.Outward χ)

include hχ

theorem rejection_resumeOffer (st : OfferStage) :
    (resumeOffer st s).session.endpoint.rejection = s.endpoint.rejection := by
  have ho := offered_resumeOffer hχ st s
  cases hr : resumeOffer st s with
  | waiting stage s' =>
    rw [hr] at ho
    exact congrArg Endpoint.rejection ho.2.1
  | raised x s' =>
    rw [hr] at ho
    change s'.endpoint.rejection = _
    rcases ho.2 with ⟨he, -⟩ | ⟨b, he, -⟩ <;> rw [he]
  | returned b s' =>
    rw [hr] at ho
    change s'.endpoint.rejection = _
    rw [ho.1]

theorem phase_of_resumeRequest {st : RequestStage} {valid : Bool}
    (h : resumeRequest st s = .returned valid s') : s'.endpoint.phase = .requestDone := by
  have hr := requested_resumeRequest hχ st s
  rw [h] at hr
  obtain ⟨q, r, he, -⟩ := hr
  exact congrArg Endpoint.phase he

theorem phase_of_answerInvalid {st : RequestStage} {a : Option Request}
    (h : answerInvalid (resumeRequest st s) = .returned a s') : s'.endpoint.phase ≠ .authDone := by
  cases hr : resumeRequest st s with
  | waiting stage s₁ =>
    rw [hr] at h
    cases h
  | raised x s₁ =>
    rw [hr] at h
    cases x with
    | hostName raw =>
      rw [answerInvalid] at h
      cases hp : sendReply .generalFailure s₁ <;> rw [hp] at h <;> cases h
    | _ => cases h
  | returned valid s₁ =>
    have hp := phase_of_resumeRequest hχ hr
    rw [hr] at h
    cases valid with
    | true =>
      cases h
      rw [hp]
      decide
    | false =>
      rw [answerInvalid] at h
      rcases sendReply_cases hχ s₁.endpoint.suggestedReply hp with ⟨x, c, -, hs⟩ | ⟨c, hs⟩
      · rw [hs] at h
        cases h
      · rw [hs] at h
        cases h
        exact nofun

theorem rejection_of_afterOffer {st : OfferStage} {a : Option Request}
    (h : afterOffer (resumeOffer st s) = .returned a s') (hp : s'.endpoint.phase = .authDone) :
    s'.endpoint.rejection = s.endpoint.rejection := by
  have hrej := rejection_resumeOffer hχ (s := s) st
  cases hr : resumeOffer st s with
  | waiting stage s₁ =>
    rw [hr] at h
    cases h
  | raised x s₁ =>
    rw [hr] at h
    cases h
  | returned accepted s₁ =>
    have ho := offered_resumeOffer hχ st s
    rw [hr] at h hrej ho
    cases accepted with
    | false =>
      cases h
      exact hrej
    | true =>
      have hp₁ : s₁.endpoint.phase = Operation.readRequest.phase := congrArg Endpoint.phase ho.1
      have ha₁ : s₁.endpoint.authAccepted = true := congrArg Endpoint.authAccepted ho.1
      have hb : s₁.readRequest = resumeRequest .version s₁ := by
        rw [readRequest, inPhase, if_pos hp₁, if_pos ha₁]
        rfl
      have h' : answerInvalid (resumeRequest .version s₁) = .returned a s' := by
        rw [← hb]
        exact h
      exact absurd hp (phase_of_answerInvalid hχ h')

end
end Session

namespace Usage

variable {u : Usage χ}

/-- What was rejected while a request is still to be read is accounted for: a call was broken off, or it
waits. -/
def Accounted (u : Usage χ) : Prop := u.session.endpoint.Left u.abandon.outcomes

theorem abandon_of_idle (h : u.pending = none) : u.abandon = u := by rw [abandon, h]

theorem accounted_of_idle (h : u.pending = none) (hl : u.session.endpoint.Left u.outcomes) : u.Accounted := by
  rwa [Accounted, abandon_of_idle h]

theorem Accounted.abandon (h : u.Accounted) : u.abandon.Accounted := by
  obtain ⟨hs, hp⟩ := abandon_eq u
  refine accounted_of_idle hp ?_
  rwa [hs]

theorem outcomes_proceed (c : Call) (u : Usage χ) (p : Progress χ Answer) :
    ∃ r, (u.proceed c p).abandon.outcomes = u.outcomes ++ [(.call c, r)] ∧
      ((∃ g, r = .done g) → ∃ a s, p = .returned a s) := by
  cases p with
  | waiting stage s => exact ⟨.waiting, rfl, fun ⟨g, h⟩ => nomatch h⟩
  | raised x s => exact ⟨.failed x, rfl, fun ⟨g, h⟩ => nomatch h⟩
  | returned a s => exact ⟨.done (.answer a), rfl, fun _ => ⟨a, s, rfl⟩⟩

/-- A call that reads a request is itself accountable, unless it returns. -/
theorem accounted_of_reads {c : Call} (hc : c.ReadsRequest) {p : Progress χ Answer}
    (hp : ∀ a s, p = .returned a s → s.endpoint.phase = .authDone → s.endpoint.rejection = none) :
    (u.proceed c p).Accounted := by
  intro hphase hrej
  rw [session_proceed] at hphase hrej
  obtain ⟨r, ho, hr⟩ := outcomes_proceed c u p
  rw [ho]
  by_cases hg : ∃ g, r = .done g
  · obtain ⟨a, s, rfl⟩ := hr hg
    exact absurd (hp a s rfl hphase) hrej
  · exact .last hc (fun g h => hg ⟨g, h⟩) _

/-- A call that leaves the endpoint as it is makes no difference. -/
theorem accounted_of_same {c : Call} (hl : u.session.endpoint.Left u.outcomes) {p : Progress χ Answer}
    (hp : p.session.endpoint = u.session.endpoint) : (u.proceed c p).Accounted := by
  intro hphase hrej
  rw [session_proceed, hp] at hphase hrej
  obtain ⟨r, ho, -⟩ := outcomes_proceed c u p
  rw [ho]
  exact (hl hphase hrej).append _

variable [Duplex χ] (hχ : Channel.Outward χ)

include hχ

/-- A call that goes on from a stage at which it may wait. -/
theorem accounted_resume (c : Call) (stage : Stage) (hf : stage.Fits u.session.endpoint)
    (hu : u.session.endpoint.Unread) (hl : u.session.endpoint.Left (u.outcomes ++ [(.call c, .waiting)])) :
    (u.proceed c (c.resume stage u.session)).Accounted := by
  have waits : (u.proceed c (.waiting stage u.session)).Accounted := hl
  cases stage with
  | offer st =>
    have hrej : u.session.endpoint.rejection = none := hu hf
    cases c with
    | acceptAuthentication =>
      intro _ hr
      refine absurd ?_ hr
      rw [session_proceed, Call.resume, Progress.session_answer, Session.rejection_resumeOffer hχ, hrej]
    | handshake =>
      have hc : Call.ReadsRequest .handshake := trivial
      refine accounted_of_reads hc fun a s h hp => ?_
      obtain ⟨q, hq⟩ := Progress.returned_of_answer h
      rw [Session.rejection_of_afterOffer hχ hq hp, hrej]
    | _ => exact waits
  | request st =>
    cases c with
    | readRequest =>
      have hc : Call.ReadsRequest .readRequest := trivial
      refine accounted_of_reads hc fun a s h hp => ?_
      obtain ⟨valid, hv⟩ := Progress.returned_of_answer h
      exact nomatch (Session.phase_of_resumeRequest hχ hv).symm.trans hp
    | handshake =>
      have hc : Call.ReadsRequest .handshake := trivial
      refine accounted_of_reads hc fun a s h hp => ?_
      obtain ⟨q, hq⟩ := Progress.returned_of_answer h
      exact absurd hp (Session.phase_of_answerInvalid hχ hq)
    | _ => exact waits

theorem accounted_call (c : Call) (hu : u.session.endpoint.Unread)
    (hl : u.session.endpoint.Left u.outcomes) : (u.proceed c (c.run u.session)).Accounted := by
  by_cases ha : c.Admitted u.session.endpoint
  · have hl' : u.session.endpoint.Left (u.outcomes ++ [(.call c, .waiting)]) :=
      fun hp hr => (hl hp hr).append _
    cases c with
    | suggestedReply => exact accounted_of_same hl rfl
    | acceptAuthentication =>
      have hp : u.session.endpoint.phase = Operation.acceptAuthentication.phase := ha
      rw [Call.run, Session.acceptAuthentication, Session.inPhase, if_pos hp]
      exact accounted_resume hχ .acceptAuthentication (.offer .version) ha hu hl'
    | readRequest =>
      have hp : u.session.endpoint.phase = Operation.readRequest.phase := ha.1
      rw [Call.run, Session.readRequest, Session.inPhase, if_pos hp, if_pos ha.2]
      exact accounted_resume hχ .readRequest (.request .version) ha hu hl'
    | handshake =>
      have hp : u.session.endpoint.phase = Operation.acceptAuthentication.phase := ha
      rw [Call.run, Session.handshake, Session.acceptAuthentication, Session.inPhase, if_pos hp]
      exact accounted_resume hχ .handshake (.offer .version) ha hu hl'
    | sendReply r =>
      -- A reply goes out when there is no request to read any more.
      intro hp _
      rw [session_proceed, Call.run, Progress.session_answer] at hp
      rcases Session.sendReply_cases hχ r ha with ⟨x, c, -, h⟩ | ⟨c, h⟩
      · rw [h] at hp
        cases ha.symm.trans hp
      · rw [h] at hp
        cases hp
  · obtain ⟨x, hx⟩ := Call.run_refused ha
    rw [hx]
    exact accounted_of_same hl rfl

theorem Accounted.step (h : u.Accounted) (hu : u.session.endpoint.Unread) (hp : u.Poised) (x : Use χ) :
    (u.step x).Accounted := by
  obtain ⟨hs, hidle⟩ := abandon_eq u
  have hl : u.abandon.session.endpoint.Left u.abandon.outcomes := by rwa [hs]
  have settles : ∀ (a : Ask) (r : Attempt Given) (c : χ),
      (u.abandon.settle a r { u.abandon.session with channel := c }).Accounted := fun a r c =>
    accounted_of_idle rfl fun hp hr => (hl hp hr).append _
  cases x with
  | ask a =>
    cases a with
    | call c =>
      change (u.ask (.call c)).Accounted
      rw [ask_call]
      exact accounted_call hχ c (by rwa [hs]) hl
    | read n => exact settles _ _ _
    | write bs => exact settles _ _ _
  | resume =>
    change u.resume.Accounted
    unfold Usage.resume
    split
    · exact h
    · next c stage hpend =>
      refine accounted_resume hχ c stage (hp c stage hpend) hu ?_
      rwa [Accounted, Usage.abandon, hpend] at h
  | abandon => exact h.abandon
  | change f =>
    have ho : (u.step (.change f)).abandon.outcomes = u.abandon.outcomes := by
      unfold Usage.step Usage.abandon
      dsimp only
      cases u.pending <;> rfl
    rwa [Accounted, ho]

theorem Accounted.runAll (h : u.Accounted) (hu : u.session.endpoint.Unread) (hp : u.Poised)
    (uses : List (Use χ)) : (u.runAll uses).Accounted := by
  induction uses generalizing u with
  | nil => exact h
  | cons x uses ih =>
    obtain ⟨hc, hp'⟩ := hp.step hχ x
    exact ih (h.step hχ hu hp x) (hc.unread hχ hu) hp'

end Usage

open Channel (Stream)

/-- An endpoint over a connection, used in any way, reads a request by a call that is left alone until it
returns. It has taken a request, and the flag is right: it tells whether success is due. The reply that is
suggested suits if and only if nothing was left to be rejected from before, or just what is due, or the
request has an unknown kind of address or an unknown command, which outrank it. Something is left only
where an earlier call that read a request has failed or was abandoned. -/
theorem suggestedReply_suits_iff (c : Stream) (before during : List (Use Stream))
    (hp : ∀ x ∈ during, x.Patient) (valid : Bool) :
    let u := (Usage.fresh c).runAll before
    let w := (u.ask (.call .readRequest)).runAll during
    w.outcomes = u.abandon.outcomes ++ [(.call .readRequest, .done (.answer (.flag valid)))] →
    (∃ (h : Head) (kind : UInt8) (rest : Bytes),
      w.session.taken = u.session.taken ++ version :: h.command :: h.reserved :: kind :: rest ∧
      (valid = true ↔ h.due kind = .success) ∧
      (w.session.endpoint.suggestedReply.Suits valid (h.due kind) ↔
        u.session.endpoint.rejection = none ∨ u.session.endpoint.rejection = some (h.due kind) ∨
          h.due kind = .addressTypeNotSupported ∨ h.due kind = .commandNotSupported)) ∧
    (u.session.endpoint.rejection ≠ none → BrokenOff u.abandon.outcomes) := by
  intro u w ho
  have hr : w.Reading u.session.endpoint u.session.taken u.abandon.outcomes :=
    (Usage.reading_ask Stream.drains u).runAll Stream.drains hp
  cases hr with
  | waits st _ _ ho' _ =>
    rw [ho'] at ho
    simp at ho
  | ended r _ ho' hr =>
    rw [ho'] at ho
    obtain ⟨ha, bs, q, rejection, ht, hv, he⟩ := hr valid (by simpa using ho)
    obtain ⟨h, kind, rest, rfl, hvalid, hsuits⟩ := hv.suits_iff
    have hrej : w.session.endpoint.suggestedReply = rejection.getD .success := by
      rw [he, Endpoint.suggestedReply]
    refine ⟨⟨h, kind, rest, ht, hvalid, ?_⟩, fun hne => ?_⟩
    · rw [hrej]
      exact hsuits
    · have hfresh : (Usage.fresh c).Accounted := Usage.accounted_of_idle rfl fun hp => by cases hp
      exact hfresh.runAll Stream.outward (fun _ => rfl) (.of_idle rfl) before ha.1 hne

/-- A request with an unknown command breaks off behind its head. The call that waits for the rest is
abandoned, and a whole request comes, which is valid. -/
def outdated : List (Use Stream) :=
  [.change (·.feed [5, 1, 0, 5, 9, 0, 1]), .ask (.call .acceptAuthentication), .ask (.call .readRequest),
    .change (·.feed [5, 1, 0, 1, 127, 0, 0, 1, 1, 187])]

theorem suggestedReply_suits_iff_outdated :
    let u := (Usage.fresh {}).runAll outdated
    let w := (u.ask (.call .readRequest)).runAll []
    BrokenOff u.abandon.outcomes ∧ ∃ (h : Head) (kind : UInt8) (rest : Bytes),
      w.session.taken = u.session.taken ++ version :: h.command :: h.reserved :: kind :: rest ∧
        h.due kind = .success := by
  intro u w
  obtain ⟨⟨h, kind, rest, ht, hv, -⟩, hb⟩ := suggestedReply_suits_iff {} outdated [] nofun true rfl
  exact ⟨hb nofun, h, kind, rest, ht, hv.1 rfl⟩

/-- The valid request is answered for the one that was abandoned. -/
theorem suggestedReply_outdated :
    let w := ((Usage.fresh {}).runAll outdated).ask (.call .readRequest)
    w.outcomes.getLast? = some (.call .readRequest, .done (.answer (.flag true))) ∧
      w.session.endpoint.suggestedReply = .commandNotSupported ∧
      ¬ w.session.endpoint.suggestedReply.Suits true .success := by
  intro w
  exact ⟨rfl, rfl, fun h => nomatch h.1.1 rfl⟩

end Socks5
