import Socks5.Proofs.Endpoint.Moves

/-!
The order of an endpoint's life. In every state that it comes to, whatever is asked of it, whatever its
channel does meanwhile and wherever a call is abandoned, its fields fit its phase (`Endpoint.Orderly`); and
from each state to every later one it only goes on (`Endpoint.Onward`), by one phase at a time
(`endpoint_orderly`).
-/
namespace Socks5

/-! ## States -/

def Phase.rank : Phase → Nat
  | new => 0
  | authDone => 1
  | requestDone => 2
  | replied => 3

namespace Endpoint

/-- A request was read. -/
def HasRequest (e : Endpoint) : Prop := e.phase = .requestDone ∨ e.phase = .replied

structure Orderly (e : Endpoint) : Prop where
  new : e.phase = .new → e.authAccepted = false
  accepted : e.HasRequest → e.authAccepted = true
  request : e.request.isSome = true ↔ e.HasRequest

/-- The one state comes after the other. -/
structure Onward (e e' : Endpoint) : Prop where
  phase : e.phase.rank ≤ e'.phase.rank
  request : ∀ q, e.request = some q → e'.request = some q

/-- The client offered nothing that was acceptable. -/
def Refused (e : Endpoint) : Prop := e.phase = .authDone ∧ e.authAccepted = false

/-- There is nothing left to do. -/
def Spent (e : Endpoint) : Prop := e.Refused ∨ e.phase = .replied

variable {e e' e'' : Endpoint}

theorem Onward.refl (e : Endpoint) : e.Onward e := ⟨Nat.le_refl _, fun _ => id⟩

theorem Onward.trans (h : e.Onward e') (h' : e'.Onward e'') : e.Onward e'' :=
  ⟨Nat.le_trans h.phase h'.phase, fun q hq => h'.request q (h.request q hq)⟩

theorem Orderly.request_eq_none (ho : e.Orderly) (hn : ¬ e.HasRequest) : e.request = none := by
  simpa using mt ho.request.1 hn

namespace Next

theorem orderly (h : e.Next e') (ho : e.Orderly) : e'.Orderly := by
  cases h with
  | still => exact ho
  | selected b hp =>
    have hn : ¬ e.HasRequest := by simp [HasRequest, hp]
    exact ⟨nofun, nofun, ⟨fun h => absurd (ho.request.1 h) hn, nofun⟩⟩
  | rejected r hp ha => exact ⟨ho.new, ho.accepted, ho.request⟩
  | stored q r hp ha => exact ⟨nofun, fun _ => ha, ⟨fun _ => .inl rfl, fun _ => rfl⟩⟩
  | replied hp =>
    exact ⟨nofun, fun _ => ho.accepted (.inl hp), ⟨fun _ => .inr rfl, fun _ => ho.request.2 (.inl hp)⟩⟩

theorem onward (h : e.Next e') (ho : e.Orderly) : e.Onward e' := by
  cases h with
  | still => exact .refl e
  | selected b hp => exact ⟨by simp [hp, Phase.rank], fun _ => id⟩
  | rejected r hp ha => exact ⟨Nat.le_refl _, fun _ => id⟩
  | stored q r hp ha =>
    have hn : ¬ e.HasRequest := by simp [HasRequest, hp]
    refine ⟨by simp [hp, Phase.rank], fun q' hq => ?_⟩
    rw [ho.request_eq_none hn] at hq
    cases hq
  | replied hp => exact ⟨by simp [hp, Phase.rank], fun _ => id⟩

theorem rank_le (h : e.Next e') : e'.phase.rank ≤ e.phase.rank + 1 := by
  cases h with
  | still => exact Nat.le_succ _
  | selected b hp => simp [hp, Phase.rank]
  | rejected r hp ha => exact Nat.le_succ _
  | stored q r hp ha => simp [hp, Phase.rank]
  | replied hp => simp [hp, Phase.rank]

end Next
end Endpoint

theorem Endpoint.Spent.ne {e : Endpoint} (h : e.Spent) :
    e.phase ≠ .new ∧ e.phase ≠ .requestDone ∧ ¬ (e.phase = .authDone ∧ e.authAccepted = true) := by
  rcases h with ⟨hp, ha⟩ | hp
  · simp [hp, ha]
  · simp [hp]

/-- An endpoint with nothing left to do admits no call but the one that asks for a reply. -/
theorem Call.not_admitted_of_spent {e : Endpoint} (h : e.Spent) {c : Call} (hc : c ≠ .suggestedReply) :
    ¬ c.Admitted e := by
  obtain ⟨hnew, hdone, hauth⟩ := h.ne
  cases c with
  | acceptAuthentication => exact hnew
  | readRequest => exact hauth
  | handshake => exact hnew
  | sendReply r => exact hdone
  | suggestedReply => exact absurd rfl hc

/-! ## Usages -/

variable {χ : Type}

namespace Usage

/-- If a call waits, then at a stage that the endpoint may wait at. -/
def Poised (u : Usage χ) : Prop := ∀ c stage, u.pending = some (c, stage) → stage.Fits u.session.endpoint

variable {u : Usage χ}

theorem Poised.of_idle (h : u.pending = none) : u.Poised := fun _ _ hp => nomatch h.symm.trans hp

theorem Poised.idle_of_spent (hu : u.Poised) (hs : u.session.endpoint.Spent) :
    u.pending = none := by
  cases h : u.pending with
  | none => rfl
  | some p =>
    obtain ⟨hnew, -, hauth⟩ := hs.ne
    obtain ⟨c, stage⟩ := p
    have hf := hu c stage h
    cases stage with
    | offer st => exact absurd hf hnew
    | request st => exact absurd hf hauth

theorem abandon_eq (u : Usage χ) : u.abandon.session = u.session ∧ u.abandon.pending = none := by
  unfold abandon
  split
  · next h => exact ⟨rfl, h⟩
  · exact ⟨rfl, rfl⟩

theorem session_proceed (c : Call) (u : Usage χ) (p : Progress χ Answer) :
    (u.proceed c p).session = p.session := by
  cases p <;> rfl

end Usage

variable [Duplex χ]

/-! ## Chains of operations -/

namespace Session

variable {s s' : Session χ}

/-- Where nothing is left to do, nothing is done. -/
theorem Chain.spent (h : Chain s s') (hs : s.endpoint.Spent) :
    s'.endpoint = s.endpoint ∧ s'.trace = s.trace := by
  induction h with
  | refl => exact ⟨rfl, rfl⟩
  | tail _ hstep ih =>
    obtain ⟨hnew, hdone, hauth⟩ := (ih.1 ▸ hs).ne
    cases hstep with
    | offer st hp => exact absurd hp hnew
    | request st hp ha => exact absurd ⟨hp, ha⟩ hauth
    | reply r hp => exact absurd hp hdone
    | changes c => exact ih

section

variable (hχ : Channel.Outward χ)

include hχ

theorem Chain.orderly (h : Chain s s') (ho : s.endpoint.Orderly) :
    s'.endpoint.Orderly ∧ s.endpoint.Onward s'.endpoint := by
  induction h with
  | refl => exact ⟨ho, .refl _⟩
  | tail _ hstep ih =>
    have hn := (hstep.goes hχ).next
    exact ⟨hn.orderly ih.1, ih.2.trans (hn.onward ih.1)⟩

/-- No phase is passed over. -/
theorem Chain.gradual (h : Chain s s') : Relation.ReflTransGen (fun s s' : Session χ =>
    s.Operates s' ∧ s'.endpoint.phase.rank ≤ s.endpoint.phase.rank + 1) s s' := by
  induction h with
  | refl => exact .refl
  | tail _ hstep ih => exact ih.tail ⟨hstep, (hstep.goes hχ).next.rank_le⟩

/-- The endpoint has refused its client if and only if it has handed over the answer that says so. -/
theorem Operates.refused_iff (h : Operates s s')
    (hs : offerAnswer false ∈ s.writes ↔ s.endpoint.Refused) :
    offerAnswer false ∈ s'.writes ↔ s'.endpoint.Refused := by
  have hreply : ∀ r : ReplyCode, offerAnswer false ≠ r.encode := fun _ h => nomatch congrArg List.length h
  cases h.goes hχ with
  | still h => rw [h.1, h.2, hs]
  | chosen b hp h =>
    have hn : offerAnswer false ∉ s.writes := fun hw => nomatch hp.symm.trans (hs.1 hw).1
    rw [h.1, h.2, List.mem_append, List.mem_singleton]
    cases b with
    | false => exact ⟨fun _ => ⟨rfl, rfl⟩, fun _ => .inr rfl⟩
    | true => exact ⟨fun h => h.elim (absurd · hn) nofun, fun hr => absurd hr.2 nofun⟩
  | underway hp ha h =>
    obtain ⟨r, he, hw⟩ := h
    rw [he, hw]
    exact hs
  | stored hp ha h =>
    obtain ⟨q, r, he, hw⟩ := h
    rw [he, hw, hs]
    exact ⟨fun hr => absurd (ha.symm.trans hr.2) nofun, fun hr => absurd hr.1 nofun⟩
  | unsent r hp h => simp [h.1, h.2, hs, hreply]
  | replied r hp h =>
    rw [h.1, h.2, List.mem_append, List.mem_singleton, hs]
    exact ⟨fun h => h.elim (fun hr => absurd (hp.symm.trans hr.1) nofun) (absurd · (hreply r)),
      fun hr => absurd hr.1 nofun⟩

theorem Chain.refused_iff (h : Chain s s') (hs : offerAnswer false ∈ s.writes ↔ s.endpoint.Refused) :
    offerAnswer false ∈ s'.writes ↔ s'.endpoint.Refused := by
  induction h with
  | refl => exact hs
  | tail _ hstep ih => exact hstep.refused_iff hχ ih

end
end Session

/-! ## Runs -/

namespace Usage

open Session (Chain Proceeds)

variable {u : Usage χ}

/-- Where a call gets to. -/
theorem poised_proceed (c : Call) {p : Progress χ Answer} (hp : Proceeds u.session p) :
    Chain u.session (u.proceed c p).session ∧ (u.proceed c p).Poised := by
  cases p with
  | waiting stage s =>
    refine ⟨hp.chain, fun c' stage' h => ?_⟩
    cases h
    exact hp.sound
  | raised x s => exact ⟨hp.chain, .of_idle rfl⟩
  | returned a s => exact ⟨hp.chain, .of_idle rfl⟩

section

variable (hχ : Channel.Outward χ)

include hχ

theorem poised_ask (a : Ask) (u : Usage χ) : Chain u.session (u.ask a).session ∧ (u.ask a).Poised := by
  obtain ⟨hs, -⟩ := abandon_eq u
  rw [← hs]
  cases a with
  | call c =>
    rw [ask_call]
    by_cases ha : c.Admitted u.abandon.session.endpoint
    · exact poised_proceed c (Call.run_proceeds hχ ha)
    · obtain ⟨x, hx⟩ := Call.run_refused ha
      rw [hx]
      exact ⟨.refl, .of_idle rfl⟩
  | read n => exact ⟨.single (.changes _), .of_idle rfl⟩
  | write bs => exact ⟨.single (.changes _), .of_idle rfl⟩

theorem Poised.resume (hu : u.Poised) : Chain u.session u.resume.session ∧ u.resume.Poised := by
  unfold Usage.resume
  split
  · exact ⟨.refl, hu⟩
  · next c stage h => exact poised_proceed c (Call.resume_proceeds hχ (hu c stage h))

/-- Whatever is done, the endpoint goes through some operations, and is left where it may wait. -/
theorem Poised.step (hu : u.Poised) (x : Use χ) : Chain u.session (u.step x).session ∧ (u.step x).Poised := by
  cases x with
  | ask a => exact poised_ask hχ a u
  | resume => exact hu.resume hχ
  | abandon =>
    obtain ⟨hs, hp⟩ := abandon_eq u
    refine ⟨?_, .of_idle hp⟩
    change Chain _ u.abandon.session
    rw [hs]
  | change f => exact ⟨.single (.changes _), hu⟩

theorem Poised.runAll (hu : u.Poised) (uses : List (Use χ)) :
    Chain u.session (u.runAll uses).session ∧ (u.runAll uses).Poised := by
  induction uses generalizing u with
  | nil => exact ⟨.refl, hu⟩
  | cons x uses ih =>
    obtain ⟨hc, hp⟩ := hu.step hχ x
    obtain ⟨hc', hp'⟩ := ih hp
    exact ⟨hc.trans hc', hp'⟩

end

end Usage

/-! ## The order of things -/

theorem Endpoint.orderly_fresh : ({} : Endpoint).Orderly := ⟨fun _ => rfl, nofun, ⟨nofun, nofun⟩⟩

/-- What a run from a new endpoint has gone through. -/
theorem Usage.runAll_fresh (hχ : Channel.Outward χ) (c : χ) (uses : List (Use χ)) :
    Session.Chain { channel := c } ((fresh c).runAll uses).session ∧ ((fresh c).runAll uses).Poised :=
  Poised.runAll hχ (u := fresh c) (.of_idle rfl) uses

/-- An endpoint over any channel, used in any way: calls in any order, broken off by errors or abandoned
while they wait, and whatever arrives. A write that is interrupted is one that fails. In every state that
the endpoint comes to its fields fit its phase. From any state to any later one its phase never goes back,
by one operation it goes on by one phase at most, and a request that is stored stays. Once an offer was
answered with a refusal, nothing changes and every other call is out of order. A call that is out of order
does nothing, and no other call raises such an error. -/
theorem endpoint_orderly (hχ : Channel.Outward χ) (c : χ) (before after : List (Use χ)) :
    let u := (Usage.fresh c).runAll before
    let v := u.runAll after
    u.session.endpoint.Orderly ∧ u.session.endpoint.Onward v.session.endpoint ∧
      Relation.ReflTransGen (fun s s' : Session χ =>
        s.Operates s' ∧ s'.endpoint.phase.rank ≤ s.endpoint.phase.rank + 1) u.session v.session ∧
      (offerAnswer false ∈ u.session.writes ↔ u.session.endpoint.Refused) ∧
      (u.session.endpoint.Refused → v.session.endpoint = u.session.endpoint ∧ v.pending = none ∧
        ∀ call : Call, call ≠ .suggestedReply →
          ∃ x, call.run v.session = .raised (.sequence x) v.session) ∧
      ∀ call : Call,
        (¬ call.Admitted u.session.endpoint → ∃ x, call.run u.session = .raised (.sequence x) u.session) ∧
        ∀ x s, call.run u.session = .raised (.sequence x) s →
          ¬ call.Admitted u.session.endpoint ∧ s = u.session := by
  intro u v
  obtain ⟨hu, hpu⟩ := Usage.runAll_fresh hχ c before
  obtain ⟨hv, hpv⟩ := hpu.runAll hχ after
  have ho := (hu.orderly hχ Endpoint.orderly_fresh).1
  refine ⟨ho, (hv.orderly hχ ho).2, hv.gradual hχ, hu.refused_iff hχ ⟨nofun, nofun⟩, ?_, ?_⟩
  · intro hr
    have hs : u.session.endpoint.Spent := .inl hr
    have he := (hv.spent hs).1
    have hs' := he ▸ hs
    exact ⟨he, hpv.idle_of_spent hs', fun call hc => Call.run_refused (Call.not_admitted_of_spent hs' hc)⟩
  · exact fun call => ⟨Call.run_refused, fun x s h => Call.raised_sequence_iff hχ h⟩

/-- A client's offer comes in two parts. The call that waits between them is abandoned, and what it took is
lost; a second offer is then taken and refused. -/
def interrupted : List (Use Channel.Stream) :=
  [.change (·.feed [5]), .ask (.call .acceptAuthentication), .abandon, .change (·.feed [5, 1, 2]),
    .ask (.call .acceptAuthentication)]

theorem endpoint_orderly_interrupted :
    let u := (Usage.fresh {}).runAll interrupted
    let v := u.runAll [.change (·.feed [5, 1, 0])]
    u.session.endpoint.Refused ∧ u.session.channel.written = [5, 255] ∧
      ∃ x, Call.handshake.run v.session = .raised (.sequence x) v.session := by
  intro u v
  obtain ⟨-, -, -, hr, hc, -⟩ :=
    endpoint_orderly Channel.Stream.outward {} interrupted [.change (·.feed [5, 1, 0])]
  have hmem : offerAnswer false ∈ u.session.writes := List.mem_singleton.2 rfl
  exact ⟨hr.1 hmem, rfl, (hc (hr.1 hmem)).2.2 .handshake nofun⟩

end Socks5
