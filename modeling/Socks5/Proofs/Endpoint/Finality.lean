import Socks5.Proofs.Endpoint.Order
import Socks5.Proofs.Wire.Acceptance

/-!
Which errors are final. When nothing is left to do for an endpoint, every later call fails and nothing more
is handed to its channel (`Usage.final_of_spent`). Otherwise there is a call that succeeds if the channel
recovers (`Usage.not_final`). After an error that should end the connection, something is left to do unless
the client was refused (`fatal_final_iff`): an offer or a request can be read again, and a reply can be sent
again.
-/
namespace Socks5

/-- An error after which the connection is to be closed without a reply. -/
def Failure.Fatal : Failure → Prop
  | version _ | channel _ => True
  | hostName _ | sequence _ | fault _ => False

namespace Usage

/-! ## What has come of the calls -/

/-- Every call among these has failed. -/
def Rebuffed (given : List (Ask × Attempt Given)) : Prop :=
  ∀ c r, (.call c, r) ∈ given → c ≠ .suggestedReply → ∃ e, r = .failed e

theorem Rebuffed.nil : Rebuffed [] := fun _ _ h => absurd h List.not_mem_nil

theorem Rebuffed.append {xs ys : List (Ask × Attempt Given)} (hx : Rebuffed xs) (hy : Rebuffed ys) :
    Rebuffed (xs ++ ys) := fun c r h => (List.mem_append.1 h).elim (hx c r) (hy c r)

theorem Rebuffed.singleton {a : Ask} {r : Attempt Given}
    (h : ∀ c, a = .call c → c ≠ .suggestedReply → ∃ e, r = .failed e) : Rebuffed [(a, r)] := by
  intro c r' hm
  obtain ⟨rfl, rfl⟩ := Prod.mk.inj (List.mem_singleton.1 hm)
  exact h c rfl

variable {χ : Type} {u : Usage χ}

theorem outcomes_abandon (u : Usage χ) : ∃ given, u.abandon.outcomes = u.outcomes ++ given := by
  unfold abandon
  split
  · exact ⟨[], (List.append_nil _).symm⟩
  · exact ⟨_, rfl⟩

/-- If the last call was broken off, then no reply has gone out. -/
def Unreplied (u : Usage χ) : Prop :=
  ∀ c e, u.outcomes.getLast? = some (.call c, .failed e) → e.BreaksOff → u.session.endpoint.phase ≠ .replied

theorem unreplied_settle {a : Ask} {r : Attempt Given} {s : Session χ}
    (h : ∀ e, r = .failed e → e.BreaksOff → s.endpoint.phase ≠ .replied) : (u.settle a r s).Unreplied := by
  intro c e hl
  rw [settle, List.getLast?_concat, Option.some.injEq, Prod.mk.injEq] at hl
  exact h e hl.2

theorem unreplied_proceed (c : Call) {p : Progress χ Answer} (hp : Session.Sound p) :
    (u.proceed c p).Unreplied := by
  cases p with
  | waiting stage s =>
    have hf : stage.Fits s.endpoint := hp
    intro c e hl hb h
    cases stage with
    | offer st => exact nomatch hf.symm.trans h
    | request st => exact nomatch hf.1.symm.trans h
  | raised x s =>
    refine unreplied_settle fun e he hb => ?_
    obtain rfl := Attempt.failed.inj he
    rcases hp with ⟨-, h⟩ | ⟨raw, rfl⟩
    · exact h
    · exact hb.elim
  | returned a s => exact unreplied_settle nofun

theorem Unreplied.abandon (hu : u.Unreplied) : u.abandon.Unreplied := by
  unfold Usage.abandon
  split
  · exact hu
  · exact unreplied_settle nofun

end Usage

variable {χ : Type} [Duplex χ]

/-- A channel that has some bytes to hand out, and can be written to. -/
structure Channel.Ready (fill : Bytes → χ) : Prop where
  feeds : Feeds fill
  writes : ∀ bs d, ∃ c, Duplex.writeAll bs (fill d) = (.ok (), c)

theorem Channel.Memory.ready : Ready fun bs => ({ unread := bs } : Memory) :=
  ⟨Memory.feeds (c := {}) rfl, fun _ _ => ⟨_, rfl⟩⟩

theorem Channel.Stream.ready : Ready fun bs => ({ unread := bs } : Stream) :=
  ⟨Stream.feeds (c := {}) rfl, fun _ _ => ⟨_, rfl⟩⟩

namespace Usage

/-- Whatever is done from now on, every call fails, and no call hands anything more to the channel. -/
def Final (u : Usage χ) : Prop :=
  ∀ uses, Rebuffed ((u.runAll uses).outcomes.drop u.outcomes.length) ∧
    (u.runAll uses).session.writes = u.session.writes

variable {u : Usage χ}

/-! ## With nothing left to do -/

theorem outcomes_ask_of_spent (hs : u.session.endpoint.Spent) (hu : u.pending = none) (a : Ask) :
    ∃ given, (u.ask a).outcomes = u.outcomes ++ given ∧ Rebuffed given := by
  have ha : u.abandon = u := by rw [abandon, hu]
  cases a with
  | call c =>
    rw [ask_call, ha]
    by_cases hc : c = .suggestedReply
    · subst hc
      exact ⟨_, rfl, .singleton fun c h hn => absurd (Ask.call.inj h).symm hn⟩
    · obtain ⟨x, hx⟩ := Call.run_refused (Call.not_admitted_of_spent hs hc)
      rw [hx]
      exact ⟨_, rfl, .singleton fun _ _ _ => ⟨_, rfl⟩⟩
  | read n =>
    unfold ask
    rw [ha]
    exact ⟨_, rfl, .singleton nofun⟩
  | write bs =>
    unfold ask
    rw [ha]
    exact ⟨_, rfl, .singleton nofun⟩

theorem outcomes_step_of_spent (hs : u.session.endpoint.Spent) (hu : u.pending = none) (x : Use χ) :
    ∃ given, (u.step x).outcomes = u.outcomes ++ given ∧ Rebuffed given := by
  have hnil : ∃ given, u.outcomes = u.outcomes ++ given ∧ Rebuffed given :=
    ⟨[], (List.append_nil _).symm, .nil⟩
  cases x with
  | ask a => exact outcomes_ask_of_spent hs hu a
  | resume =>
    unfold step resume
    rwa [hu]
  | abandon =>
    unfold step abandon
    rwa [hu]
  | change f => exact hnil

theorem outcomes_runAll_of_spent (hχ : Channel.Outward χ) (hu : u.Poised) (hs : u.session.endpoint.Spent)
    (uses : List (Use χ)) : ∃ given, (u.runAll uses).outcomes = u.outcomes ++ given ∧ Rebuffed given := by
  induction uses generalizing u with
  | nil => exact ⟨[], (List.append_nil _).symm, .nil⟩
  | cons x uses ih =>
    obtain ⟨hc, hp⟩ := hu.step hχ x
    obtain ⟨given, hg, hr⟩ := outcomes_step_of_spent hs (hu.idle_of_spent hs) x
    obtain ⟨given', hg', hr'⟩ := ih hp ((hc.spent hs).1 ▸ hs)
    refine ⟨given ++ given', ?_, hr.append hr'⟩
    change ((u.step x).runAll uses).outcomes = _
    rw [hg', hg, List.append_assoc]

theorem final_of_spent (hχ : Channel.Outward χ) (hu : u.Poised) (hs : u.session.endpoint.Spent) :
    u.Final := by
  intro uses
  obtain ⟨given, hg, hr⟩ := outcomes_runAll_of_spent hχ hu hs uses
  refine ⟨?_, ?_⟩
  · rwa [hg, List.drop_left]
  · rw [Session.writes, (((hu.runAll hχ uses).1).spent hs).2]
    rfl

/-! ## With something left to do -/

/-- Some call succeeds if the channel has the right bytes to hand out and can be written to. -/
theorem exists_returned {fill : Bytes → χ} (hr : Channel.Ready fill) {e : Endpoint} (hs : ¬ e.Spent) :
    ∃ (c : Call) (d : Bytes), c ≠ .suggestedReply ∧
      ∀ s : Session χ, s.endpoint = e → s.channel = fill d → ∃ a s', c.run s = .returned a s' := by
  cases hp : e.phase with
  | new =>
    refine ⟨.acceptAuthentication, offerBytes [AuthMethod.noAuth.code] ++ [], by decide, fun s he hc => ?_⟩
    obtain ⟨s', h, hc', -⟩ := Session.acceptAuthentication_fill hr.feeds (by decide) hc (he ▸ hp)
    obtain ⟨c', hw⟩ := hr.writes AuthMethod.noAuth.encode []
    rw [← hc'] at hw
    have hsel : [AuthMethod.noAuth.code].contains AuthMethod.noAuth.code = true := rfl
    rw [Call.run, h, Session.select, hsel, if_pos rfl, Session.write, hw]
    exact ⟨_, _, rfl⟩
  | authDone =>
    have ha : e.authAccepted = true := Bool.of_not_eq_false fun h => hs (.inl ⟨hp, h⟩)
    obtain ⟨q, hq⟩ : ∃ q, Request.Spelled ⟨some .connect, some (.address (.v4 (.ofBytes [0, 0, 0, 0]))), 0⟩ q :=
      ⟨_, .mk 0 (.ipv4 rfl)⟩
    refine ⟨.readRequest, q ++ [], by decide, fun s he hc => ?_⟩
    obtain ⟨s', h, -⟩ := hq.read hr.feeds hc (he ▸ hp) (he ▸ ha)
    rw [Call.run, h]
    exact ⟨_, _, rfl⟩
  | requestDone =>
    refine ⟨.sendReply .success, [], by decide, fun s he hc => ?_⟩
    have hp' : s.endpoint.phase = Operation.sendReply.phase := he ▸ hp
    obtain ⟨c', hw⟩ := hr.writes ReplyCode.success.encode []
    rw [← hc] at hw
    rw [Call.run, Session.sendReply, Session.inPhase, if_pos hp', Session.write, hw]
    exact ⟨_, _, rfl⟩
  | replied => exact absurd (.inr hp) hs

theorem not_final {fill : Bytes → χ} (hr : Channel.Ready fill) (hs : ¬ u.session.endpoint.Spent) :
    ¬ u.Final := by
  intro hf
  obtain ⟨c, d, hc, hrun⟩ := exists_returned hr hs
  -- The channel recovers, and then the call is made.
  let v : Usage χ := { u with session := { u.session with channel := fill d } }
  obtain ⟨a, s', h⟩ := hrun v.abandon.session (by rw [(abandon_eq v).1]) (by rw [(abandon_eq v).1])
  obtain ⟨given, hg⟩ := outcomes_abandon v
  have ho : (v.ask (.call c)).outcomes = u.outcomes ++ (given ++ [(.call c, .done (.answer a))]) := by
    rw [ask_call, h, ← List.append_assoc]
    exact congrArg (· ++ _) hg
  obtain ⟨hrebuff, -⟩ := hf [.change fun _ => fill d, .ask (.call c)]
  change Rebuffed ((v.ask (.call c)).outcomes.drop u.outcomes.length) at hrebuff
  rw [ho, List.drop_left] at hrebuff
  obtain ⟨e, he⟩ := hrebuff c _ (List.mem_append_right _ List.mem_cons_self) hc
  cases he

/-! ## After an error -/

theorem Unreplied.step (hχ : Channel.Outward χ) (hp : u.Poised) (hu : u.Unreplied) (x : Use χ) :
    (u.step x).Unreplied := by
  cases x with
  | ask a =>
    cases a with
    | call c =>
      change (u.ask (.call c)).Unreplied
      rw [ask_call]
      by_cases ha : c.Admitted u.abandon.session.endpoint
      · exact unreplied_proceed c (Call.run_proceeds hχ ha).sound
      · obtain ⟨x, hx⟩ := Call.run_refused ha
        rw [hx]
        refine unreplied_settle fun e he hb => ?_
        obtain rfl := Attempt.failed.inj he
        exact hb.elim
    | read n =>
      intro c e hl
      simp [Usage.step, Usage.ask, settle] at hl
    | write bs =>
      intro c e hl
      simp [Usage.step, Usage.ask, settle] at hl
  | resume =>
    unfold Usage.step resume
    dsimp only
    split
    · exact hu
    · next c stage h => exact unreplied_proceed c (Call.resume_proceeds hχ (hp c stage h)).sound
  | abandon => exact hu.abandon
  | change f => exact hu

theorem Unreplied.runAll (hχ : Channel.Outward χ) (hp : u.Poised) (hu : u.Unreplied) (uses : List (Use χ)) :
    (u.runAll uses).Unreplied := by
  induction uses generalizing u with
  | nil => exact hu
  | cons x uses ih => exact ih (hp.step hχ x).2 (hu.step hχ hp x)

end Usage

/-- When a call has raised an error that should end the connection, this is the end of the endpoint if and
only if the client's offer was refused. Otherwise a later call succeeds if the channel recovers. -/
theorem fatal_final_iff (hχ : Channel.Outward χ) {fill : Bytes → χ} (hr : Channel.Ready fill) (c : χ)
    (uses : List (Use χ)) {call : Call} {e : Failure} (he : e.Fatal)
    (hl : ((Usage.fresh c).runAll uses).outcomes.getLast? = some (.call call, .failed e)) :
    ((Usage.fresh c).runAll uses).Final ↔ ((Usage.fresh c).runAll uses).session.endpoint.Refused := by
  have hb : e.BreaksOff := by
    cases e with
    | version v => trivial
    | channel x => trivial
    | _ => exact he.elim
  have hp := (Usage.runAll_fresh hχ c uses).2
  have hu : (Usage.fresh c).Unreplied := fun _ _ h => absurd h.symm (Option.some_ne_none _)
  have hn := hu.runAll hχ (.of_idle rfl) uses call e hl hb
  constructor
  · intro hf
    by_contra href
    exact Usage.not_final hr (fun h => h.elim href hn) hf
  · exact fun href => Usage.final_of_spent hχ hp (.inl href)

/-- Another version than the one that is spoken, and an offer behind it. -/
def mistaken : Usage Channel.Memory :=
  (Usage.fresh { unread := [4, 5, 1, 0] }).runAll [.ask (.call .acceptAuthentication)]

/-- An endpoint whose client was refused, over a channel on which the refusal could not be sent. -/
def cutOff : Usage Channel.Stream :=
  (Usage.fresh { unread := [5, 1, 2], writeFault := some ⟨.reset, []⟩ }).runAll
    [.ask (.call .acceptAuthentication)]

theorem fatal_final_iff_mistaken_cutOff : ¬ mistaken.Final ∧ cutOff.Final := by
  constructor
  · intro hf
    have h := (fatal_final_iff Channel.Memory.outward Channel.Memory.ready _ _
      (e := .version 4) trivial rfl).1 hf
    exact nomatch h.1
  · exact (fatal_final_iff Channel.Stream.outward Channel.Stream.ready _ _
      (e := .channel (.writeFailed ⟨.reset, []⟩)) trivial rfl).2 ⟨rfl, rfl⟩

/-- The offer behind the other version is accepted by a second call. -/
theorem mistaken_not_final :
    mistaken.outcomes.getLast? = some (.call .acceptAuthentication, .failed (.version 4)) ∧
      (mistaken.ask (.call .acceptAuthentication)).outcomes.getLast? =
        some (.call .acceptAuthentication, .done (.answer (.flag true))) ∧
      (mistaken.ask (.call .acceptAuthentication)).session.channel.written = [5, 0] ∧ ¬ mistaken.Final := by
  refine ⟨rfl, rfl, rfl, fun hf => ?_⟩
  have hw : [[5, 0]] = ([] : List Bytes) := (hf [.ask (.call .acceptAuthentication)]).2
  cases hw

end Socks5
