import Socks5.Proofs.Wire.Following

/-!
A captured input and a connection over which it came agree. As long as neither is closed and nothing
fails, an endpoint over the one and an endpoint over the other give the same answers and the same errors,
in whatever order they are used (`memory_agrees_stream`).
-/
namespace Socks5

namespace Channel

/-- The same is left to be read of a captured input and of a connection that has ended, the same was
written to them, and nothing is wrong with either. -/
structure Agrees (c : Memory) (d : Stream) : Prop where
  unread : d.unread = c.unread
  written : d.written = c.written
  opened : c.closed = false
  ended : d.ended = true
  readable : d.readFault = none
  writable : d.writeFault = none

variable {c c' : Memory} {d : Stream} {n : Nat}

/-- A read comes to the same, and to the end of it. -/
theorem Agrees.readExact (h : Agrees c d) (n : Nat) :
    (d.readExact n).1 = (c.readExact n).1 ∧ Agrees (c.readExact n).2 (d.readExact n).2 := by
  obtain ⟨hu, hw, ho, he, hr, hf⟩ := h
  unfold Stream.readExact Memory.readExact
  simp only [hr, he, ho, hu, Bool.false_eq_true, ↓reduceIte, ← Nat.not_lt (b := n)]
  by_cases hn : c.unread.length < n
  · simp only [hn, not_true_eq_false, ↓reduceIte, true_and]
    exact ⟨rfl, hw, rfl, rfl, rfl, hf⟩
  · simp only [hn, not_false_eq_true, ↓reduceIte, true_and]
    exact ⟨rfl, hw, rfl, rfl, rfl, hf⟩

theorem Agrees.read (h : Agrees c d) {a : Attempt Bytes} (ha : c.readExact n = (a, c')) :
    ∃ d', d.readExact n = (a, d') ∧ Agrees c' d' := by
  obtain ⟨hr, hc⟩ := h.readExact n
  rw [ha] at hr hc
  exact ⟨_, Prod.ext hr rfl, hc⟩

theorem Agrees.writeAll (h : Agrees c d) (bs : Bytes) :
    (d.writeAll bs).1 = (c.writeAll bs).1 ∧ Agrees (c.writeAll bs).2 (d.writeAll bs).2 := by
  obtain ⟨hu, hw, ho, he, hr, hf⟩ := h
  unfold Stream.writeAll Memory.writeAll
  simp only [hf, ho, Bool.false_eq_true, ↓reduceIte, true_and]
  exact ⟨hu, congrArg (· ++ bs) hw, rfl, he, hr, rfl⟩

theorem agrees_leads : Leads Agrees where
  done h ha := h.read ha
  fails h ha := h.read ha
  waits {c _ _ n} _ ha := absurd (congrArg Prod.fst ha) (c.readExact_ne_waiting n)
  writes bs h := h.writeAll bs

end Channel

namespace Usage

open Channel (Memory Stream Agrees)

/-- Two endpoints that were asked the same, and gave the same. -/
structure Agreeing (u : Usage Memory) (v : Usage Stream) : Prop where
  session : u.session.Beside Agrees [] v.session
  idle : u.pending = none ∧ v.pending = none
  outcomes : v.outcomes = u.outcomes

variable {u : Usage Memory} {v : Usage Stream}

theorem Agreeing.settle (h : Agreeing u v) {s : Session Memory} {s' : Session Stream}
    (hs : s.Beside Agrees [] s') (a : Ask) (r : Attempt Given) : Agreeing (u.settle a r s) (v.settle a r s') :=
  ⟨hs, ⟨rfl, rfl⟩, congrArg (· ++ [(a, r)]) h.outcomes⟩

theorem Agreeing.settleOn (h : Agreeing u v) {c : Memory} {d : Stream} (hc : Agrees c d) (a : Ask)
    (r : Attempt Given) : Agreeing (u.settle a r { u.session with channel := c })
      (v.settle a r { v.session with channel := d }) := by
  have hs : Session.Beside Agrees [] { u.session with channel := c } { v.session with channel := d } :=
    ⟨h.session.endpoint, hc, h.session.trace⟩
  exact h.settle hs a r

/-- Over a captured input a call ends, and so does the other. -/
theorem Agreeing.proceed (h : Agreeing u v) (c : Call) {p : Progress Memory Answer}
    {p' : Progress Stream Answer} (hp : p.Leads Agrees [] id c.resume p') :
    Agreeing (u.proceed c p) (v.proceed c p') ∧
      ∃ r, r ≠ .waiting ∧ (u.proceed c p).outcomes = u.outcomes ++ [(.call c, r)] := by
  cases hp with
  | waiting st hw _ => exact absurd (congrArg Prod.fst hw) (Memory.readExact_ne_waiting _ _)
  | @raised e s s' hs => exact ⟨h.settle hs _ _, .failed e, nofun, rfl⟩
  | @returned a s s' hs => exact ⟨h.settle hs _ _, .done (.answer a), nofun, rfl⟩

theorem Agreeing.ask (h : Agreeing u v) (a : Ask) :
    Agreeing (u.ask a) (v.ask a) ∧
      ∃ r, r ≠ .waiting ∧ (u.ask a).outcomes = u.outcomes ++ [(a, r)] := by
  have hu : u.abandon = u := by rw [abandon, h.idle.1]
  have hv : v.abandon = v := by rw [abandon, h.idle.2]
  cases a with
  | call c =>
    rw [ask_call, ask_call, hu, hv]
    exact h.proceed c (Session.leads_call Channel.agrees_leads h.session c)
  | read n =>
    unfold Usage.ask
    rw [hu, hv]
    obtain ⟨hr, hc⟩ := h.session.channel.readExact n
    have hne := u.session.channel.readExact_ne_waiting n
    dsimp only [Duplex.readExact]
    rcases ha : u.session.channel.readExact n with ⟨r, c⟩
    rcases hb : v.session.channel.readExact n with ⟨r', d⟩
    rw [ha, hb] at hr hc
    rw [ha] at hne
    obtain rfl : r' = r := hr
    refine ⟨h.settleOn hc _ _, _, ?_, rfl⟩
    cases r' with
    | waiting => exact absurd rfl hne
    | done bs => nofun
    | failed e => nofun
  | write bs =>
    unfold Usage.ask
    rw [hu, hv]
    obtain ⟨hr, hc⟩ := h.session.channel.writeAll bs
    dsimp only [Duplex.writeAll]
    rcases ha : u.session.channel.writeAll bs with ⟨r, c⟩
    rcases hb : v.session.channel.writeAll bs with ⟨r', d⟩
    rw [ha, hb] at hr hc
    obtain rfl : r' = r := hr
    refine ⟨h.settleOn hc _ _, _, ?_, rfl⟩
    cases r' <;> nofun

theorem Agreeing.runAll (h : Agreeing u v) (asks : List Ask) :
    Agreeing (u.runAll (asks.map .ask)) (v.runAll (asks.map .ask)) ∧
      ∃ given, (∀ o ∈ given, o.2 ≠ .waiting) ∧ given.map Prod.fst = asks ∧
        (u.runAll (asks.map .ask)).outcomes = u.outcomes ++ given := by
  induction asks generalizing u v with
  | nil => exact ⟨h, [], List.forall_mem_nil _, rfl, (List.append_nil _).symm⟩
  | cons a asks ih =>
    obtain ⟨hs, r, hr, ho⟩ := h.ask a
    obtain ⟨hrun, given, hne, hmap, hout⟩ := ih hs
    refine ⟨hrun, (a, r) :: given, ?_, by rw [List.map_cons, hmap], ?_⟩
    · exact List.forall_mem_cons.2 ⟨hr, hne⟩
    · rw [List.map_cons]
      change (runAll (u.ask a) _).outcomes = _
      rw [hout, ho, List.append_assoc, List.singleton_append]

end Usage

/-- Whatever is asked of an endpoint over a captured input, and of one over a connection that has brought
the same bytes and then ended, each request gives the same answer or the same error on both. The
endpoints, what was written, what is unread and what was noted are the same in the end; and so they are
after each request, as the list may stop there. -/
theorem memory_agrees_stream (d : Bytes) (asks : List Ask) :
    let u := (Usage.fresh ({ unread := d } : Channel.Memory)).runAll (asks.map .ask)
    let v := (Usage.fresh (({} : Channel.Stream).feed d).finish).runAll (asks.map .ask)
    (v.outcomes = u.outcomes ∧ u.outcomes.map Prod.fst = asks ∧ ∀ o ∈ u.outcomes, o.2 ≠ .waiting) ∧
      v.session.endpoint = u.session.endpoint ∧ v.session.log = u.session.log ∧
      v.session.channel.written = u.session.channel.written ∧
      v.session.channel.unread = u.session.channel.unread := by
  intro u v
  have hstart : Usage.Agreeing (Usage.fresh ({ unread := d } : Channel.Memory))
      (Usage.fresh (({} : Channel.Stream).feed d).finish) :=
    ⟨⟨rfl, ⟨rfl, rfl, rfl, rfl, rfl, rfl⟩, rfl⟩, ⟨rfl, rfl⟩, rfl⟩
  obtain ⟨h, given, hne, hmap, ho⟩ := hstart.runAll asks
  have ho : u.outcomes = given := ho
  refine ⟨⟨h.outcomes, ?_, ?_⟩, h.session.endpoint, ?_, h.session.channel.written, h.session.channel.unread⟩
  · rw [ho, hmap]
  · rwa [ho]
  · rw [Session.log, Session.log, h.session.trace]
    rfl

end Socks5
