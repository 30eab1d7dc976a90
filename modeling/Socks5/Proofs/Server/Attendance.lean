import Socks5.Proofs.Server.Isolation

/-!
A client that has come. It comes only once, so a step is a later turn of it or nothing to it
(`View.Next`, `Service.next_step`). Whoever has a handler after a step has just come or had one before
(`Service.handled_step`); so in every run each handler has told of what it did and is at rest
(`Service.acquainted_runAll`). To a handler that has ended nothing more happens (`Service.over_runAll`).
-/
namespace Socks5

/-! ## Turns -/

/-- Any turn but that in which the client comes. -/
def Turn.IsLater (t : Turn) : Prop := ∀ a, t ≠ .come a

theorem isLater_of_turn? {id came : Nat} {name : String} {x : Service.Step} {t : Turn} (hid : id < came)
    (ht : x.turn? id name came = some t) : t.IsLater := by
  rintro a rfl
  have hne : came ≠ id := by omega
  cases x with
  | client i => cases i <;> simp [Service.Step.turn?, hne] at ht
  | _ => cases ht

theorem goesBy_of_isLater {name : String} {ts : List Turn} (h : ∀ t ∈ ts, t.IsLater) : GoesBy name ts :=
  fun a _ ha _ => absurd rfl (h _ ha a)

/-! ## Views -/

/-- What a handler that has ended is left with, whatever arrives. -/
structure Handler.Over (h g : Handler) : Prop where
  ended : g.isEnded = true
  info : g.info = h.info
  closed : g.client.closed = h.client.closed
  written : g.client.written = h.client.written

theorem Handler.Over.refl {h : Handler} (he : h.isEnded = true) : h.Over h := ⟨he, rfl, rfl, rfl⟩

theorem Handler.Over.trans {h g g' : Handler} (hg : h.Over g) (hg' : g.Over g') : h.Over g' :=
  ⟨hg'.ended, hg'.info.trans hg.info, hg'.closed.trans hg.closed, hg'.written.trans hg.written⟩

namespace View

variable {w : Surroundings} {name : String} {v v' : View} {t : Turn}

/-- A view as it is after a later turn, or as it was. -/
def Next (w : Surroundings) (name : String) (v v' : View) : Prop :=
  v' = v ∨ ∃ t : Turn, t.IsLater ∧ v' = v.step w name t

theorem Known.next (hk : v.Known name) (hn : v.Next w name v') : v'.Known name := by
  rcases hn with rfl | ⟨t, ht, rfl⟩
  · exact hk
  · exact hk.step w (goesBy_of_isLater (by simpa using ht))

/-- Whoever was turned away stays so. -/
theorem Next.turnedAway {c : Channel.Stream} {o : Outcome} (hn : v.Next w name v')
    (hv : v.client = some (.turnedAway c o)) : ∃ c', v'.client = some (.turnedAway c' o) := by
  rcases hn with rfl | ⟨t, ht, rfl⟩
  · exact ⟨c, hv⟩
  · cases t with
    | come a => exact absurd rfl (ht a)
    | receive i => exact ⟨i.apply c, by simp [step, resume, run, hv, Client.receive, Client.handler?]⟩
    | release held => exact ⟨c, by simp [step, resume, run, hv, Client.handler?]⟩
    | pass span => exact ⟨c, by simp [step, isDue, timer?, hv, Client.handler?]⟩

theorem run_of_isEnded {h : Handler} (f : Handler → Handler) (hv : v.client = some (.handled h))
    (he : h.isEnded = true) : v.run f = v := by
  rw [run, hv]
  simp [Client.handler?, he]

/-- A handler that has ended does nothing more. -/
theorem Next.over {h : Handler} (hn : v.Next w name v') (hv : v.client = some (.handled h))
    (he : h.isEnded = true) :
    ∃ g, v'.client = some (.handled g) ∧ h.Over g ∧ v'.history = v.history := by
  rcases hn with rfl | ⟨t, ht, rfl⟩
  · exact ⟨h, hv, .refl he, rfl⟩
  · cases t with
    | come a => exact absurd rfl (ht a)
    | receive i =>
      generalize hg : ({ h with session := { h.session with channel := i.apply h.client } } : Handler) = g
      have hover : h.Over g := by
        rw [← hg]
        cases i <;> exact ⟨he, rfl, rfl, rfl⟩
      have hclient : v.client.map (Client.receive i) = some (.handled g) := by
        rw [hv, ← hg]
        rfl
      have hstep : v.step w name (.receive i) = { v with client := v.client.map (Client.receive i) } :=
        run_of_isEnded _ hclient hover.ended
      rw [hstep]
      exact ⟨g, hclient, hover, rfl⟩
    | release held =>
      have hstep : v.step w name (.release held) = { v with released := v.released.insert (held, name) } :=
        run_of_isEnded _ hv he
      rw [hstep]
      exact ⟨h, hv, .refl he, rfl⟩
    | pass span =>
      have hrun := run_of_isEnded (v := { v with now := v.now + span }) Handler.expire hv he
      have hstep : v.step w name (.pass span) = { v with now := v.now + span } := by
        unfold step
        dsimp only
        split
        · exact hrun
        · rfl
      rw [hstep]
      exact ⟨h, hv, .refl he, rfl⟩

end View

namespace Service

variable {w : Surroundings} {id : Nat} {name : String} {s : Service} {x : Service.Step}

/-! ## Steps and runs -/

theorem runAll_append (w : Surroundings) (s : Service) (xs ys : List Service.Step) :
    s.runAll w (xs ++ ys) = (s.runAll w xs).runAll w ys := List.foldl_append

theorem runAll_concat (w : Surroundings) (s : Service) (xs : List Service.Step) (x : Service.Step) :
    s.runAll w (xs ++ [x]) = (s.runAll w xs).step w x := runAll_append w s xs [x]

theorem length_step (w : Surroundings) (s : Service) (x : Service.Step) :
    (s.step w x).server.clients.length = s.server.clients.length + x.arrivals := by
  cases x with
  | client i => exact Server.length_step w s.server i
  | _ => rfl

/-- A client that has come does not come again. -/
theorem view_step_of_lt (x : Service.Step) (hid : id < s.server.clients.length)
    (hk : (s.server.view id name).Known name) :
    (s.step w x).server.view id name =
      (x.turn? id name s.server.clients.length).toList.foldl (View.step w name) (s.server.view id name) := by
  refine view_step hk (fun a _ he => absurd he (by omega)) (goesBy_of_isLater fun t ht => ?_)
  exact isLater_of_turn? hid (Option.mem_toList.1 ht)

theorem next_step (x : Service.Step) (hid : id < s.server.clients.length)
    (hk : (s.server.view id name).Known name) :
    (s.server.view id name).Next w name ((s.step w x).server.view id name) := by
  have hv := view_step_of_lt (w := w) x hid hk
  cases ht : x.turn? id name s.server.clients.length with
  | none =>
    rw [ht] at hv
    exact .inl hv
  | some t =>
    rw [ht] at hv
    exact .inr ⟨t, isLater_of_turn? hid ht, hv⟩

/-! ## Handlers that are there -/

/-- The handler of every client that is there is known. -/
def Acquainted (s : Service) : Prop :=
  ∀ id h, s.server.clients[id]? = some (.handled h) →
    (s.server.view id h.info.client).Known h.info.client

/-- A handler that is there after a step is that of a client that came with it, or it was there before. -/
theorem handled_step {h' : Handler} (hs : s.Acquainted)
    (hc : (s.step w x).server.clients[id]? = some (.handled h')) :
    (∃ a info, x = .client (.connect a) ∧ s.server.clients.length = id ∧ a.peer.info = .ok info ∧
      info.client = h'.info.client ∧ (s.step w x).server.view id h'.info.client =
        (s.server.view id h'.info.client).come w a) ∨
      ∃ h, s.server.clients[id]? = some (.handled h) ∧ h.info.client = h'.info.client ∧
        (s.server.view id h.info.client).Next w h.info.client
          ((s.step w x).server.view id h.info.client) := by
  rcases Nat.lt_or_ge id s.server.clients.length with hlt | hge
  · refine .inr ?_
    obtain ⟨c, hold⟩ : ∃ c, s.server.clients[id]? = some c := ⟨_, List.getElem?_eq_getElem hlt⟩
    cases c with
    | turnedAway c o =>
      have hk : (s.server.view id h'.info.client).Known h'.info.client := by
        constructor <;> intro h hh <;> rw [show (View.client _) = _ from hold] at hh <;> cases hh
      obtain ⟨c', hc'⟩ := (next_step (w := w) x hlt hk).turnedAway hold
      rw [show (View.client _) = _ from hc] at hc'
      cases hc'
    | handled h =>
      have hn := next_step (w := w) x hlt (hs id h hold)
      exact ⟨h, hold, (((hs id h hold).next hn).named h' hc).2.symm, hn⟩
  · -- Only a step that a client comes with adds a handler.
    have hlen := (List.getElem?_eq_some_iff.1 hc).1
    rw [length_step] at hlen
    obtain ⟨a, rfl⟩ : ∃ a, x = .client (.connect a) := by
      cases x with
      | client i => cases i <;> first | exact ⟨_, rfl⟩ | exact absurd hlen (Nat.not_lt.2 hge)
      | _ => exact absurd hlen (Nat.not_lt.2 hge)
    obtain rfl : s.server.clients.length = id := Nat.le_antisymm hge (Nat.lt_succ_iff.1 hlen)
    change (s.server.connect w a).clients[s.server.clients.length]? = _ at hc
    refine .inl ?_
    rcases Server.connect_cases w a s.server with
      ⟨-, o, es, h⟩ | ⟨-, e, -, h⟩ | ⟨hroom, info, m, g, hi, -, -, hg, h⟩
    · simp [h, Server.turnAway, Server.note] at hc
    · simp [h, Server.turnAway, Server.note] at hc
    · obtain rfl : g.forgetful = h' := by
        simpa [h, Server.withHandler, Server.absorb, Server.note] using hc
      have hn : info.client = g.info.client := by
        rw [hg]
        exact (Handler.rests_start m a.peer.label info rfl).client.symm
      refine ⟨a, info, rfl, rfl, hi, hn, Server.view_connect_self rfl w hroom fun i hi' => ?_⟩
      rw [hi] at hi'
      cases hi'
      exact hn

theorem acquainted_step (hs : s.Acquainted) (x : Service.Step) : (s.step w x).Acquainted := by
  intro id h' hc
  rcases handled_step hs hc with ⟨a, info, -, -, hi, hn, hv⟩ | ⟨h, hold, hn, hnext⟩
  · rw [hv]
    refine View.known_come w (fun i hi' => ?_) _
    rw [hi] at hi'
    cases hi'
    exact hn
  · rw [← hn]
    exact (hs id h hold).next hnext

/-- In every run, whoever comes and whatever the clients do. -/
theorem acquainted_runAll (w : Surroundings) (config : ServerConfig) (steps : List Service.Step) :
    ((Service.fresh config).runAll w steps).Acquainted := by
  refine List.foldlRecOn (motive := Acquainted) steps _ ?_ fun s hs x _ => acquainted_step hs x
  intro id h hc
  cases hc

/-! ## Handlers that have ended -/

/-- Whatever comes later, a handler that has ended is left as it is. -/
theorem over_runAll {h : Handler} (hs : s.Acquainted) (hc : s.server.clients[id]? = some (.handled h))
    (he : h.isEnded = true) (steps : List Service.Step) :
    ∃ g, (s.runAll w steps).server.clients[id]? = some (.handled g) ∧ h.Over g ∧
      ledger ((s.runAll w steps).server.historyOf id) = ledger (s.server.historyOf id) := by
  induction steps generalizing s h with
  | nil => exact ⟨h, hc, .refl he, rfl⟩
  | cons x steps ih =>
    have hlt : id < s.server.clients.length := (List.getElem?_eq_some_iff.1 hc).1
    obtain ⟨g, hg, hover, hhist⟩ := (next_step (w := w) x hlt (hs id h hc)).over hc he
    obtain ⟨g', hg', hover', hledger⟩ := ih (acquainted_step hs x) hg hover.ended
    refine ⟨g', hg', hover.trans hover', hledger.trans ?_⟩
    rw [← ledger_unnumbered, ← ledger_unnumbered (s.server.historyOf id)]
    exact congrArg ledger hhist

end Service
end Socks5
