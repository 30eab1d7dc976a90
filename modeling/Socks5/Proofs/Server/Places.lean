import Socks5.Proofs.Server.Limit

/-!
Whose places there are in the registry. A label has one place, which the newcomer takes and which is empty once
anyone of that label has left; what stands there is never out of date (`Topical`): it is the place of the
handler that was let in last under the label, and this handler has not ended (`places_runAll`). So a
server whose handlers have all ended has an empty registry, in whatever order they came and however they ended.
-/
namespace Socks5

/-- The label that the client was let in under. -/
def Client.label? : Client → Option String
  | handled h => some h.label
  | turnedAway _ _ => none

theorem Client.label?_receive (i : Incoming) (c : Client) : (c.receive i).label? = c.label? := by
  cases c <;> rfl

namespace Server

variable {s : Server} {w : Surroundings} {config : ServerConfig} {label : String} {id : Nat}

/-! ## Labels in the course of time -/

/-- Only a client that is let in brings a label. -/
theorem labels_step {i : Server.Input} (hi : ∀ a, i ≠ .connect a) :
    (s.step w i).each Client.label? = s.each Client.label? := by
  have kept : ∀ f : Handler → Handler, (∀ h, (f h).label = h.label) →
      ∀ h, Client.label? (.handled (f h).forgetful) = Client.label? (.handled h) :=
    fun f hf h => congrArg some (hf h)
  exact each_step kept Client.label?_receive hi

/-- Only a client that is let in takes a place. -/
theorem places_step {i : Server.Input} (hi : ∀ a, i ≠ .connect a) : (s.step w i).registry ⊆ s.registry := by
  refine step_of_shift (P := fun s' => s'.registry ⊆ s.registry) (fun s₁ s₂ hsub h => ?_) (fun _ h => h) hi
  cases h with
  | stays _ hr _ => exact hr ▸ hsub
  | leaves _ _ _ _ hr _ => exact hr ▸ fun e he => hsub (Registry.mem_leave.1 he).1

/-! ## The last under a label -/

/-- Each place is that of the client let in last under its label. -/
def Topical (s : Server) : Prop :=
  ∀ label id, (label, id) ∈ s.registry → ∀ j, id < j → s.each Client.label? j ≠ some label

/-- A client that is turned away has no label. -/
theorem Topical.turnAway (hs : s.Topical) (c : Channel.Stream) (o : Outcome) :
    Topical { s with clients := s.clients ++ [.turnedAway c o] } := by
  intro label id hmem j hj
  rw [each_concat]
  by_cases hjn : j = s.clients.length
  · rw [hjn, Function.update_self]
    exact nofun
  · rw [Function.update_of_ne hjn]
    exact hs label id hmem j hj

theorem Topical.connect (hs : s.Topical) (hn : (s.registry.map Prod.fst).Nodup) (a : Arrival) :
    (s.connect w a).Topical := by
  rcases connect_cases w a s with ⟨-, o, es, h⟩ | ⟨-, e, -, h⟩ | ⟨-, info, m, g, -, -, -, rfl, h⟩
  · rw [h]
    exact hs.turnAway _ _
  · rw [h]
    exact hs.turnAway _ _
  · rw [h]
    generalize hg : Handler.start m a.peer.label info { channel := a.channel } = g
    have hl : g.label = a.peer.label := by rw [← hg, Handler.label_start]
    intro label id hmem j hj
    have hent : (label, id) ∈ s.registry.enter a.peer.label s.clients.length := by
      change (label, id) ∈ if g.isEnded then Registry.leave g.label _ else _ at hmem
      split at hmem
      · exact (Registry.mem_leave.1 hmem).1
      · exact hmem
    change each Client.label? { s with clients := s.clients ++ [.handled g.forgetful] } j ≠ _
    rw [each_concat]
    rcases (Registry.mem_enter hn).1 hent with he | ⟨hold, hne⟩
    · obtain ⟨rfl, rfl⟩ := Prod.mk.inj he
      rw [Function.update_of_ne (by omega), each_of_le (by omega)]
      exact nofun
    · by_cases hjn : j = s.clients.length
      · rw [hjn, Function.update_self]
        exact fun he => hne ((Option.some.inj he).symm.trans hl)
      · rw [Function.update_of_ne hjn]
        exact hs label id hold j hj

theorem Topical.step (hs : s.Topical) (ht : s.Tidy config) (i : Server.Input) : (s.step w i).Topical := by
  by_cases hi : ∃ a, i = .connect a
  · obtain ⟨a, rfl⟩ := hi
    exact hs.connect ht.once a
  · have hi' : ∀ a, i ≠ .connect a := fun a e => hi ⟨a, e⟩
    intro label id hmem j hj
    rw [labels_step hi']
    exact hs label id (places_step hi' hmem) j hj

theorem topical_runAll (w : Surroundings) (config : ServerConfig) (steps : List Service.Step) :
    ((Service.fresh config).runAll w steps).server.Topical := by
  induction steps using List.reverseRecOn with
  | nil => exact fun _ _ h => absurd h List.not_mem_nil
  | append_singleton steps x ih =>
    rw [Service.runAll, List.foldl_concat]
    cases x with
    | client i => exact ih.step (tidy_runAll w config steps) i
    | _ => exact ih

/-! ## The places of a run -/

/-- The client's handler goes by the label and has not ended, and nobody was let in under it since. -/
structure Newest (s : Server) (label : String) (id : Nat) : Prop where
  present : ∃ h, s.clients[id]? = some (.handled h) ∧ h.label = label ∧ h.isEnded = false
  last : ∀ (j : Nat) (h : Handler), id < j → s.clients[j]? = some (.handled h) → h.label ≠ label

theorem Tidy.handled (ht : s.Tidy config) (hm : (label, id) ∈ s.registry) :
    ∃ h, s.clients[id]? = some (.handled h) ∧ h.label = label ∧ h.isEnded = false := by
  obtain ⟨h, hat, he, hl⟩ := present_eq_some.1 (ht.present label id hm)
  obtain ⟨c, hc, hh⟩ := Option.bind_eq_some_iff.1 hat
  cases c with
  | turnedAway c o => cases hh
  | handled g =>
    obtain rfl : g = h := Option.some.inj hh
    exact ⟨g, hc, hl, he⟩

theorem Tidy.newest (ht : s.Tidy config) (hs : s.Topical) (hm : (label, id) ∈ s.registry) : s.Newest label id := by
  refine ⟨ht.handled hm, fun j h hj hc hl => hs label id hm j hj ?_⟩
  rw [each, hc, ← hl]
  rfl

theorem map_some_filterMap {α β : Type} {f : α → Option β} {xs : List α}
    (h : ∀ x ∈ xs, (f x).isSome = true) :
    (xs.filterMap f).map some = xs.map f := by
  induction xs with
  | nil => rfl
  | cons x xs ih =>
    obtain ⟨hx, hxs⟩ := List.forall_mem_cons.1 h
    obtain ⟨y, hy⟩ := Option.isSome_iff_exists.1 hx
    rw [List.filterMap_cons_some hy, List.map_cons, ih hxs, List.map_cons, hy]

/-- A monitor is shown the record of each handler that has a place, and nothing else. -/
theorem Tidy.connections_map (ht : s.Tidy config) :
    s.connections.map some = s.registry.map fun e => (s.handlerAt e.2).map Handler.info := by
  refine map_some_filterMap fun e he => ?_
  obtain ⟨h, hc, -⟩ := ht.handled he
  change ((s.handlerAt e.2).map Handler.info).isSome = true
  rw [handlerAt, hc]
  rfl

/-- Whatever comes, in whatever order, and whatever fails: each place in the registry is that of the handler
let in last under its label, which has not ended, and a monitor is shown the records of these handlers. So the
registry is empty once all handlers have ended. -/
theorem places_runAll (w : Surroundings) (config : ServerConfig) (steps : List Service.Step) :
    let s := ((Service.fresh config).runAll w steps).server
    (∀ label id, (label, id) ∈ s.registry → s.Newest label id) ∧
      s.connections.map some = s.registry.map (fun e => (s.handlerAt e.2).map Handler.info) ∧
      ((∀ (id : Nat) (h : Handler), s.clients[id]? = some (.handled h) → h.isEnded = true) →
        s.registry = [] ∧ s.active = 0 ∧ s.connections = []) := by
  intro s
  have ht : s.Tidy config := tidy_runAll w config steps
  have hs : s.Topical := topical_runAll w config steps
  have newest : ∀ label id, (label, id) ∈ s.registry → s.Newest label id := fun _ _ hm => ht.newest hs hm
  refine ⟨newest, ht.connections_map, fun hended => ?_⟩
  have hempty : s.registry = [] := by
    refine List.eq_nil_iff_forall_not_mem.2 fun e he => ?_
    obtain ⟨h, hc, -, hn⟩ := (newest e.1 e.2 he).present
    rw [hended e.2 h hc] at hn
    cases hn
  refine ⟨hempty, ?_, ?_⟩
  · rw [active, hempty]
    rfl
  · rw [connections, hempty]
    rfl

end Server
end Socks5
