import Mathlib.Data.List.Induction
import Mathlib.Data.List.Perm.Subperm
import Socks5.Proofs.Server.Door

/-!
How many clients a server has at a time. It counts the places in its registry, and a label has only one
place. So a monitor sees all handlers that have not ended, and they are no more than there is room for
(`Counted`), as long as no client is let in while another handler goes by its label; once that happens
it is so no longer (`counted_iff_no_collision`).
-/
namespace Socks5.Server

variable {s s' : Server} {w : Surroundings} {config : ServerConfig} {a : Arrival}

/-! ## Handlers that have not ended -/

/-- The handlers that were let in and have not ended. -/
def serving (s : Server) : List Handler :=
  s.clients.filterMap fun c => c.handler?.filter (!·.isEnded)

/-- A monitor sees each of these handlers, and they are no more than the server has room for. -/
structure Counted (s : Server) : Prop where
  listed : s.connections.Perm (s.serving.map Handler.info)
  active : s.active = s.serving.length
  room : (s.serving.length : Int) ≤ max 0 s.config.maxConnections

/-- A client is let in while a handler goes by its label. -/
def Collides (s : Server) (a : Arrival) : Prop :=
  s.Admits a ∧ ∃ h ∈ s.serving, h.label = a.peer.label

/-- The numbers of the clients whose handlers have not ended. -/
def servingIds (s : Server) : List Nat :=
  (List.range s.clients.length).filter fun id => (s.present id).isSome

theorem mem_servingIds {id : Nat} : id ∈ s.servingIds ↔ ∃ label, s.present id = some label := by
  rw [servingIds, List.mem_filter, List.mem_range, Option.isSome_iff_exists]
  refine ⟨And.right, fun h => ⟨?_, h⟩⟩
  by_contra hlt
  obtain ⟨label, hp⟩ := h
  rw [present_of_le (by omega)] at hp
  cases hp

theorem nodup_servingIds (s : Server) : s.servingIds.Nodup := List.nodup_range.filter _

def handlerAt (s : Server) (id : Nat) : Option Handler := s.clients[id]?.bind Client.handler?

theorem present_eq_some {id : Nat} {label : String} :
    s.present id = some label ↔ ∃ h, s.handlerAt id = some h ∧ h.isEnded = false ∧ h.label = label := by
  unfold present handlerAt
  cases s.clients[id]? with
  | none => simp
  | some c =>
    cases c with
    | turnedAway c o => simp [Client.present, Client.handler?]
    | handled h => cases he : h.isEnded <;> simp [Client.present, Client.handler?, he]

theorem filterMap_range {α β : Type} (f : α → Option β) (xs : List α) :
    (List.range xs.length).filterMap (fun i => xs[i]?.bind f) = xs.filterMap f := by
  induction xs using List.reverseRecOn with
  | nil => rfl
  | append_singleton xs x ih =>
    have hfront : (List.range xs.length).filterMap (fun i => (xs ++ [x])[i]?.bind f) =
        xs.filterMap f := by
      rw [← ih]
      refine List.filterMap_congr fun i hi => ?_
      rw [List.getElem?_append_left (List.mem_range.1 hi)]
    rw [List.length_append, List.length_singleton, List.range_succ, List.filterMap_append, hfront,
      List.filterMap_append]
    simp [List.filterMap_cons]

theorem serving_eq (s : Server) : s.serving = s.servingIds.filterMap s.handlerAt := by
  rw [serving, ← filterMap_range, servingIds, List.filterMap_filter]
  refine List.filterMap_congr fun id _ => ?_
  unfold present handlerAt
  cases s.clients[id]? with
  | none => rfl
  | some c =>
    cases c with
    | turnedAway c o => rfl
    | handled h => cases he : h.isEnded <;> simp [Client.present, Client.handler?, he]

theorem mem_serving {label : String} :
    (∃ h ∈ s.serving, h.label = label) ↔ ∃ id, s.present id = some label := by
  rw [serving_eq]
  constructor
  · rintro ⟨h, hh, rfl⟩
    obtain ⟨id, hid, hat⟩ := List.mem_filterMap.1 hh
    obtain ⟨l, hl⟩ := mem_servingIds.1 hid
    obtain ⟨h', hat', -, rfl⟩ := present_eq_some.1 hl
    rw [hat, Option.some.injEq] at hat'
    subst hat'
    exact ⟨id, hl⟩
  · rintro ⟨id, hl⟩
    obtain ⟨h, hat, -, rfl⟩ := present_eq_some.1 hl
    exact ⟨h, List.mem_filterMap.2 ⟨id, mem_servingIds.2 ⟨_, hl⟩, hat⟩, rfl⟩

theorem length_serving (s : Server) : s.serving.length = s.servingIds.length := by
  rw [serving_eq, List.length_filterMap_eq_countP, List.countP_eq_length]
  intro id hid
  obtain ⟨l, hl⟩ := mem_servingIds.1 hid
  obtain ⟨h, hat, -⟩ := present_eq_some.1 hl
  rw [hat]
  rfl

theorem connections_eq (s : Server) :
    s.connections = ((s.registry.map Prod.snd).filterMap s.handlerAt).map Handler.info := by
  rw [connections, List.filterMap_map, List.map_filterMap]
  rfl

/-! ## Counting -/

theorem Tidy.subperm (ht : s.Tidy config) : (s.registry.map Prod.snd).Subperm s.servingIds := by
  refine List.Nodup.subperm ?_ ?_
  · refine (List.nodup_map_iff_inj_on (List.Nodup.of_map _ ht.once)).2 ?_
    rintro ⟨l, i⟩ h ⟨l', j⟩ h' rfl
    have hl := ht.present l i h
    rw [ht.present l' i h', Option.some.injEq] at hl
    rw [hl]
  · intro id hid
    obtain ⟨⟨l, i⟩, h, rfl⟩ := List.mem_map.1 hid
    exact mem_servingIds.2 ⟨l, ht.present l i h⟩

theorem Tidy.complete_iff (ht : s.Tidy config) :
    s.Complete ↔ (s.registry.map Prod.snd).Perm s.servingIds := by
  constructor
  · intro hc
    refine ht.subperm.perm_of_length_le ?_
    refine (List.Nodup.subperm s.nodup_servingIds fun id hid => ?_).length_le
    obtain ⟨l, hl⟩ := mem_servingIds.1 hid
    exact List.mem_map.2 ⟨(l, id), hc id l hl, rfl⟩
  · intro hp id l hl
    have hid := hp.mem_iff.2 (mem_servingIds.2 ⟨l, hl⟩)
    obtain ⟨⟨l', i⟩, h, rfl⟩ := List.mem_map.1 hid
    have hl' := ht.present l' i h
    rw [hl, Option.some.injEq] at hl'
    rw [hl']
    exact h

/-- The count of the registry is right if and only if each handler has its own place in it. -/
theorem Tidy.counted_iff (ht : s.Tidy config) : s.Counted ↔ s.Complete := by
  constructor
  · intro h
    refine ht.complete_iff.2 (ht.subperm.perm_of_length_le ?_)
    rw [← length_serving, ← h.active, List.length_map]
    exact Nat.le_refl _
  · intro h
    have hp := ht.complete_iff.1 h
    have ha : s.active = s.serving.length := by
      rw [length_serving, ← hp.length_eq, List.length_map, active]
    refine ⟨?_, ha, ?_⟩
    · rw [connections_eq, serving_eq]
      exact (hp.filterMap _).map _
    · rw [← ha, ht.config_eq]
      exact ht.room

/-! ## Collisions -/

theorem Complete.shift (hc : s.Complete) (ht : s.Tidy config) (h : s.Shift s') : s'.Complete := by
  intro j l hj
  cases h with
  | stays _ hr hp =>
    rw [hp] at hj
    rw [hr]
    exact hc j l hj
  | leaves id label _ h hr hp =>
    have hne : j ≠ id := by
      rintro rfl
      rw [hp, Function.update_self] at hj
      cases hj
    rw [hp, Function.update_of_ne hne] at hj
    rw [hr, Registry.mem_leave]
    refine ⟨hc j l hj, ?_⟩
    -- The label has one place, and that was the place of the handler that left.
    rintro rfl
    have he := List.inj_on_of_nodup_map ht.once (hc j _ hj) (hc id _ h) rfl
    exact hne (Prod.mk.inj he).2

/-- If no other handler goes by its label, a client takes nobody's place. -/
theorem Complete.entry (hc : s.Complete) (ht : s.Tidy config) (hn : ¬ s.Collides a)
    (h : s.Entry a s') : s'.Complete := by
  have hfree : s.Admits a → ∀ j l, s.present j = some l → l ≠ a.peer.label := by
    rintro ha j l hj rfl
    exact hn ⟨ha, mem_serving.2 ⟨j, hj⟩⟩
  intro j l hj
  cases h with
  | refused _ _ hr hp =>
    rw [hp] at hj
    rw [hr]
    exact hc j l hj
  | stays ha _ hr hp =>
    rw [hr, Registry.mem_enter ht.once]
    by_cases hjn : j = s.clients.length
    · subst hjn
      rw [hp, Function.update_self, Option.some.injEq] at hj
      subst hj
      exact .inl rfl
    · rw [hp, Function.update_of_ne hjn] at hj
      exact .inr ⟨hc j l hj, hfree ha j l hj⟩
  | leaves ha _ hr hp =>
    rw [hp] at hj
    rw [hr, Registry.leave_enter, Registry.mem_leave]
    exact ⟨hc j l hj, hfree ha j l hj⟩

/-- The handler that went by the label of the newcomer has no place any more. -/
theorem Collides.not_complete (ht : s.Tidy config) (hcol : s.Collides a) (h : s.Entry a s') :
    ¬ s'.Complete := by
  obtain ⟨ha, hs⟩ := hcol
  obtain ⟨id, hid⟩ := mem_serving.1 hs
  have hne : id ≠ s.clients.length := by
    rintro rfl
    rw [present_of_le (Nat.le_refl _)] at hid
    cases hid
  intro hc
  cases h with
  | refused hn => exact hn ha
  | stays _ _ hr hp =>
    have hm := hc id a.peer.label (by rw [hp, Function.update_of_ne hne, hid])
    rw [hr, Registry.mem_enter ht.once] at hm
    rcases hm with hm | hm
    · exact hne (Prod.mk.inj hm).2
    · exact hm.2 rfl
  | leaves _ _ hr hp =>
    have hm := hc id a.peer.label (by rw [hp, hid])
    rw [hr, Registry.leave_enter, Registry.mem_leave] at hm
    exact hm.2 rfl

/-! ## Runs -/

theorem Complete.step (hc : s.Complete) (ht : s.Tidy config) {i : Server.Input}
    (hn : ∀ a, i = .connect a → ¬ s.Collides a) : (s.step w i).Complete := by
  by_cases hi : ∃ a, i = .connect a
  · obtain ⟨a, rfl⟩ := hi
    exact hc.entry ht (hn a rfl) (entry_connect w a s)
  · have hP : ∀ s s' : Server, s.Tidy config ∧ s.Complete → s.Shift s' → s'.Tidy config ∧ s'.Complete :=
      fun s s' h hs => ⟨h.1.shift hs, h.2.shift h.1 hs⟩
    exact (step_of_shift hP ⟨ht, hc⟩ fun a e => hi ⟨a, e⟩).2

theorem complete_runAll (w : Surroundings) (config : ServerConfig) (steps : List Service.Step)
    (hn : ∀ pre a, pre ++ [.client (.connect a)] <+: steps →
      ¬ ((Service.fresh config).runAll w pre).server.Collides a) :
    ((Service.fresh config).runAll w steps).server.Complete := by
  induction steps using List.reverseRecOn with
  | nil =>
    intro id label h
    cases h
  | append_singleton steps x ih =>
    have ht := tidy_runAll w config steps
    have hc := ih fun pre a h => hn pre a (h.trans (List.prefix_append steps [x]))
    rw [Service.runAll, List.foldl_concat]
    cases x with
    | client i =>
      refine hc.step ht fun a e => ?_
      rw [e] at hn
      exact hn steps a (List.prefix_refl _)
    | start o => exact hc
    | stop => exact hc
    | serve o => exact hc

/-- Whatever comes, in whatever order: the server has counted its handlers right at all times if and
only if it never let a client in while another handler went by the client's label. -/
theorem counted_iff_no_collision (w : Surroundings) (config : ServerConfig)
    (steps : List Service.Step) :
    (∀ pre, pre <+: steps → ((Service.fresh config).runAll w pre).server.Counted) ↔
      ∀ pre a, pre ++ [.client (.connect a)] <+: steps →
        ¬ ((Service.fresh config).runAll w pre).server.Collides a := by
  constructor
  · intro h pre a hpre hcol
    have hc := (tidy_runAll w config _).counted_iff.1 (h _ hpre)
    rw [Service.runAll, List.foldl_concat] at hc
    exact hcol.not_complete (tidy_runAll w config pre) (entry_connect w a _) hc
  · intro h pre hpre
    refine (tidy_runAll w config pre).counted_iff.2 (complete_runAll w config pre ?_)
    exact fun pre' a hpre' => h pre' a (hpre'.trans hpre)

/-- Clients of whom nothing is known all go by one label. -/
def strangers : List Service.Step := List.replicate 3 (.client (.connect {}))

/-- There is room for two, yet all three are served, and the server counts one. -/
theorem strangers_uncounted :
    let s := ((Service.fresh { maxConnections := 2 }).runAll { network := fun _ _ => .hangs } strangers).server
    s.active = 1 ∧ s.serving.length = 3 ∧ ¬ s.Counted := by
  refine ⟨rfl, rfl, fun h => ?_⟩
  have ha := h.active
  have hthree : (1 : Nat) = 3 := ha
  omega

end Socks5.Server
