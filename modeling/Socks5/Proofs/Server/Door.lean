import Mathlib.Data.List.Nodup
import Mathlib.Logic.Function.Basic
import Socks5.Proofs.Server.Clients
import Socks5.Proofs.Server.Rest

/-!
Who is at the door: the registry of a server against the handlers that have not ended. A handler keeps
its label while it runs, so a step either leaves both as they are, or lets a handler leave under its
label, or lets a client in (`Shift`, `Entry`). The registry never tells of a handler that is not there
(`Tidy`); that it tells of all of them (`Complete`) is another matter, since a label stands only once.
-/
namespace Socks5

/-! ## Labels -/

namespace Handler

@[simp] theorem label_start (m : Moment) (label : String) (info : ConnectionInfo) (c : Channel.Stream) :
    (start m label info { channel := c }).label = label :=
  (rests_start m label info rfl).label

@[simp] theorem label_resume (m : Moment) (h : Handler) : (resume m h).label = h.label := by
  cases hn : h.isEnded with
  | true => rw [resume_of_isEnded hn]
  | false => exact (rests_resume m hn).label

@[simp] theorem label_expire (h : Handler) : (expire h).label = h.label := by
  rcases @rests_expire [] h with he | he
  · rw [he]
  · exact he.label

end Handler

/-! ## Presence -/

/-- The label of the client's handler, unless it has none or that has ended. -/
def Client.present : Client → Option String
  | handled h => if h.isEnded then none else some h.label
  | turnedAway _ _ => none

theorem Client.present_ended {h : Handler} (he : h.isEnded = true) :
    (handled h.forgetful).present = none := if_pos he

theorem Client.present_going {h : Handler} (he : h.isEnded = false) :
    (handled h.forgetful).present = some h.label := if_neg (Bool.eq_false_iff.1 he)

@[simp] theorem Client.present_receive (i : Incoming) (c : Client) : (c.receive i).present = c.present := by
  cases c <;> rfl

namespace Server

variable {α : Type} {g : Client → Option α} {s s' : Server} {w : Surroundings}

/-- What there is to tell of the client with a number. -/
def each (g : Client → Option α) (s : Server) (id : Nat) : Option α := s.clients[id]?.bind g

theorem each_of_le {id : Nat} (h : s.clients.length ≤ id) : s.each g id = none := by
  rw [each, List.getElem?_eq_none h]
  rfl

theorem each_set {id : Nat} (h : id < s.clients.length) (c : Client) :
    each g { s with clients := s.clients.set id c } = Function.update (s.each g) id (g c) := by
  funext j
  by_cases hj : j = id
  · subst hj
    simp [each, h]
  · have hj' : id ≠ j := fun e => hj e.symm
    simp [each, hj, hj']

theorem each_concat (s : Server) (c : Client) :
    each g { s with clients := s.clients ++ [c] } = Function.update (s.each g) s.clients.length (g c) := by
  funext j
  rcases Nat.lt_trichotomy j s.clients.length with hlt | rfl | hgt
  · have hne : j ≠ s.clients.length := by omega
    simp [each, List.getElem?_append_left hlt, hne]
  · simp [each]
  · have hne : j ≠ s.clients.length := by omega
    have hle : (s.clients ++ [c]).length ≤ j := by simp; omega
    rw [Function.update_of_ne hne, each_of_le (s := s) (by omega)]
    exact each_of_le hle

theorem each_modify (hg : ∀ i c, g (c.receive i) = g c) (s : Server) (id : Nat) (i : Incoming) :
    each g { s with clients := s.clients.modify id (Client.receive i) } = s.each g := by
  funext j
  simp only [each, List.getElem?_modify]
  cases s.clients[j]? with
  | none => rfl
  | some c => by_cases h : id = j <;> simp [h, hg]

def present (s : Server) (id : Nat) : Option String := s.clients[id]?.bind Client.present

theorem present_of_le {id : Nat} (h : s.clients.length ≤ id) : s.present id = none := each_of_le h

theorem present_set {id : Nat} (h : id < s.clients.length) (c : Client) :
    present { s with clients := s.clients.set id c } = Function.update s.present id c.present :=
  each_set h c

theorem present_concat (s : Server) (c : Client) :
    present { s with clients := s.clients ++ [c] } =
      Function.update s.present s.clients.length c.present := each_concat s c

/-! ## What a step does at the door -/

/-- Nobody comes or leaves, or one handler leaves under its label. -/
inductive Shift (s : Server) : Server → Prop
  | stays {s' : Server} (hc : s'.config = s.config) (hr : s'.registry = s.registry)
    (hp : s'.present = s.present) : Shift s s'
  | leaves {s' : Server} (id : Nat) (label : String) (hc : s'.config = s.config)
    (h : s.present id = some label) (hr : s'.registry = s.registry.leave label)
    (hp : s'.present = Function.update s.present id none) : Shift s s'

/-- There is room for a client, and its address makes a record. -/
def Admits (s : Server) (a : Arrival) : Prop :=
  s.active < s.config.maxConnections ∧ ∃ info, a.peer.info = .ok info

/-- A client is turned away, or it is let in, and then its handler may end at once. -/
inductive Entry (a : Arrival) (s : Server) : Server → Prop
  | refused {s' : Server} (hn : ¬ s.Admits a) (hc : s'.config = s.config)
    (hr : s'.registry = s.registry) (hp : s'.present = s.present) : Entry a s s'
  | stays {s' : Server} (ha : s.Admits a) (hc : s'.config = s.config)
    (hr : s'.registry = s.registry.enter a.peer.label s.clients.length)
    (hp : s'.present = Function.update s.present s.clients.length (some a.peer.label)) : Entry a s s'
  | leaves {s' : Server} (ha : s.Admits a) (hc : s'.config = s.config)
    (hr : s'.registry = (s.registry.enter a.peer.label s.clients.length).leave a.peer.label)
    (hp : s'.present = s.present) : Entry a s s'

theorem shift_run (id : Nat) {f : Handler → Handler} (hf : ∀ h, (f h).label = h.label) (s : Server) :
    s.Shift (s.run id f) := by
  rcases run_cases id f s with h | ⟨h, hc, hn, hrun⟩
  · rw [h]
    exact .stays rfl rfl rfl
  · rw [hrun]
    have hlt : id < s.clients.length := (List.getElem?_eq_some_iff.1 hc).1
    have hp := present_set hlt (.handled (f h).forgetful)
    have hat : s.present id = some h.label := by simp [present, hc, Client.present, hn]
    cases he : (f h).isEnded with
    | true =>
      refine .leaves id h.label rfl hat (by simp [absorb, he, hf]) ?_
      rw [Client.present_ended he] at hp
      exact hp
    | false =>
      refine .stays rfl (by simp [absorb, he]) ?_
      rw [Client.present_going he, hf h, ← hat, Function.update_eq_self] at hp
      exact hp

theorem entry_connect (w : Surroundings) (a : Arrival) (s : Server) : s.Entry a (s.connect w a) := by
  have haway : ∀ c o, present { s with clients := s.clients ++ [.turnedAway c o] } = s.present := by
    intro c o
    rw [present_concat]
    have hn : s.present s.clients.length = none := present_of_le (Nat.le_refl _)
    exact Function.update_eq_self_iff.2 hn.symm
  rcases connect_cases w a s with ⟨hm, o, es, h⟩ | ⟨-, e, hi, h⟩ | ⟨hm, info, m, g, hi, -, -, rfl, h⟩
  · rw [h]
    refine .refused (fun ha => ?_) rfl rfl (haway _ o)
    exact absurd ha.1 (Int.not_lt.2 hm)
  · rw [h]
    refine .refused ?_ rfl rfl (haway _ _)
    rintro ⟨-, info, hi'⟩
    rw [hi] at hi'
    cases hi'
  · rw [h]
    have ha : s.Admits a := ⟨hm, info, hi⟩
    generalize hg : Handler.start m a.peer.label info { channel := a.channel } = g
    have hl : g.label = a.peer.label := by rw [← hg, Handler.label_start]
    have hp := present_concat s (.handled g.forgetful)
    cases he : g.isEnded with
    | true =>
      refine .leaves ha rfl (by simp [withHandler, absorb, note, he, hl]) ?_
      have hn : s.present s.clients.length = none := present_of_le (Nat.le_refl _)
      rw [Client.present_ended he] at hp
      exact hp.trans (Function.update_eq_self_iff.2 hn.symm)
    | false =>
      refine .stays ha rfl (by simp [withHandler, absorb, note, he]) ?_
      rw [Client.present_going he, hl] at hp
      exact hp

/-- What is kept whenever a handler does something, something arrives, a client is released or time passes,
each step keeps that is not a connect. -/
theorem step_of_runs {P : Server → Prop}
    (runs : ∀ s id (f : Handler → Handler), (∀ h, (f h).label = h.label) → P s → P (s.run id f))
    (receives : ∀ s id i, P s → P { s with clients := s.clients.modify id (Client.receive i) })
    (releases : ∀ s r, P s → P { s with released := r }) (passes : ∀ s t, P s → P { s with now := t })
    (hs : P s) {i : Server.Input} (hi : ∀ a, i ≠ .connect a) : P (s.step w i) := by
  have hresume : ∀ s id, P s → P (s.resume w id) := fun s id h => runs s id _ (Handler.label_resume _) h
  cases i with
  | connect a => exact absurd rfl (hi a)
  | receive id i => exact hresume _ id (receives s id i hs)
  | release client =>
    exact List.foldlRecOn (motive := P) _ _ (releases s _ hs) fun s h id _ => hresume s id h
  | advance span =>
    refine List.foldlRecOn (motive := P) _ _ (passes s _ hs) fun s h t _ => ?_
    exact runs s t.2 _ Handler.label_expire h

/-- What no handler changes by what it does, and nothing that arrives, changes only with a connect. -/
theorem each_step (hf : ∀ f : Handler → Handler, (∀ h, (f h).label = h.label) →
      ∀ h, g (.handled (f h).forgetful) = g (.handled h))
    (hr : ∀ i c, g (c.receive i) = g c) {i : Server.Input} (hi : ∀ a, i ≠ .connect a) :
    (s.step w i).each g = s.each g := by
  refine step_of_runs (P := fun s' => s'.each g = s.each g) (fun s' id f hl h => ?_)
    (fun s' id i h => (each_modify hr s' id i).trans h) (fun _ _ h => h) (fun _ _ h => h) rfl hi
  rcases run_cases id f s' with he | ⟨k, hc, -, he⟩
  · rwa [he]
  · have hlt : id < s'.clients.length := (List.getElem?_eq_some_iff.1 hc).1
    have hold : s'.each g id = g (.handled k) := by
      rw [each, hc]
      rfl
    rw [he]
    refine (each_set hlt _).trans ?_
    rw [hf f hl, ← hold, Function.update_eq_self, h]

/-- What every shift keeps, each step keeps that is not a connect. -/
theorem step_of_shift {P : Server → Prop} (hP : ∀ s s', P s → s.Shift s' → P s') (hs : P s)
    {i : Server.Input} (hi : ∀ a, i ≠ .connect a) : P (s.step w i) := by
  refine step_of_runs (fun s id f hf h => hP s _ h (shift_run id hf s)) (fun s id i h => hP s _ h ?_)
    (fun s r h => hP s _ h (.stays rfl rfl rfl)) (fun s t h => hP s _ h (.stays rfl rfl rfl)) hs hi
  exact .stays rfl rfl (each_modify Client.present_receive s id i)

end Server

/-! ## The registry -/

namespace Registry

variable {r : Registry} {label : String} {id : Nat}

theorem keys_enter (label : String) (id : Nat) (r : Registry) :
    (r.enter label id).map Prod.fst =
      if label ∈ r.map Prod.fst then r.map Prod.fst else r.map Prod.fst ++ [label] := by
  induction r with
  | nil => simp [enter]
  | cons e r ih =>
    by_cases h : e.1 = label
    · simp [enter, h]
    · have h' : label ≠ e.1 := fun e => h e.symm
      by_cases hm : label ∈ r.map Prod.fst
      · rw [if_pos hm] at ih
        simp [enter, h, ih, hm]
      · rw [if_neg hm] at ih
        simp only [enter, h, ↓reduceIte, List.map_cons, ih, List.mem_cons, h', hm, or_self,
          List.cons_append]

theorem nodup_enter (h : (r.map Prod.fst).Nodup) : ((r.enter label id).map Prod.fst).Nodup := by
  rw [keys_enter]
  split
  · exact h
  · next hm => exact List.Nodup.append h (List.nodup_singleton label) (by simpa using hm)

theorem nodup_leave (h : (r.map Prod.fst).Nodup) : ((r.leave label).map Prod.fst).Nodup :=
  h.sublist ((List.filter_sublist).map Prod.fst)

theorem leave_enter (label : String) (id : Nat) (r : Registry) :
    (r.enter label id).leave label = r.leave label := by
  induction r with
  | nil => simp [enter, leave]
  | cons e r ih =>
    by_cases h : e.1 = label
    · simp [enter, leave, h]
    · simpa [enter, leave, h] using ih

/-- Whoever enters takes the place of the label, and the other places stay as they are. -/
theorem mem_enter (h : (r.map Prod.fst).Nodup) {e : String × Nat} :
    e ∈ r.enter label id ↔ e = (label, id) ∨ e ∈ r ∧ e.1 ≠ label := by
  constructor
  · intro he
    by_cases hl : e.1 = label
    · refine .inl ?_
      -- Both this place and the newcomer's are places of the label.
      have hk : ((r.enter label id).map Prod.fst).Nodup := nodup_enter h
      exact List.inj_on_of_nodup_map hk he (mem_enter_self label id r) hl
    · exact (mem_of_mem_enter he).imp_right fun he => ⟨he, hl⟩
  · rintro (rfl | ⟨he, hl⟩)
    · exact mem_enter_self label id r
    · have hm : e ∈ (r.enter label id).leave label := by
        rw [leave_enter]
        exact mem_leave.2 ⟨he, hl⟩
      exact (mem_leave.1 hm).1

end Registry

/-! ## What the registry tells -/

namespace Server

variable {s s' : Server} {w : Surroundings} {config : ServerConfig} {a : Arrival}

/-- Each place in the registry is that of a handler that goes by its label and has not ended. -/
structure Tidy (config : ServerConfig) (s : Server) : Prop where
  config_eq : s.config = config
  once : (s.registry.map Prod.fst).Nodup
  present : ∀ label id, (label, id) ∈ s.registry → s.present id = some label
  room : (s.active : Int) ≤ max 0 config.maxConnections

/-- Each handler that has not ended has its own place in the registry. -/
def Complete (s : Server) : Prop := ∀ id label, s.present id = some label → (label, id) ∈ s.registry

theorem Tidy.shift (hs : s.Tidy config) (h : s.Shift s') : s'.Tidy config := by
  cases h with
  | stays hc hr hp =>
    refine ⟨hc.trans hs.config_eq, hr ▸ hs.once, ?_, ?_⟩
    · rw [hr, hp]
      exact hs.present
    · rw [Server.active, hr]
      exact hs.room
  | leaves id label hc h hr hp =>
    refine ⟨hc.trans hs.config_eq, hr ▸ Registry.nodup_leave hs.once, ?_, ?_⟩
    · intro l j hj
      rw [hr, Registry.mem_leave] at hj
      have hl := hs.present l j hj.1
      have hne : j ≠ id := by
        rintro rfl
        rw [h, Option.some.injEq] at hl
        exact hj.2 hl.symm
      rw [hp, Function.update_of_ne hne]
      exact hl
    · have hle := Registry.length_leave_le label s.registry
      have hroom := hs.room
      rw [Server.active] at hroom ⊢
      rw [hr]
      omega

theorem Tidy.entry (hs : s.Tidy config) (h : s.Entry a s') : s'.Tidy config := by
  have hfree : ∀ l j, (l, j) ∈ s.registry → j ≠ s.clients.length := by
    rintro l j hj rfl
    have hl := hs.present l _ hj
    rw [present_of_le (Nat.le_refl _)] at hl
    cases hl
  have hroom := hs.room
  cases h with
  | refused hn hc hr hp =>
    refine hs.shift (.stays hc hr hp)
  | stays ha hc hr hp =>
    refine ⟨hc.trans hs.config_eq, hr ▸ Registry.nodup_enter hs.once, ?_, ?_⟩
    · intro l j hj
      rw [hr, Registry.mem_enter hs.once, Prod.mk.injEq] at hj
      rcases hj with ⟨rfl, rfl⟩ | ⟨hj, -⟩
      · rw [hp, Function.update_self]
      · rw [hp, Function.update_of_ne (hfree l j hj)]
        exact hs.present l j hj
    · have hle := Registry.length_enter_le a.peer.label s.clients.length s.registry
      have hlt := ha.1
      rw [hs.config_eq] at hlt
      rw [Server.active] at hlt ⊢
      rw [hr]
      omega
  | leaves ha hc hr hp =>
    rw [Registry.leave_enter] at hr
    refine ⟨hc.trans hs.config_eq, hr ▸ Registry.nodup_leave hs.once, ?_, ?_⟩
    · intro l j hj
      rw [hr, Registry.mem_leave] at hj
      rw [hp]
      exact hs.present l j hj.1
    · have hle := Registry.length_leave_le a.peer.label s.registry
      rw [Server.active] at hroom ⊢
      rw [hr]
      omega

theorem Tidy.step (hs : s.Tidy config) (i : Server.Input) : (s.step w i).Tidy config := by
  by_cases hi : ∃ a, i = .connect a
  · obtain ⟨a, rfl⟩ := hi
    exact hs.entry (entry_connect w a s)
  · exact step_of_shift (fun s s' hs h => Tidy.shift hs h) hs fun a e => hi ⟨a, e⟩

/-- Whatever comes, in whatever order: the registry tells only of handlers that have not ended, and
there is room for all that it tells of. -/
theorem tidy_runAll (w : Surroundings) (config : ServerConfig) (steps : List Service.Step) :
    ((Service.fresh config).runAll w steps).server.Tidy config := by
  refine List.foldlRecOn (motive := fun s : Service => s.server.Tidy config) steps _ ?_ ?_
  · exact ⟨rfl, List.nodup_nil, nofun, Int.le_max_left 0 _⟩
  · intro s hs i _
    cases i with
    | client i => exact hs.step i
    | start o => exact hs
    | stop => exact hs
    | serve o => exact hs

end Server
end Socks5
