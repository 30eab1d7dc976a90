import Socks5.Proofs.Server.Authority
import Socks5.Proofs.Server.View

/-!
Clients do not interfere. What a client sees of a server changes with its turns and with nothing else
(`Service.view_step`), so after a run it is what the turns have made of it (`Service.view_runAll`). In two
runs that have the same turns in store for a client, whatever the other clients do in them, the same comes
of the client (`isolated`).
-/
namespace Socks5

namespace Server

/-- What the client `id`, which goes by `name`, sees of the server. -/
def view (id : Nat) (name : String) (s : Server) : View where
  config := s.config
  now := s.now
  released := s.released.filter (·.2 = name)
  client := s.clients[id]?
  history := (s.historyOf id).map Happening.unnumbered

variable {w : Surroundings} {id j : Nat} {name : String} {s s' : Server}

theorem view_congr (hc : s'.config = s.config) (hn : s'.now = s.now)
    (hr : s'.released = s.released) (hcl : s'.clients[id]? = s.clients[id]?)
    (hh : s'.historyOf id = s.historyOf id) : s'.view id name = s.view id name := by
  rw [view, hc, hn, hr, hcl, hh]
  rfl

/-! ## One handler -/

/-- What the handler of another client does leaves this one and its history as they are. -/
theorem run_other (hj : j ≠ id) (f : Handler → Handler) (s : Server) :
    (s.run j f).clients[id]? = s.clients[id]? ∧ (s.run j f).historyOf id = s.historyOf id := by
  rcases run_cases j f s with h | ⟨h, -, -, he⟩
  · rw [h]
    exact ⟨rfl, rfl⟩
  · rw [he]
    refine ⟨List.getElem?_set_ne hj, ?_⟩
    have hh := historyOf_of_history (history_absorb j (f h)
      { s with clients := s.clients.set j (.handled (f h).forgetful) }) id
    rw [hh, if_neg hj, List.append_nil]
    rfl

theorem view_run_other (hj : j ≠ id) (f : Handler → Handler) (s : Server) :
    (s.run j f).view id name = s.view id name := by
  obtain ⟨hc, hh⟩ := run_other hj f s
  have hkeep : (s.run j f).config = s.config ∧ (s.run j f).now = s.now ∧
      (s.run j f).released = s.released := by
    rcases run_cases j f s with h | ⟨h, -, -, he⟩
    · rw [h]
      exact ⟨rfl, rfl, rfl⟩
    · rw [he]
      exact ⟨rfl, rfl, rfl⟩
  obtain ⟨hconfig, hnow, hreleased⟩ := hkeep
  exact view_congr hconfig hnow hreleased hc hh

theorem clients_of_handler {h : Handler} (hc : s.clients[id]?.bind Client.handler? = some h) :
    s.clients[id]? = some (.handled h) := by
  obtain ⟨c, hc', hh⟩ := Option.bind_eq_some_iff.1 hc
  cases c with
  | turnedAway c o => cases hh
  | handled g =>
    obtain rfl : g = h := Option.some.inj hh
    exact hc'

/-- What the client's own handler does is seen, the number of connections apart. -/
theorem view_run_self {f g : Handler → Handler}
    (hf : ∀ h, s.clients[id]? = some (.handled h) → (f h).unnumbered = g h) :
    (s.run id f).view id name = (s.view id name).run g := by
  have hv : (s.view id name).client = s.clients[id]? := rfl
  unfold Server.run View.run
  rw [hv]
  cases hb : s.clients[id]?.bind Client.handler? with
  | none => rfl
  | some h =>
    have hc := clients_of_handler hb
    dsimp only
    split
    · rfl
    · have hlt : id < s.clients.length := (List.getElem?_eq_some_iff.1 hc).1
      have hh := historyOf_of_history (history_absorb id (f h)
        { s with clients := s.clients.set id (.handled (f h).forgetful) }) id
      rw [← hf h hc, view, hh, if_pos rfl, List.map_append, Handler.history_unnumbered,
        Handler.forgetful_unnumbered]
      simp only [absorb, List.getElem?_set_self hlt]
      rfl

theorem view_resume_other (hj : j ≠ id) (w : Surroundings) (s : Server) :
    (s.resume w j).view id name = s.view id name := view_run_other hj _ s

theorem view_resume_self (w : Surroundings) (hv : (s.view id name).Named name) :
    (s.resume w id).view id name = (s.view id name).resume w := by
  refine view_run_self fun h hc => ?_
  obtain ⟨hh, hn⟩ := hv h hc
  rw [Handler.unnumbered_resume (s.moment w) hn, Handler.unnumbered_of_history hh]
  rfl

/-! ## Comers -/

/-- A client that is not this one has come. -/
theorem view_append {c : Client} {t : List Happening} (hid : s.clients.length ≠ id)
    (hc : s'.config = s.config) (hn : s'.now = s.now) (hr : s'.released = s.released)
    (hclients : s'.clients = s.clients ++ [c])
    (hhistory : s'.history = s.history ++ t.map (s.clients.length, ·)) :
    s'.view id name = s.view id name := by
  refine view_congr hc hn hr ?_ ?_
  · rw [hclients]
    rcases Nat.lt_or_ge id s.clients.length with hlt | hge
    · rw [List.getElem?_append_left hlt]
    · rw [List.getElem?_eq_none hge, List.getElem?_eq_none (by simp; omega)]
  · rw [historyOf_of_history hhistory, if_neg hid, List.append_nil]

/-- The client itself has come. -/
theorem view_append_self {c : Client} {t : List Happening} (hc : s'.config = s.config)
    (hn : s'.now = s.now) (hr : s'.released = s.released) (hclients : s'.clients = s.clients ++ [c])
    (hhistory : s'.history = s.history ++ t.map (s.clients.length, ·)) :
    s'.view s.clients.length name =
      { s.view s.clients.length name with
        client := some c
        history := (s.view s.clients.length name).history ++ t.map Happening.unnumbered } := by
  rw [view, hc, hn, hr, hclients, List.getElem?_concat_length, historyOf_of_history hhistory,
    if_pos rfl, List.map_append]
  rfl

theorem view_connect_other (hid : s.clients.length ≠ id) (w : Surroundings) (a : Arrival) :
    (s.connect w a).view id name = s.view id name := by
  rcases connect_cases w a s with ⟨-, o, es, h⟩ | ⟨-, e, -, h⟩ | ⟨-, info, m, g, -, -, -, -, h⟩
  · rw [h]
    exact view_append hid rfl rfl rfl rfl (history_note _ es _)
  · have hh : (s.connect w a).history =
        s.history ++ [.noted (newConnection a.peer.label)].map (s.clients.length, ·) := by
      simp [h, turnAway, note]
    rw [h] at hh ⊢
    exact view_append hid rfl rfl rfl rfl hh
  · have hh : (s.connect w a).history =
        s.history ++ (.noted (newConnection a.peer.label) :: g.history).map (s.clients.length, ·) := by
      simp [h, withHandler, absorb, note]
    rw [h] at hh ⊢
    exact view_append hid rfl rfl rfl rfl hh

/-- A client that there is room for. -/
theorem view_connect_self (hid : s.clients.length = id) (w : Surroundings) {a : Arrival}
    (hroom : (s.active : Int) < s.config.maxConnections)
    (hn : ∀ info, a.peer.info = .ok info → info.client = name) :
    (s.connect w a).view id name = (s.view id name).come w a := by
  subst hid
  unfold connect View.come
  rw [if_neg (Int.not_le.2 hroom)]
  cases hi : a.peer.info with
  | error e =>
    refine view_append_self (t := [.noted (newConnection a.peer.label)]) rfl rfl rfl rfl ?_
    simp [turnAway, note]
  | ok info =>
    dsimp only
    unfold accept
    dsimp only
    generalize hg : Handler.start _ a.peer.label info { channel := a.channel } = g
    have hu : g.unnumbered = Handler.start ((s.view s.clients.length name).moment w) a.peer.label info
        { channel := a.channel } := by
      rw [← hg]
      exact Handler.unnumbered_start _ _ _ (hn info hi)
    rw [← hu, Handler.forgetful_unnumbered, Handler.history_unnumbered]
    refine view_append_self (c := .handled g.forgetful)
      (t := .noted (newConnection a.peer.label) :: g.history) rfl rfl rfl rfl ?_
    simp [absorb, note]

/-! ## Steps -/

theorem view_receive_other (hj : j ≠ id) (w : Surroundings) (i : Incoming) (s : Server) :
    (s.receive w j i).view id name = s.view id name := by
  unfold receive
  rw [view_resume_other hj]
  refine view_congr rfl rfl rfl ?_ rfl
  simp [hj]

theorem view_receive_self (w : Surroundings) (i : Incoming) (hv : (s.view id name).Named name) :
    (s.receive w id i).view id name = (s.view id name).step w name (.receive i) := by
  have hr : view id name { s with clients := s.clients.modify id (Client.receive i) } =
      { s.view id name with client := (s.view id name).client.map (Client.receive i) } := by
    simp [view]
    rfl
  unfold receive
  rw [view_resume_self w (hr ▸ hv.receive i), hr]
  rfl

section

variable {g : Server → Nat → Server} (other : ∀ s j, j ≠ id → (g s j).view id name = s.view id name)

include other

theorem view_foldl_other {ids : List Nat} (hid : id ∉ ids) (s : Server) :
    (ids.foldl g s).view id name = s.view id name := by
  induction ids generalizing s with
  | nil => rfl
  | cons j ids ih =>
    have hne : j ≠ id := fun e => hid (e ▸ List.mem_cons_self)
    rw [List.foldl_cons, ih (fun h => hid (List.mem_cons_of_mem j h)), other s j hne]

/-- Several handlers do something one after another, each of them once, and the client's own among them
or not. -/
theorem view_foldl {v v' : View} (self : ∀ s, s.view id name = v → (g s id).view id name = v')
    {ids : List Nat} (hn : ids.Nodup) (hs : s.view id name = v) :
    (ids.foldl g s).view id name = if id ∈ ids then v' else v := by
  induction ids generalizing s with
  | nil => simpa using hs
  | cons j ids ih =>
    obtain ⟨hj, hn⟩ := List.nodup_cons.1 hn
    rw [List.foldl_cons]
    by_cases hid : j = id
    -- The client's own handler does not come again, so the rest are others.
    · subst hid
      rw [view_foldl_other other hj, self s hs, if_pos List.mem_cons_self]
    · have hid' : id ≠ j := fun e => hid e.symm
      rw [ih hn ((other s j hid).trans hs)]
      simp [hid']

end

/-- What is released of the client, when something is released of anyone. -/
theorem filter_insert_released (held : Held) (c : String) (l : List (Held × String)) :
    (l.insert (held, c)).filter (·.2 = name) =
      if c = name then (l.filter (·.2 = name)).insert (held, name) else l.filter (·.2 = name) := by
  split
  · next hc =>
    subst hc
    unfold List.insert
    simp only [List.contains_eq_mem, List.mem_filter, decide_true, and_true]
    split <;> simp
  · next hc =>
    unfold List.insert
    split <;> simp [hc]

/-- Others may be released as they like. -/
theorem view_release (w : Surroundings) (held : Held) (c : String) (hk : (s.view id name).Known name) :
    (s.release w held c).view id name =
      if c = name then (s.view id name).step w name (.release held) else s.view id name := by
  unfold release
  generalize hv : view id name { s with released := s.released.insert (held, c) } = v
  have hv' : v = { s.view id name with
      released := if c = name then (s.view id name).released.insert (held, name)
        else (s.view id name).released } := by
    rw [← hv, view, filter_insert_released]
    rfl
  have hnamed : v.Named name := hv' ▸ hk.named
  have hfold := view_foldl (fun s j hj => view_resume_other hj w s)
    (fun s' hs' => by rw [view_resume_self w (hs' ▸ hnamed), hs']) (@List.nodup_range s.clients.length) hv
  -- A client that has not come yet has no handler, and then to go on is to do nothing.
  have hall : (if id ∈ List.range s.clients.length then v.resume w else v) = v.resume w := by
    split
    · rfl
    · next hid =>
      refine (View.resume_of_none ?_).symm
      rw [hv']
      exact List.getElem?_eq_none (by simpa using hid)
  rw [hfold, hall]
  split
  · next hc =>
    rw [hv', if_pos hc]
    rfl
  · next hc =>
    rw [hv', if_neg hc]
    exact hk.resume_eq

/-- The clients whose timers have run out, each once. -/
theorem due_eq_filter (name : String) (s : Server) :
    s.due.map Prod.snd = (List.range s.clients.length).filter fun id => (s.view id name).isDue := by
  unfold due
  rw [List.map_filterMap, ← List.filterMap_eq_filter]
  congr 1
  funext id
  simp only [View.isDue, View.timer?, view, Option.guard]
  rcases Option.eq_none_or_eq_some (s.clients[id]?.bind Client.handler?) with hb | ⟨h, hb⟩
  · simp [hb]
  · rcases Option.eq_none_or_eq_some h.timer? with ht | ⟨t, ht⟩
    · simp [hb, ht]
    · by_cases hd : t.due ≤ s.now <;> simp [hb, ht, hd]

theorem lt_of_isDue (h : (s.view id name).isDue = true) : id < s.clients.length := by
  by_contra hid
  have hn : s.clients[id]? = none := List.getElem?_eq_none (Nat.le_of_not_lt hid)
  simp [View.isDue, View.timer?, view, hn] at h

theorem view_expire_self (hv : (s.view id name).Named name) :
    (s.run id Handler.expire).view id name = (s.view id name).run Handler.expire := by
  refine view_run_self fun h hc => ?_
  rw [Handler.unnumbered_expire, Handler.unnumbered_of_history (hv h hc).1]

/-- Whoever else runs out of time meanwhile. -/
theorem view_advance (w : Surroundings) (span : Time) (hv : (s.view id name).Named name) :
    (s.advance span).view id name = (s.view id name).step w name (.pass span) := by
  unfold advance
  dsimp only
  generalize hs' : ({ s with now := s.now + span } : Server) = s'
  have hv' : s'.view id name = { s.view id name with now := (s.view id name).now + span } := by
    rw [← hs']
    rfl
  have hnamed : (s'.view id name).Named name := hv' ▸ hv
  -- In whatever order the timers run out, each client is met once at most.
  generalize hts : s'.due.mergeSort (fun a b => Timer.before a.1 b.1) = ts
  have hperm : (ts.map Prod.snd).Perm ((List.range s'.clients.length).filter
      fun id => (s'.view id name).isDue) := by
    rw [← hts, ← due_eq_filter]
    exact (List.mergeSort_perm _ _).map Prod.snd
  have hnodup : (ts.map Prod.snd).Nodup := hperm.nodup_iff.2 (List.nodup_range.filter _)
  have hmem : id ∈ ts.map Prod.snd ↔ (s'.view id name).isDue = true := by
    rw [hperm.mem_iff, List.mem_filter, List.mem_range]
    exact ⟨And.right, fun h => ⟨lt_of_isDue h, h⟩⟩
  have hfold := view_foldl (g := fun s j => s.run j Handler.expire) (fun s j hj => view_run_other hj _ s)
    (fun t ht => by rw [view_expire_self (ht ▸ hnamed), ht]) hnodup (rfl : s'.view id name = _)
  rw [List.foldl_map] at hfold
  rw [hfold, View.step]
  simp only [hmem, ← hv']

/-! ## Counting the clients -/

theorem length_run (id : Nat) (f : Handler → Handler) (s : Server) :
    (s.run id f).clients.length = s.clients.length := by
  rcases run_cases id f s with h | ⟨h, -, -, he⟩
  · rw [h]
  · rw [he]
    exact List.length_set

theorem length_connect (w : Surroundings) (a : Arrival) (s : Server) :
    (s.connect w a).clients.length = s.clients.length + 1 := by
  rcases connect_cases w a s with ⟨-, o, es, h⟩ | ⟨-, e, -, h⟩ | ⟨-, info, m, g, -, -, -, -, h⟩ <;>
    rw [h] <;> exact List.length_append

theorem length_step (w : Surroundings) (s : Server) (i : Server.Input) :
    (s.step w i).clients.length = s.clients.length + (Service.Step.client i).arrivals := by
  cases i with
  | connect a => exact length_connect w a s
  | receive id i => exact (length_run id _ _).trans (List.length_modify _ _ _)
  | release held c =>
    refine List.foldlRecOn (motive := fun s' : Server => s'.clients.length = s.clients.length) _ _ rfl ?_
    exact fun s' h id _ => (length_run id _ s').trans h
  | advance span =>
    refine List.foldlRecOn (motive := fun s' : Server => s'.clients.length = s.clients.length) _ _ rfl ?_
    exact fun s' h t _ => (length_run t.2 _ s').trans h

end Server

/-! ## Runs -/

namespace Service

variable {w : Surroundings} {config : ServerConfig} {id : Nat} {name : String} {s : Service}

/-- There is room for the client when it comes. -/
def Room (w : Surroundings) (id : Nat) (s : Service) (steps : List Service.Step) : Prop :=
  ∀ pre a, pre ++ [.client (.connect a)] <+: steps → (s.runAll w pre).server.clients.length = id →
    ((s.runAll w pre).server.active : Int) < (s.runAll w pre).server.config.maxConnections

/-- A step is seen as the turn that it is, or not at all. -/
theorem view_step {x : Service.Step} (hk : (s.server.view id name).Known name)
    (hroom : ∀ a, x = .client (.connect a) → s.server.clients.length = id →
      (s.server.active : Int) < s.server.config.maxConnections)
    (hn : GoesBy name (x.turn? id name s.server.clients.length).toList) :
    (s.step w x).server.view id name =
      (x.turn? id name s.server.clients.length).toList.foldl (View.step w name) (s.server.view id name) := by
  cases x with
  | start o => rfl
  | stop => rfl
  | serve o => rfl
  | client i =>
    change (s.server.step w i).view id name = _
    cases i with
    | connect a =>
      by_cases hid : s.server.clients.length = id
      · have ht : Step.turn? id name s.server.clients.length (.client (.connect a)) = some (.come a) :=
          if_pos hid
        rw [ht] at hn ⊢
        exact Server.view_connect_self hid w (hroom a rfl hid) fun info => hn a info List.mem_cons_self
      · have ht : Step.turn? id name s.server.clients.length (.client (.connect a)) = none := if_neg hid
        rw [ht]
        exact Server.view_connect_other hid w a
    | receive j i =>
      by_cases hj : j = id
      · subst hj
        have ht : Step.turn? j name s.server.clients.length (.client (.receive j i)) = some (.receive i) :=
          if_pos rfl
        rw [ht]
        exact Server.view_receive_self w i hk.named
      · have ht : Step.turn? id name s.server.clients.length (.client (.receive j i)) = none := if_neg hj
        rw [ht]
        exact Server.view_receive_other hj w i s.server
    | release held c =>
      have hr := Server.view_release w held c hk
      by_cases hc : c = name
      · have ht : Step.turn? id name s.server.clients.length (.client (.release held c)) =
            some (.release held) := if_pos hc
        rw [if_pos hc] at hr
        rw [ht]
        exact hr
      · have ht : Step.turn? id name s.server.clients.length (.client (.release held c)) = none := if_neg hc
        rw [if_neg hc] at hr
        rw [ht]
        exact hr
    | advance span => exact Server.view_advance w span hk.named

/-- After a run, a client's view is what its turns have made of it. -/
theorem view_runAll (steps : List Service.Step) (hk : (s.server.view id name).Known name)
    (hroom : s.Room w id steps) (hn : GoesBy name (turns id name s.server.clients.length steps)) :
    (s.runAll w steps).server.view id name =
      (turns id name s.server.clients.length steps).foldl (View.step w name) (s.server.view id name) := by
  induction steps generalizing s with
  | nil => rfl
  | cons x steps ih =>
    have hlen : (s.step w x).server.clients.length = s.server.clients.length + x.arrivals := by
      cases x with
      | client i => exact Server.length_step w s.server i
      | _ => rfl
    rw [turns, ← hlen] at hn ⊢
    have hnx : GoesBy name (x.turn? id name s.server.clients.length).toList :=
      fun a info ha => hn a info (List.mem_append_left _ ha)
    have hstep := view_step (w := w) hk (fun a hx hid => hroom [] a (by simp [hx]) hid) hnx
    have hk' : ((s.step w x).server.view id name).Known name := by
      rw [hstep]
      cases ht : x.turn? id name s.server.clients.length with
      | none => exact hk
      | some t => exact hk.step w (by simpa [ht] using hnx)
    rw [List.foldl_append, ← hstep]
    refine ih hk' (fun pre a hpre => ?_) fun a info ha => hn a info (List.mem_append_right _ ha)
    exact hroom (x :: pre) a (List.cons_prefix_cons.2 ⟨rfl, hpre⟩)

end Service

/-! ## Two runs -/

theorem ledger_unnumbered (t : List Happening) : ledger (t.map Happening.unnumbered) = ledger t := by
  have h : ∀ (l : Ledger) (x : Happening), l.enter x.unnumbered = l.enter x := by
    intro l x
    cases x with
    | moved m => rfl
    | did a => cases a <;> rfl
  unfold ledger
  rw [List.foldl_map]
  simp only [h]

/-- Two runs that have the same turns in store for a client, which there is room for in both, end alike
for it, whoever else comes and whatever the others do: its handler and its channels are the same, and the
same has happened for it, but for the number of connections that its callback was told. -/
theorem isolated (w : Surroundings) (config : ServerConfig) (name : String) (id id' : Nat)
    (steps steps' : List Service.Step) (hturns : turns id name 0 steps = turns id' name 0 steps')
    (hname : GoesBy name (turns id name 0 steps)) (hroom : (Service.fresh config).Room w id steps)
    (hroom' : (Service.fresh config).Room w id' steps') :
    let s := ((Service.fresh config).runAll w steps).server
    let s' := ((Service.fresh config).runAll w steps').server
    s.clients[id]? = s'.clients[id']? ∧
      (s.historyOf id).map Happening.unnumbered = (s'.historyOf id').map Happening.unnumbered ∧
      ledger (s.historyOf id) = ledger (s'.historyOf id') := by
  intro s s'
  have hk : ∀ id, ((Service.fresh config).server.view id name).Known name := by
    intro id
    constructor <;> intro h hc <;> cases hc
  have hv : s.view id name = s'.view id' name := by
    have h := Service.view_runAll steps (hk id) hroom hname
    have h' := Service.view_runAll steps' (hk id') hroom' (hturns ▸ hname)
    have hfold := congrArg (List.foldl (View.step w name) (View.mk config 0 [] none [])) hturns
    exact h.trans (hfold.trans h'.symm)
  have hh : (s.historyOf id).map Happening.unnumbered = (s'.historyOf id').map Happening.unnumbered :=
    congrArg View.history hv
  refine ⟨congrArg View.client hv, hh, ?_⟩
  rw [← ledger_unnumbered, hh, ledger_unnumbered]

/-- A client at 10.0.0.1, which has sent nothing yet. -/
def guest : Arrival := { peer := some (.text "10.0.0.1", .int 1001) }

/-- The guest sends its offer after a stranger that came before it has sent what is none. -/
def inCompany : List Service.Step :=
  [.client (.connect {}), .client (.connect guest), .client (.receive 0 (.bytes [4])),
    .client (.receive 1 (.bytes [5, 1, 0]))]

/-- The guest sends its offer, and nobody else is there. -/
def byItself : List Service.Step := [.client (.connect guest), .client (.receive 0 (.bytes [5, 1, 0]))]

theorem isolated_guest :
    turns 1 "10.0.0.1:1001" 0 inCompany = turns 0 "10.0.0.1:1001" 0 byItself ∧
      ∃ c, ((Service.fresh {}).runAll greeter inCompany).server.clients[1]? = some c ∧
        ((Service.fresh {}).runAll greeter byItself).server.clients[0]? = some c ∧
        c.channel.written = [5, 0] := by
  have hturns : turns 1 "10.0.0.1:1001" 0 inCompany = turns 0 "10.0.0.1:1001" 0 byItself := rfl
  have hname : GoesBy "10.0.0.1:1001" (turns 1 "10.0.0.1:1001" 0 inCompany) := by
    intro a info ha hi
    have hturns : turns 1 "10.0.0.1:1001" 0 inCompany = [.come guest, .receive (.bytes [5, 1, 0])] := rfl
    simp only [hturns, List.mem_cons, Turn.come.injEq, reduceCtorEq, List.not_mem_nil, or_false] at ha
    subst ha
    cases hi
    decide +kernel
  have hroom : (Service.fresh {}).Room greeter 1 inCompany := by
    rintro pre a ⟨t, ht⟩ hid
    match pre, ht with
    | [], _ => cases hid
    | [_], ht =>
      cases ht
      decide
    | [_, _], ht | [_, _, _], ht | _ :: _ :: _ :: _ :: _, ht => simp [inCompany] at ht
  have hroom' : (Service.fresh {}).Room greeter 0 byItself := by
    rintro pre a ⟨t, ht⟩ hid
    match pre, ht with
    | [], _ => decide
    | [_], ht | _ :: _ :: _, ht => simp [byItself] at ht
  have h := (isolated greeter {} _ 1 0 inCompany byItself hturns hname hroom hroom').1
  exact ⟨hturns, _, rfl, h.symm, rfl⟩

end Socks5
