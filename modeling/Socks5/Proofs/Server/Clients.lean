import Socks5.Server.Service

/-!
What holds of every client of a server. A step lets one handler do something, or lets a client in or
turns it away (`run_cases`, `connect_cases`); the histories of the other clients are left as they are
(`historyOf_of_history`). So what is upheld for one client by each thing that can happen to it
(`Upheld`) holds of all clients in every run (`Upheld.runAll`).
-/
namespace Socks5

/-- The record of a new client holds its address and nothing else. -/
theorem Peer.info_eq_ok {p : Peer} {i : ConnectionInfo} (h : p.info = .ok i) :
    Convert.port 0 p.parts.2 = .ok i.clientPort ∧
      i = { clientAddress := p.parts.1.display, clientPort := i.clientPort } := by
  let given : List (String × Value) :=
    [("client_address", .text p.parts.1.display), ("client_port", p.parts.2)]
  have hl : given.lookup "client_port" = some p.parts.2 := rfl
  unfold Peer.info ConnectionInfo.ofFields Convert.required at h
  cases hp : Convert.port 0 p.parts.2 with
  | error e =>
    rw [Convert.field_of_error hl hp] at h
    cases h
  | ok n =>
    rw [Convert.field_of_ok hl hp] at h
    cases h
    exact ⟨rfl, rfl⟩

/-- A handler once something has arrived on its client's channel. -/
def Handler.receive (i : Incoming) (h : Handler) : Handler :=
  { h with session := { h.session with channel := i.apply h.client } }

namespace Server

variable {w : Surroundings} {s : Server} {id : Nat}

/-! ## What a step does -/

/-- A handler that is there and has not ended does something, or nothing happens. -/
theorem run_cases (id : Nat) (f : Handler → Handler) (s : Server) :
    s.run id f = s ∨ ∃ h, s.clients[id]? = some (.handled h) ∧ h.isEnded = false ∧
      s.run id f = ({ s with clients := s.clients.set id (.handled (f h).forgetful) } : Server).absorb
        id (f h) := by
  unfold run
  cases hc : s.clients[id]? with
  | none => exact .inl rfl
  | some c =>
    cases c with
    | turnedAway c o => exact .inl rfl
    | handled h =>
      cases he : h.isEnded with
      | true => exact .inl (by simp [Client.handler?, he])
      | false => exact .inr ⟨h, rfl, he, by simp [Client.handler?, he]⟩

/-- The server as it is once the handler of a new client has gone as far as it can. -/
def withHandler (label : String) (h : Handler) (s : Server) : Server :=
  ({ s with
      registry := s.registry.enter label s.clients.length
      clients := s.clients ++ [.handled h.forgetful] } : Server).absorb s.clients.length h

/-- A client that comes is turned away for want of room or of an address, or it is let in. -/
theorem connect_cases (w : Surroundings) (a : Arrival) (s : Server) :
    (s.config.maxConnections ≤ s.active ∧
      ∃ o es, s.connect w a = s.turnAway a.channel.waitClosed.2.2 o es) ∨
    (s.active < s.config.maxConnections ∧ ∃ e, a.peer.info = .error e ∧
      s.connect w a =
        (s.note s.clients.length [newConnection a.peer.label]).turnAway a.channel (.invalid e) []) ∨
    (s.active < s.config.maxConnections ∧ ∃ info m h, a.peer.info = .ok info ∧
      m.config = s.config ∧ m.surroundings = w ∧
      h = Handler.start m a.peer.label info { channel := a.channel } ∧
      s.connect w a =
        (s.note s.clients.length [newConnection a.peer.label]).withHandler a.peer.label h) := by
  unfold connect
  by_cases hm : s.config.maxConnections ≤ s.active
  · refine .inl ⟨hm, ?_⟩
    simp only [hm, ↓reduceIte]
    exact ⟨_, _, rfl⟩
  · refine .inr ?_
    have hlt : s.active < s.config.maxConnections := by omega
    simp only [hm, ↓reduceIte]
    cases a.peer.info with
    | error e => exact .inl ⟨hlt, e, rfl, rfl⟩
    | ok info => exact .inr ⟨hlt, info, _, _, rfl, rfl, rfl, rfl, rfl⟩

/-! ## Histories -/

/-- What is added to the history for one client is added to the history of that client. -/
theorem historyOf_of_history {s s' : Server} {id' : Nat} {xs : List Happening}
    (h : s'.history = s.history ++ xs.map (id', ·)) (id : Nat) :
    s'.historyOf id = s.historyOf id ++ if id' = id then xs else [] := by
  unfold historyOf
  rw [h, List.filter_append, List.map_append]
  congr 1
  clear h
  induction xs with
  | nil => simp
  | cons x xs ih =>
    by_cases hi : id' = id
    · simpa [hi] using ih
    · simp [hi]

theorem history_note (id : Nat) (es : List Event) (s : Server) :
    (s.note id es).history = s.history ++ (es.map Happening.noted).map (id, ·) := by
  simp [note]

theorem history_absorb (id : Nat) (h : Handler) (s : Server) :
    (s.absorb id h).history = s.history ++ h.history.map (id, ·) := rfl

/-- What happened stays in the history. -/
theorem history_run (id : Nat) (f : Handler → Handler) (s : Server) : s.history <+: (s.run id f).history := by
  rcases run_cases id f s with h | ⟨h, -, -, he⟩
  · exact (congrArg history h).symm ▸ List.prefix_refl _
  · rw [he]
    exact List.prefix_append ..

theorem history_connect (w : Surroundings) (a : Arrival) (s : Server) :
    s.history <+: (s.connect w a).history := by
  rcases connect_cases w a s with ⟨-, o, es, h⟩ | ⟨-, e, -, h⟩ | ⟨-, info, m, g, -, -, -, -, h⟩ <;>
    rw [h]
  · exact List.prefix_append ..
  · simp [turnAway, note]
  · simp [withHandler, absorb, note]

theorem history_step (w : Surroundings) (s : Server) (i : Server.Input) :
    s.history <+: (s.step w i).history := by
  cases i with
  | connect a => exact history_connect w a s
  | receive id i => exact history_run id _ { s with clients := s.clients.modify id (Client.receive i) }
  | release c =>
    refine List.foldlRecOn (motive := fun s' : Server => s.history <+: s'.history) _ _ (List.prefix_refl _) ?_
    exact fun s' h id _ => h.trans (history_run id _ s')
  | advance span =>
    refine List.foldlRecOn (motive := fun s' : Server => s.history <+: s'.history) _ _ (List.prefix_refl _) ?_
    exact fun s' h t _ => h.trans (history_run t.2 _ s')

/-! ## What is kept -/

/-- `I` holds of every client with its history, and nothing happened yet for those to come. -/
structure Keeps (config : ServerConfig) (I : List Happening → Client → Prop) (s : Server) : Prop where
  config_eq : s.config = config
  holds : ∀ (id : Nat) (c : Client), s.clients[id]? = some c → I (s.historyOf id) c
  blank : ∀ id, s.clients.length ≤ id → s.historyOf id = []
  idle : ∀ (id : Nat) (h : Handler), s.clients[id]? = some (.handled h) → h.history = []

variable {config : ServerConfig} {I : List Happening → Client → Prop}

theorem Keeps.run (hs : s.Keeps config I) {f : Handler → Handler}
    (hf : ∀ t h, I t (.handled h) → h.history = [] →
      I (t ++ (f h).history) (.handled (f h).forgetful)) :
    (s.run id f).Keeps config I := by
  rcases run_cases id f s with h | ⟨h, hc, -, he⟩
  · rw [h]
    exact hs
  · rw [he]
    have hlt : id < s.clients.length := (List.getElem?_eq_some_iff.1 hc).1
    have hhist := historyOf_of_history (history_absorb id (f h)
      { s with clients := s.clients.set id (.handled (f h).forgetful) })
    have hold : ∀ j, ({ s with clients := s.clients.set id (.handled (f h).forgetful) } : Server).historyOf j =
      s.historyOf j := fun _ => rfl
    refine ⟨hs.config_eq, ?_, ?_, ?_⟩
    · intro j c hj
      simp only [absorb, List.getElem?_set] at hj
      rw [hhist, hold]
      by_cases hij : id = j
      · subst hij
        simp only [hlt, ↓reduceIte, Option.some.injEq] at hj
        subst hj
        simpa using hf _ _ (hs.holds id _ hc) (hs.idle id h hc)
      · simp only [hij, ↓reduceIte] at hj
        simpa [hij] using hs.holds j c hj
    · intro j hj
      have hlen : s.clients.length ≤ j := by simpa [absorb] using hj
      have hne : id ≠ j := by omega
      rw [hhist, hold]
      simpa [hne] using hs.blank j hlen
    · intro j g hj
      simp only [absorb, List.getElem?_set] at hj
      by_cases hij : id = j
      · subst hij
        simp only [hlt, ↓reduceIte, Option.some.injEq, Client.handled.injEq] at hj
        subst hj
        simp [Handler.forgetful, Handler.history]
      · simp only [hij, ↓reduceIte] at hj
        exact hs.idle j g hj

/-- A new client comes last, and what happens then happens for it. -/
theorem Keeps.snoc (hs : s.Keeps config I) {s' : Server} {c : Client} {xs : List Happening}
    (hconfig : s'.config = s.config) (hclients : s'.clients = s.clients ++ [c])
    (hhistory : s'.history = s.history ++ xs.map (s.clients.length, ·))
    (hc : I xs c) (hidle : ∀ h, c = .handled h → h.history = []) : s'.Keeps config I := by
  have hhist := historyOf_of_history hhistory
  have hnew : s.historyOf s.clients.length = [] := hs.blank _ (Nat.le_refl _)
  refine ⟨hconfig.trans hs.config_eq, ?_, ?_, ?_⟩
  · intro id d hd
    rw [hclients] at hd
    rcases Nat.lt_trichotomy id s.clients.length with hlt | rfl | hgt
    · rw [List.getElem?_append_left hlt] at hd
      have hne : s.clients.length ≠ id := by omega
      simpa [hhist, hne] using hs.holds id d hd
    · simp only [List.getElem?_concat_length, Option.some.injEq] at hd
      subst hd
      simpa [hhist, hnew] using hc
    · rw [List.getElem?_eq_none (by simp; omega)] at hd
      cases hd
  · intro id hid
    rw [hclients, List.length_append, List.length_singleton] at hid
    have hne : s.clients.length ≠ id := by omega
    simpa [hhist, hne] using hs.blank id (by omega)
  · intro id h hd
    rw [hclients] at hd
    rcases Nat.lt_trichotomy id s.clients.length with hlt | rfl | hgt
    · rw [List.getElem?_append_left hlt] at hd
      exact hs.idle id h hd
    · simp only [List.getElem?_concat_length, Option.some.injEq] at hd
      exact hidle h hd
    · rw [List.getElem?_eq_none (by simp; omega)] at hd
      cases hd

end Server

/-! ## Runs -/

/-- `I` is upheld by each thing that can happen to one client: it comes, as one of `A`, and is turned
away or let in; something arrives on its channel; its handler goes on, or runs out of time. -/
structure Upheld (w : Surroundings) (config : ServerConfig) (A : Arrival → Prop)
    (I : List Happening → Client → Prop) : Prop where
  refused : ∀ (a : Arrival) (es : List Event) o, I (es.map .noted) (.turnedAway a.channel.waitClosed.2.2 o)
  rejected : ∀ (a : Arrival) (es : List Event) e, A a → a.peer.info = .error e →
    I (es.map .noted) (.turnedAway a.channel (.invalid e))
  started : ∀ (m : Moment) (a : Arrival) info (es : List Event), m.config = config → m.surroundings = w →
    a.peer.info = .ok info →
    let h := Handler.start m a.peer.label info { channel := a.channel }
    I (es.map .noted ++ h.history) (.handled h.forgetful)
  received : ∀ t (c : Client) i, I t c → I t (c.receive i)
  resumed : ∀ (m : Moment) t (h : Handler), m.config = config → m.surroundings = w → I t (.handled h) →
    h.history = [] → I (t ++ (h.resume m).history) (.handled (h.resume m).forgetful)
  expired : ∀ t (h : Handler), I t (.handled h) → h.history = [] →
    I (t ++ h.expire.history) (.handled h.expire.forgetful)

namespace Upheld

variable {w : Surroundings} {config : ServerConfig} {A : Arrival → Prop}
  {I : List Happening → Client → Prop} {s : Server}

open Server

theorem resume (hI : Upheld w config A I) (hs : s.Keeps config I) (id : Nat) :
    (s.resume w id).Keeps config I := by
  refine hs.run fun t h ht hh => ?_
  exact hI.resumed _ t h hs.config_eq rfl ht hh

theorem connect (hI : Upheld w config A I) (hs : s.Keeps config I) {a : Arrival} (ha : A a) :
    (s.connect w a).Keeps config I := by
  rcases connect_cases w a s with ⟨-, o, es, h⟩ | ⟨-, e, hi, h⟩ | ⟨-, info, m, g, hi, hm, hw, rfl, h⟩
  · rw [h]
    refine hs.snoc rfl rfl (history_note _ es _) (hI.refused a es o) ?_
    intro g hg
    cases hg
  · rw [h]
    refine hs.snoc rfl rfl ?_ (hI.rejected a [newConnection a.peer.label] e ha hi) ?_
    · simp [turnAway, note]
    · intro g hg
      cases hg
  · rw [h]
    refine hs.snoc rfl rfl ?_ (hI.started m a info [newConnection a.peer.label]
      (hm.trans hs.config_eq) hw hi) ?_
    · simp [withHandler, absorb, note]
    · intro g hg
      cases hg
      simp [Handler.forgetful, Handler.history]

theorem receive (hI : Upheld w config A I) (hs : s.Keeps config I) (id : Nat) (i : Incoming) :
    (s.receive w id i).Keeps config I := by
  refine hI.resume (s := { s with clients := s.clients.modify id (Client.receive i) })
    ⟨hs.config_eq, ?_, ?_, ?_⟩ id
  · intro j c hj
    simp only [List.getElem?_modify, Option.map_eq_map, Option.map_eq_some_iff] at hj
    obtain ⟨d, hd, rfl⟩ := hj
    have hi := hs.holds j d hd
    split
    · exact hI.received _ d i hi
    · exact hi
  · intro j hj
    exact hs.blank j (by simpa using hj)
  · intro j g hj
    simp only [List.getElem?_modify, Option.map_eq_map, Option.map_eq_some_iff] at hj
    obtain ⟨d, hd, he⟩ := hj
    split at he
    · cases d with
      | turnedAway c o => cases he
      | handled h =>
        cases he
        exact hs.idle j h hd
    · exact hs.idle j g (he ▸ hd)

/-- What each of several handlers that go on one after another keeps, all keep. -/
theorem foldl {α : Type} {f : Server → α → Server} (hf : ∀ s a, s.Keeps config I → (f s a).Keeps config I)
    (hs : s.Keeps config I) (xs : List α) : (xs.foldl f s).Keeps config I := by
  induction xs generalizing s with
  | nil => exact hs
  | cons x xs ih => exact ih (hf s x hs)

theorem release (hI : Upheld w config A I) (hs : s.Keeps config I) (held : Held) (client : String) :
    (s.release w held client).Keeps config I := by
  have hr : Keeps config I { s with released := s.released.insert (held, client) } :=
    ⟨hs.config_eq, hs.holds, hs.blank, hs.idle⟩
  exact foldl (fun s id hs => hI.resume hs id) hr _

theorem advance (hI : Upheld w config A I) (hs : s.Keeps config I) (span : Time) :
    (s.advance span).Keeps config I := by
  have hn : Keeps config I { s with now := s.now + span } :=
    ⟨hs.config_eq, hs.holds, hs.blank, hs.idle⟩
  exact foldl (fun s (t : Timer × Nat) hs => hs.run hI.expired) hn _

theorem step (hI : Upheld w config A I) (hs : s.Keeps config I) {i : Server.Input}
    (hA : ∀ a, i = .connect a → A a) : (s.step w i).Keeps config I := by
  cases i with
  | connect a => exact hI.connect hs (hA a rfl)
  | receive id i => exact hI.receive hs id i
  | release held client => exact hI.release hs held client
  | advance span => exact hI.advance hs span

/-- What is upheld for one client holds of all clients whenever a run stands still, if all that come are
of `A`. -/
theorem runAll_of_arrivals (hI : Upheld w config A I) {steps : List Service.Step}
    (hA : ∀ a, .client (.connect a) ∈ steps → A a) :
    ((Service.fresh config).runAll w steps).server.Keeps config I := by
  refine List.foldlRecOn (motive := fun s : Service => s.server.Keeps config I) steps _ ?_ ?_
  · exact ⟨rfl, by simp [Service.fresh], fun _ _ => rfl, by simp [Service.fresh]⟩
  · intro s hs i hi
    cases i with
    | client i =>
      refine hI.step hs fun a ha => hA a ?_
      rw [← ha]
      exact hi
    | start o => exact hs
    | stop => exact hs
    | serve o => exact hs

/-- What is upheld whoever comes. -/
theorem runAll (hI : Upheld w config (fun _ => True) I) (steps : List Service.Step) :
    ((Service.fresh config).runAll w steps).server.Keeps config I :=
  hI.runAll_of_arrivals fun _ _ => trivial

end Upheld
end Socks5
