import Socks5.Proofs.Server.Attendance

/-!
Which sockets a server listens on. It has the last one in hand and closes no other, so a socket that is replaced
before it was closed stays open for good. Stopping leaves open just these (`open_stop`), and so it closes all
sockets that were ever opened exactly if none was replaced while it was open (`stop_closes_iff`). A try to listen
that fails changes nothing.
-/
namespace Socks5

/-! ## The sockets of a listener -/

namespace Listener

/-- The sockets that clients can still come to. -/
def opened (l : Listener) : List Socket := l.sockets.filter (!·.closed)

/-- Those of them that are no longer in hand. -/
def adrift (l : Listener) : List Socket := l.sockets.dropLast.filter (!·.closed)

theorem closeLast_concat (ss : List Socket) (k : Socket) :
    closeLast (ss ++ [k]) = ss ++ [{ k with closed := true }] := by
  induction ss with
  | nil => rfl
  | cons s ss ih =>
    cases ss with
    | nil => rfl
    | cons s' ss => exact congrArg (s :: ·) ih

theorem dropLast_closeLast (ss : List Socket) : (closeLast ss).dropLast = ss.dropLast := by
  rcases ss.eq_nil_or_concat' with rfl | ⟨ss, k, rfl⟩
  · rfl
  · rw [closeLast_concat, List.dropLast_concat, List.dropLast_concat]

theorem addresses_closeLast (ss : List Socket) :
    (closeLast ss).map Socket.addresses = ss.map Socket.addresses := by
  rcases ss.eq_nil_or_concat' with rfl | ⟨ss, k, rfl⟩
  · rfl
  · simp [closeLast_concat]

/-- With the socket in hand closed, those that are not in hand are left. -/
theorem filter_closeLast (ss : List Socket) :
    (closeLast ss).filter (!·.closed) = ss.dropLast.filter (!·.closed) := by
  rcases ss.eq_nil_or_concat' with rfl | ⟨ss, k, rfl⟩
  · rfl
  · simp [closeLast_concat, List.filter_append]

theorem sockets_stop (l : Listener) : l.stop.sockets = closeLast l.sockets := by
  unfold stop
  dsimp only
  split <;> rfl

/-- Serving closes the socket in hand at the end, and opens one only where there is none. -/
theorem sockets_serve (l : Listener) (o : Opening) :
    (l.serve o).2.sockets = closeLast (if l.sockets.isEmpty then (l.start o).2.sockets else l.sockets) := by
  unfold serve
  cases hs : l.sockets.isEmpty with
  | false => rfl
  | true =>
    cases o with
    | error f =>
      have hnone : l.sockets = [] := List.isEmpty_iff.1 hs
      simp only [if_true, start, act, hnone, closeLast]
    | ok addresses => rfl

theorem filter_eq_adrift (l : Listener) : l.opened = l.adrift ++ (l.current?.filter (!·.closed)).toList := by
  unfold opened adrift current?
  rcases l.sockets.eq_nil_or_concat' with h | ⟨ss, k, h⟩
  · rw [h]
    rfl
  · rw [h, List.dropLast_concat, List.filter_append, List.getLast?_concat]
    cases hk : k.closed <;> simp [Option.filter, hk]

end Listener

/-! ## What the steps of a run do to them -/

namespace Service

variable {w : Surroundings} {s : Service} {α : Type}

/-- The addresses of the socket that a step opens, if it opens one. -/
def opens? (s : Service) : Step → Option (List (Value × Value))
  | .start (.ok addresses) => some addresses
  | .serve (.ok addresses) => if s.listener.sockets.isEmpty then some addresses else none
  | _ => none

/-- The socket that a step replaces although clients can still come to it. -/
def replaces? (s : Service) : Step → Option Socket
  | .start (.ok _) => s.listener.current?.filter (!·.closed)
  | _ => none

/-- What the steps of a run give, one after the other. -/
def gathered (w : Surroundings) (f : Service → Step → Option α) (s : Service) : List Step → List α
  | [] => []
  | x :: steps => (f s x).toList ++ gathered w f (s.step w x) steps

theorem mem_gathered {f : Service → Step → Option α} {steps : List Step} {a : α} :
    a ∈ gathered w f s steps ↔
      ∃ before x later, steps = before ++ x :: later ∧ f (s.runAll w before) x = some a := by
  induction steps generalizing s with
  | nil => simp [gathered]
  | cons y steps ih =>
    rw [gathered, List.mem_append, Option.mem_toList, ih]
    constructor
    · rintro (h | ⟨before, x, later, rfl, h⟩)
      · exact ⟨[], y, steps, rfl, h⟩
      · exact ⟨y :: before, x, later, rfl, h⟩
    · rintro ⟨before, x, later, he, h⟩
      cases before with
      | nil =>
        cases he
        exact .inl h
      | cons z before =>
        cases he
        exact .inr ⟨before, x, later, rfl, h⟩

/-- What each step adds is what a run has gathered. -/
theorem runAll_gathered (view : Service → List α) {f : Service → Step → Option α}
    (h : ∀ s x, view (s.step w x) = view s ++ (f s x).toList) (s : Service) (steps : List Step) :
    view (s.runAll w steps) = view s ++ gathered w f s steps := by
  induction steps generalizing s with
  | nil => exact (List.append_nil _).symm
  | cons x steps ih =>
    calc view (s.runAll w (x :: steps))
        = view (s.step w x) ++ gathered w f (s.step w x) steps := ih (s.step w x)
      _ = view s ++ gathered w f s (x :: steps) := by rw [h, List.append_assoc, gathered]

theorem addresses_step (s : Service) (x : Step) :
    (s.step w x).listener.sockets.map Socket.addresses =
      s.listener.sockets.map Socket.addresses ++ (s.opens? x).toList := by
  cases x with
  | client i => exact (List.append_nil _).symm
  | start o =>
    cases o with
    | error f => exact (List.append_nil _).symm
    | ok addresses => exact List.map_append
  | stop =>
    change s.listener.stop.sockets.map _ = _
    rw [Listener.sockets_stop, Listener.addresses_closeLast]
    exact (List.append_nil _).symm
  | serve o =>
    change (s.listener.serve o).2.sockets.map _ = _
    rw [Listener.sockets_serve, Listener.addresses_closeLast]
    cases hs : s.listener.sockets.isEmpty with
    | false => cases o <;> simp [opens?, hs]
    | true => cases o <;> simp [Listener.start, Listener.act, Listener.note, opens?, hs]

/-- A socket gets adrift only where it is replaced while it is open. -/
theorem adrift_step (s : Service) (x : Step) :
    (s.step w x).listener.adrift = s.listener.adrift ++ (s.replaces? x).toList := by
  cases x with
  | client i => exact (List.append_nil _).symm
  | start o =>
    cases o with
    | error f => exact (List.append_nil _).symm
    | ok addresses =>
      change (s.listener.sockets ++ [({ addresses } : Socket)]).dropLast.filter _ = _
      rw [List.dropLast_concat]
      exact s.listener.filter_eq_adrift
  | stop =>
    change s.listener.stop.adrift = _
    rw [Listener.adrift, Listener.sockets_stop, Listener.dropLast_closeLast]
    exact (List.append_nil _).symm
  | serve o =>
    change (s.listener.serve o).2.adrift = _
    rw [Listener.adrift, Listener.sockets_serve, Listener.dropLast_closeLast]
    cases hs : s.listener.sockets.isEmpty with
    | false => exact (List.append_nil _).symm
    | true =>
      have hnone : s.listener.sockets = [] := List.isEmpty_iff.1 hs
      cases o <;> simp [Listener.start, Listener.act, Listener.note, Listener.adrift, replaces?, hnone]

theorem addresses_runAll (w : Surroundings) (config : ServerConfig) (steps : List Step) :
    ((fresh config).runAll w steps).listener.sockets.map Socket.addresses =
      gathered w opens? (fresh config) steps :=
  runAll_gathered (fun s => s.listener.sockets.map Socket.addresses) addresses_step (fresh config) steps

theorem adrift_runAll (w : Surroundings) (config : ServerConfig) (steps : List Step) :
    ((fresh config).runAll w steps).listener.adrift = gathered w replaces? (fresh config) steps :=
  runAll_gathered (fun s => s.listener.adrift) adrift_step (fresh config) steps

/-- Some step of the run begins to listen anew while clients can still come to the socket in hand. -/
def Supersedes (w : Surroundings) (config : ServerConfig) (steps : List Step) : Prop :=
  ∃ before addresses later k, steps = before ++ .start (.ok addresses) :: later ∧
    ((fresh config).runAll w before).listener.current? = some k ∧ k.closed = false

theorem supersedes_iff {config : ServerConfig} {steps : List Step} :
    Supersedes w config steps ↔ gathered w replaces? (fresh config) steps ≠ [] := by
  rw [ne_eq, List.eq_nil_iff_forall_not_mem, not_forall_not]
  simp only [mem_gathered]
  constructor
  · rintro ⟨before, addresses, later, k, he, hc, hk⟩
    exact ⟨k, before, _, later, he, by simp [replaces?, hc, hk]⟩
  · rintro ⟨k, before, x, later, he, h⟩
    unfold replaces? at h
    split at h
    · next addresses =>
      obtain ⟨hc, hk⟩ := Option.filter_eq_some_iff.1 h
      exact ⟨before, addresses, later, k, he, hc, by simpa using hk⟩
    · cases h

/-! ## Stopping -/

/-- Stopping closes the socket in hand and no other. -/
theorem open_stop (w : Surroundings) (s : Service) : (s.step w .stop).listener.opened = s.listener.adrift := by
  change s.listener.stop.opened = _
  rw [Listener.opened, Listener.sockets_stop]
  exact Listener.filter_closeLast _

theorem running_stop (w : Surroundings) (s : Service) : (s.step w .stop).listener.running = false := by
  change s.listener.stop.running = false
  unfold Listener.stop
  dsimp only
  split <;> rfl

/-- Whatever a server was told before, in whatever order and however often, and whichever tries to listen failed:
once it is stopped it does not run, and of all sockets that were ever opened just those are open that were replaced
while they were; so all are closed exactly if none was. A try to listen that fails leaves the sockets and the
clients as they are. -/
theorem stop_closes_iff (w : Surroundings) (config : ServerConfig) (steps : List Step) :
    let s := (fresh config).runAll w steps
    let t := s.step w .stop
    t.listener.running = false ∧
      t.listener.sockets.map Socket.addresses = gathered w opens? (fresh config) steps ∧
      t.listener.opened = gathered w replaces? (fresh config) steps ∧
      ((∀ k ∈ t.listener.sockets, k.closed = true) ↔ ¬ Supersedes w config steps) ∧
      ∀ f, (s.perform w (.start (.error f))).1 = .error f ∧
        (s.step w (.start (.error f))).listener.running = s.listener.running ∧
        (s.step w (.start (.error f))).listener.sockets = s.listener.sockets ∧
        (s.step w (.start (.error f))).server = s.server := by
  intro s t
  have hopen : t.listener.opened = gathered w replaces? (fresh config) steps :=
    (open_stop w s).trans (adrift_runAll w config steps)
  refine ⟨running_stop w s, ?_, hopen, ?_, fun f => ⟨rfl, rfl, rfl, rfl⟩⟩
  · change s.listener.stop.sockets.map _ = _
    rw [Listener.sockets_stop, Listener.addresses_closeLast]
    exact addresses_runAll w config steps
  · rw [supersedes_iff, not_not, ← hopen, Listener.opened, List.filter_eq_nil_iff]
    simp

/-- A server that begins to listen twice. -/
def startedTwice : List Step :=
  [.start (.ok [(.text "127.0.0.1", .int 4000)]), .start (.ok [(.text "127.0.0.1", .int 4001)])]

/-- Stopping it leaves its first socket open. -/
theorem first_socket_left_open :
    let t := ((fresh { port := 0 }).runAll { network := fun _ _ => .hangs } startedTwice).step
      { network := fun _ _ => .hangs } .stop
    t.listener.running = false ∧ ¬ ∀ k ∈ t.listener.sockets, k.closed = true := by
  refine ⟨rfl, fun h => ?_⟩
  have hfirst := h ⟨[(.text "127.0.0.1", .int 4000)], false⟩ List.mem_cons_self
  cases hfirst

end Service
end Socks5
