import Mathlib.Data.List.Induction
import Socks5.Proofs.Server.Attendance

/-!
The life of a client. Whoever has a handler came at one point of the run, and from there on its view is what its
later turns have made of it (`Service.life`). So what is upheld for one client by each of these turns, told of the
bytes that the client has sent so far and of what happened for it, holds of every handler in every run
(`Sustained.runAll`), and so does what is known of a handler at some state and upheld from there on
(`Sustained.standing_runAll`).
-/
namespace Socks5

/-! ## What a client sends -/

/-- What arrives from the client with this number. -/
def Service.Step.input? (id : Nat) : Service.Step → Option Incoming
  | .client (.receive j i) => if j = id then some i else none
  | _ => none

/-- What arrives from the client with this number in a run. -/
def inputsOf (id : Nat) (steps : List Service.Step) : List Incoming := steps.filterMap (Service.Step.input? id)

/-- The bytes among what arrives. -/
def Incoming.sent : Incoming → Bytes
  | bytes bs => bs
  | finish | readFault _ | writeFault _ => []

/-- The bytes that a client has sent, which came with some already. -/
def Arrival.sentWith (a : Arrival) (is : List Incoming) : Bytes := a.sent ++ is.flatMap Incoming.sent

theorem eq_of_input? {id : Nat} {x : Service.Step} {i : Incoming} (h : x.input? id = some i) :
    x = .client (.receive id i) := by
  cases x with
  | client y =>
    cases y with
    | receive j k =>
      by_cases hj : j = id <;> simp [Service.Step.input?, hj] at h
      rw [hj, h]
    | _ => cases h
  | _ => cases h

/-- The client comes as number `id` in the run, and `rest` is what follows. -/
def ComesIn (w : Surroundings) (config : ServerConfig) (steps : List Service.Step) (id : Nat) (a : Arrival)
    (rest : List Service.Step) : Prop :=
  ∃ before, steps = before ++ .client (.connect a) :: rest ∧
    ((Service.fresh config).runAll w before).server.clients.length = id

/-! ## The turns of a life -/

namespace Service

variable {w : Surroundings} {config : ServerConfig} {id came : Nat} {name : String} {steps : List Service.Step}
  {h : Handler}

/-- To a client that has come it does not matter how many came since. -/
theorem Step.turn?_of_lt (x : Service.Step) (hid : id < came) : x.turn? id name came = x.turn? id name (id + 1) := by
  have hne : came ≠ id := by omega
  cases x with
  | client i =>
    cases i with
    | connect a => simp [turn?, hne]
    | _ => rfl
  | _ => rfl

/-- What becomes of a client that has come. -/
def laterTurns (id : Nat) (name : String) (steps : List Service.Step) : List Turn :=
  steps.filterMap fun x => x.turn? id name (id + 1)

theorem isLater_of_mem {t : Turn} (ht : t ∈ laterTurns id name steps) : t.IsLater := by
  obtain ⟨x, -, hx⟩ := List.mem_filterMap.1 ht
  exact isLater_of_turn? (Nat.lt_succ_self id) hx

/-- Whoever has a handler came, with an address that makes a record, and went through its later turns. -/
theorem life (hc : ((fresh config).runAll w steps).server.clients[id]? = some (.handled h)) :
    ∃ before a rest info, steps = before ++ .client (.connect a) :: rest ∧
      ((fresh config).runAll w before).server.clients.length = id ∧ a.peer.info = .ok info ∧
      info.client = h.info.client ∧
      ((fresh config).runAll w steps).server.view id h.info.client =
        (laterTurns id h.info.client rest).foldl (View.step w h.info.client)
          ((((fresh config).runAll w before).server.view id h.info.client).come w a) := by
  induction steps using List.reverseRecOn generalizing h with
  | nil => cases hc
  | append_singleton steps x ih =>
    rw [runAll_concat] at hc ⊢
    rcases handled_step (acquainted_runAll w config steps) hc with
      ⟨a, info, rfl, hlen, hi, hn, hv⟩ | ⟨g, hold, hn, -⟩
    · exact ⟨steps, a, [], info, rfl, hlen, hi, hn, hv⟩
    · obtain ⟨before, a, rest, info, rfl, hlen, hi, hname, hv⟩ := ih hold
      rw [hn] at hname hv
      refine ⟨before, a, rest ++ [x], info, by simp, hlen, hi, hname, ?_⟩
      have hid : id < ((fresh config).runAll w (before ++ .client (.connect a) :: rest)).server.clients.length :=
        (List.getElem?_eq_some_iff.1 hold).1
      have hk := acquainted_runAll w config _ id g hold
      rw [hn] at hk
      have hturn : laterTurns id h.info.client (rest ++ [x]) =
          laterTurns id h.info.client rest ++ (x.turn? id h.info.client (id + 1)).toList := by
        rw [laterTurns, List.filterMap_append]
        cases hx : x.turn? id h.info.client (id + 1) <;> simp [laterTurns, hx]
      rw [view_step_of_lt x hid hk, x.turn?_of_lt hid, hturn, List.foldl_append, hv]

end Service

/-! ## What is upheld through a life -/

/-- What a turn brings. -/
def Turn.input? : Turn → Option Incoming
  | receive i => some i
  | come _ | release _ | pass _ => none

/-- `I` is upheld by each thing that can happen to a client that was let in, as one of `A` at its time: something
arrives that is of `B`, its handler goes on, or it runs out of time when the clock shows a time of `N`. It tells of
the bytes that the client has sent, of what has happened for it, and of its handler. -/
structure Sustained (w : Surroundings) (config : ServerConfig) (A : Time → Arrival → Prop) (B : Incoming → Prop)
    (N : Time → Prop) (I : Bytes → List Happening → Handler → Prop) : Prop where
  started : ∀ (m : Moment) (a : Arrival) info (es : List Event), A m.now a → m.config = config →
    m.surroundings = w → a.peer.info = .ok info →
    let h := Handler.start m a.peer.label info { channel := a.channel }
    I a.sent (es.map .noted ++ h.history) h.forgetful
  received : ∀ bs t (h : Handler) i, B i → h.history = [] → I bs t h → I (bs ++ i.sent) t (h.receive i)
  resumed : ∀ (m : Moment) bs t (h : Handler), m.config = config → m.surroundings = w → h.history = [] →
    I bs t h → I bs (t ++ (h.resume m).history) (h.resume m).forgetful
  expired : ∀ now x bs t (h : Handler), N now → h.timer? = some x → x.due ≤ now → h.history = [] → I bs t h →
    I bs (t ++ h.expire.history) h.expire.forgetful

/-- The client has a handler, and `I` holds of it. -/
structure View.Holds (config : ServerConfig) (I : Bytes → List Happening → Handler → Prop) (bs : Bytes)
    (v : View) : Prop where
  config_eq : v.config = config
  handled : ∃ h, v.client = some (.handled h) ∧ h.history = [] ∧ I bs v.history h

section

variable {w : Surroundings} {config : ServerConfig} {A : Time → Arrival → Prop} {B : Incoming → Prop}
  {N : Time → Prop} {I : Bytes → List Happening → Handler → Prop} {name : String} {bs : Bytes} {v : View}

theorem View.Holds.run {f : Handler → Handler} (hv : v.Holds config I bs)
    (hf : ∀ h, v.client = some (.handled h) → h.history = [] → I bs v.history h →
      I bs (v.history ++ (f h).history) (f h).forgetful) :
    (v.run f).Holds config I bs := by
  rcases View.run_cases f v with ⟨he, -⟩ | ⟨h, hc, -, he⟩
  · rwa [he]
  · obtain ⟨hconfig, g, hg, hh, hI⟩ := hv
    obtain rfl : g = h := Client.handled.inj (Option.some.inj (hg.symm.trans hc))
    rw [he]
    exact ⟨hconfig, _, rfl, Handler.history_forgetful _, hf g hc hh hI⟩

namespace Sustained

variable (hI : Sustained w config A B N I)

include hI

theorem resume (hv : v.Holds config I bs) : (v.resume w).Holds config I bs :=
  hv.run fun h _ hh h' => hI.resumed (v.moment w) bs v.history h hv.config_eq rfl hh h'

theorem come {a : Arrival} {info : ConnectionInfo} (ha : A v.now a) (hi : a.peer.info = .ok info)
    (hv : v.config = config) (hh : v.history = []) : (v.come w a).Holds config I a.sent := by
  have hs := hI.started (v.moment w) a info [Server.newConnection a.peer.label] ha hv rfl hi
  unfold View.come
  rw [hi, hh]
  exact ⟨hv, _, rfl, Handler.history_forgetful _, hs⟩

theorem step (name : String) {t : Turn} (ht : t.IsLater) (hB : ∀ i, t.input? = some i → B i)
    (hN : N (v.step w name t).now) (hv : v.Holds config I bs) :
    (v.step w name t).Holds config I (bs ++ t.input?.toList.flatMap Incoming.sent) := by
  obtain ⟨hconfig, h, hc, hh, hI'⟩ := hv
  cases t with
  | come a => exact absurd rfl (ht a)
  | receive i =>
    refine hI.resume (v := { v with client := v.client.map (Client.receive i) }) ⟨hconfig, h.receive i, ?_, hh, ?_⟩
    · dsimp only
      rw [hc]
      rfl
    · simpa [Turn.input?] using hI.received bs v.history h i (hB i rfl) hh hI'
  | release held =>
    refine hI.resume (v := { v with released := v.released.insert (held, name) }) ⟨hconfig, h, hc, hh, ?_⟩
    simpa [Turn.input?] using hI'
  | pass span =>
    have hv : View.Holds config I (bs ++ []) { v with now := v.now + span } :=
      ⟨hconfig, h, hc, hh, by simpa using hI'⟩
    rw [View.now_pass] at hN
    unfold View.step
    dsimp only
    split
    · next hdue =>
      refine hv.run fun h hc hh h' => ?_
      obtain ⟨x, hx, hle⟩ := (View.isDue_iff hc).1 hdue
      exact hI.expired _ x _ v.history h hN hx hle hh h'
    · exact hv

theorem turns (hN : ∀ now, N now) (name : String) {ts : List Turn} (ht : ∀ t ∈ ts, t.IsLater)
    (hB : ∀ t ∈ ts, ∀ i, t.input? = some i → B i) (hv : v.Holds config I bs) :
    (ts.foldl (View.step w name) v).Holds config I (bs ++ (ts.filterMap Turn.input?).flatMap Incoming.sent) := by
  induction ts generalizing v bs with
  | nil => simpa using hv
  | cons t ts ih =>
    have hs := hI.step name (ht t List.mem_cons_self) (hB t List.mem_cons_self) (hN _) hv
    have hrest := ih (fun t h => ht t (List.mem_cons_of_mem _ h)) (fun t h => hB t (List.mem_cons_of_mem _ h)) hs
    have hsent : ((t :: ts).filterMap Turn.input?).flatMap Incoming.sent =
        t.input?.toList.flatMap Incoming.sent ++ (ts.filterMap Turn.input?).flatMap Incoming.sent := by
      cases h : t.input? <;> simp [h]
    rw [hsent, ← List.append_assoc]
    exact hrest

end Sustained

/-- What the turns of a client bring is what arrives from it. -/
theorem inputs_laterTurns (id : Nat) (name : String) (steps : List Service.Step) :
    (Service.laterTurns id name steps).filterMap Turn.input? = inputsOf id steps := by
  rw [Service.laterTurns, List.filterMap_filterMap, inputsOf]
  refine List.filterMap_congr fun x _ => ?_
  cases x with
  | client i =>
    cases i with
    | connect a => simp [Service.Step.turn?, Service.Step.input?]
    | receive j i => by_cases hj : j = id <;> simp [Service.Step.turn?, Service.Step.input?, Turn.input?, hj]
    | release held c => by_cases hc : c = name <;> simp [Service.Step.turn?, Service.Step.input?, Turn.input?, hc]
    | advance span => rfl
  | _ => rfl

/-- What is upheld for a client holds of each handler in every run, where those that come and what arrives are of
`A` and `B`. -/
theorem Sustained.runAll (hI : Sustained w config A B N I) (hN : ∀ now, N now) {steps : List Service.Step}
    (hA : ∀ now a, .client (.connect a) ∈ steps → A now a) (hB : ∀ id i, .client (.receive id i) ∈ steps → B i)
    {id : Nat} {h : Handler}
    (hc : ((Service.fresh config).runAll w steps).server.clients[id]? = some (.handled h)) :
    ∃ a rest, ComesIn w config steps id a rest ∧ I (a.sentWith (inputsOf id rest))
      ((((Service.fresh config).runAll w steps).server.historyOf id).map Happening.unnumbered) h := by
  obtain ⟨before, a, rest, info, rfl, hlen, hi, -, hv⟩ := Service.life hc
  have hkeeps := (upheld_sound w config).runAll before
  have hblank : (((Service.fresh config).runAll w before).server.view id h.info.client).history = [] := by
    rw [Server.view, hkeeps.blank id (Nat.le_of_eq hlen)]
    rfl
  have hcame := hI.come (hA _ a (by simp)) hi hkeeps.config_eq hblank
  have hB' : ∀ t ∈ Service.laterTurns id h.info.client rest, ∀ i, t.input? = some i → B i := by
    intro t ht i hti
    have hmem : i ∈ inputsOf id rest := by
      rw [← inputs_laterTurns id h.info.client]
      exact List.mem_filterMap.2 ⟨t, ht, hti⟩
    obtain ⟨x, hx, hxi⟩ := List.mem_filterMap.1 hmem
    exact hB id i (by simp [eq_of_input? hxi ▸ hx])
  have hends := hI.turns hN h.info.client (fun t ht => Service.isLater_of_mem ht) hB' hcame
  rw [inputs_laterTurns, ← hv] at hends
  obtain ⟨-, g, hg, -, hI'⟩ := hends
  obtain rfl : h = g := Client.handled.inj (Option.some.inj (hc.symm.trans hg))
  exact ⟨a, rest, ⟨before, rfl, hlen⟩, hI'⟩

end

/-! ## From a state on -/

/-- The client has come and goes by the name, and `I` holds of its handler and of what it has sent. -/
structure Service.Standing (config : ServerConfig) (I : Bytes → List Happening → Handler → Prop) (id : Nat)
    (name : String) (bs : Bytes) (s : Service) : Prop where
  came : id < s.server.clients.length
  known : (s.server.view id name).Known name
  holds : (s.server.view id name).Holds config I bs

section Standing

variable {w : Surroundings} {config : ServerConfig} {A : Time → Arrival → Prop} {B : Incoming → Prop} {N : Time → Prop}
  {I J : Bytes → List Happening → Handler → Prop} {id : Nat} {name : String} {bs : Bytes} {s : Service}

theorem Service.Standing.imp (hs : s.Standing config I id name bs)
    (h : ∀ t g, g.Settled (s.server.view id name).released → I bs t g → J bs t g) :
    s.Standing config J id name bs := by
  obtain ⟨hconfig, g, hc, hh, hI⟩ := hs.holds
  exact ⟨hs.came, hs.known, hconfig, g, hc, hh, h _ g (hs.known.settled g hc) hI⟩

namespace Sustained

variable (hI : Sustained w config A B N I)

include hI

/-- A client that is let in stands so, whatever came before it. -/
theorem standing_connect (before : List Service.Step) {a : Arrival} {info : ConnectionInfo}
    (hA : A ((Service.fresh config).runAll w before).server.now a)
    (hroom : ((Service.fresh config).runAll w before).server.active <
      ((Service.fresh config).runAll w before).server.config.maxConnections) (hi : a.peer.info = .ok info) :
    (((Service.fresh config).runAll w before).step w (.client (.connect a))).Standing config I
      ((Service.fresh config).runAll w before).server.clients.length info.client a.sent := by
  have hname : ∀ i, a.peer.info = .ok i → i.client = info.client := by
    intro i hi'
    rw [hi] at hi'
    cases hi'
    rfl
  have hview := Server.view_connect_self rfl w hroom hname
  have hkeeps := (upheld_sound w config).runAll before
  have hblank : (((Service.fresh config).runAll w before).server.view
      ((Service.fresh config).runAll w before).server.clients.length info.client).history = [] := by
    rw [Server.view, hkeeps.blank _ (Nat.le_refl _)]
    rfl
  refine ⟨?_, ?_, ?_⟩
  · rw [Service.length_step]
    exact Nat.lt_succ_self _
  · exact hview ▸ View.known_come w hname _
  · exact hview ▸ hI.come hA hi hkeeps.config_eq hblank

theorem standing_step {x : Service.Step} (hB : ∀ i ∈ inputsOf id [x], B i) (hN : N (s.step w x).server.now)
    (hs : s.Standing config I id name bs) :
    (s.step w x).Standing config I id name (bs ++ (inputsOf id [x]).flatMap Incoming.sent) := by
  have hview := Service.view_step_of_lt (w := w) x hs.came hs.known
  have hinputs := inputs_laterTurns id name [x]
  rw [Service.laterTurns, List.filterMap_cons, List.filterMap_nil, ← x.turn?_of_lt hs.came] at hinputs
  refine ⟨?_, hs.known.next (Service.next_step x hs.came hs.known), ?_⟩
  · rw [Service.length_step]
    exact Nat.lt_of_lt_of_le hs.came (Nat.le_add_right _ _)
  · have hnow : ((s.step w x).server.view id name).now = (s.step w x).server.now := rfl
    cases ht : x.turn? id name s.server.clients.length with
    | none =>
      rw [ht] at hview hinputs
      rw [← hinputs, hview]
      simpa using hs.holds
    | some t =>
      rw [ht] at hview hinputs
      rw [← hinputs] at hB ⊢
      rw [← hnow, hview] at hN
      rw [hview]
      have hB' : ∀ i, t.input? = some i → B i := fun i hi => hB i (by simp [hi])
      have hstep := hI.step name (isLater_of_turn? hs.came ht) hB' hN hs.holds
      cases hi : t.input? <;> simpa [hi] using hstep

theorem standing_runAll {steps : List Service.Step} (hB : ∀ i ∈ inputsOf id steps, B i)
    (hN : ∀ first, first <+: steps → N (s.runAll w first).server.now) (hs : s.Standing config I id name bs) :
    (s.runAll w steps).Standing config I id name (bs ++ (inputsOf id steps).flatMap Incoming.sent) := by
  induction steps generalizing s bs with
  | nil =>
    have hnil : bs ++ (inputsOf id []).flatMap Incoming.sent = bs := List.append_nil bs
    rw [hnil]
    exact hs
  | cons x steps ih =>
    have hcons : inputsOf id (x :: steps) = inputsOf id [x] ++ inputsOf id steps := by
      rw [← List.singleton_append, inputsOf, List.filterMap_append]
      rfl
    rw [hcons, List.flatMap_append, ← List.append_assoc]
    rw [hcons] at hB
    refine ih (fun i hi => hB i (List.mem_append_right _ hi)) (fun first hf => ?_) ?_
    · exact hN (x :: first) (List.cons_prefix_cons.2 ⟨rfl, hf⟩)
    · refine hI.standing_step (fun i hi => hB i (List.mem_append_left _ hi)) ?_ hs
      exact hN [x] (List.cons_prefix_cons.2 ⟨rfl, List.nil_prefix⟩)

end Sustained
end Standing

end Socks5
