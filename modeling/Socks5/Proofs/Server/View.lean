import Socks5.Proofs.Server.Rest
import Socks5.Proofs.Server.Standpoint
import Socks5.Server.Service

/-!
A server as one of its clients sees it (`View`), and what that client meets of a run (`Turn`, `turns`): the
passing of time, and its own steps. A view changes by the turns alone (`View.step`). Between them the
client's handler is at rest (`View.Known`), and so it stays as it is whoever else does something.
-/
namespace Socks5

/-! ## Turns -/

/-- What a run has in store for one client. -/
inductive Turn where
  | come (a : Arrival)
  | receive (i : Incoming)
  | release (held : Held)
  | pass (span : Time)

namespace Service.Step

/-- How many clients come with a step. -/
def arrivals : Service.Step → Nat
  | .client (.connect _) => 1
  | _ => 0

/-- What the step is to the client that comes as number `id` and goes by `name`, once `came` clients have
come. The steps of others are nothing to it. -/
def turn? (id : Nat) (name : String) (came : Nat) : Service.Step → Option Turn
  | .client (.connect a) => if came = id then some (.come a) else none
  | .client (.receive j i) => if j = id then some (.receive i) else none
  | .client (.release held c) => if c = name then some (.release held) else none
  | .client (.advance span) => some (.pass span)
  | .start _ | .stop | .serve _ => none

end Service.Step

/-- What a run has in store for a client, once `came` clients have come. -/
def turns (id : Nat) (name : String) : Nat → List Service.Step → List Turn
  | _, [] => []
  | came, x :: xs => (x.turn? id name came).toList ++ turns id name (came + x.arrivals) xs

/-- The client that comes goes by `name`, if its address makes a record. -/
def GoesBy (name : String) (ts : List Turn) : Prop :=
  ∀ a info, .come a ∈ ts → a.peer.info = .ok info → info.client = name

/-! ## Views -/

/-- What there is to see of a server for one client and for whoever watches that client. -/
structure View where
  config : ServerConfig
  now : Time := 0
  /-- What need not hold of the client's. -/
  released : List (Held × String) := []
  client : Option Client := none
  history : List Happening := []

namespace View

def moment (w : Surroundings) (v : View) : Moment := ⟨v.config, w, v.now, 0, v.released⟩

/-- Lets the client's handler do something, unless there is none or it has ended. -/
def run (f : Handler → Handler) (v : View) : View :=
  match v.client.bind Client.handler? with
  | some h =>
    if h.isEnded then v
    else { v with client := some (.handled (f h).forgetful), history := v.history ++ (f h).history }
  | none => v

def resume (w : Surroundings) (v : View) : View := v.run (Handler.resume (v.moment w))

/-- The client comes and is let in, unless its address makes no record. -/
def come (w : Surroundings) (a : Arrival) (v : View) : View :=
  let noted : Happening := .noted (Server.newConnection a.peer.label)
  match a.peer.info with
  | .error e =>
    { v with client := some (.turnedAway a.channel (.invalid e)), history := v.history ++ [noted] }
  | .ok info =>
    let h := Handler.start (v.moment w) a.peer.label info { channel := a.channel }
    { v with client := some (.handled h.forgetful), history := v.history ++ noted :: h.history }

def timer? (v : View) : Option Timer := (v.client.bind Client.handler?).bind Handler.timer?

/-- The client's timer has run out. -/
def isDue (v : View) : Bool := v.timer?.any (·.due ≤ v.now)

def step (w : Surroundings) (name : String) (v : View) : Turn → View
  | .come a => v.come w a
  | .receive i => ({ v with client := v.client.map (Client.receive i) } : View).resume w
  | .release held => ({ v with released := v.released.insert (held, name) } : View).resume w
  | .pass span =>
    let v := { v with now := v.now + span }
    if v.isDue then v.run Handler.expire else v

/-! ## Handlers at rest -/

/-- The client's handler goes by `name` and has told of all that it did. -/
def Named (name : String) (v : View) : Prop :=
  ∀ h, v.client = some (.handled h) → h.history = [] ∧ h.info.client = name

/-- The client's handler is at rest too. -/
structure Known (name : String) (v : View) : Prop where
  named : v.Named name
  settled : ∀ h, v.client = some (.handled h) → h.Settled v.released

variable {w : Surroundings} {name : String} {v : View}

/-- A handler that is there and has not ended does something, or nothing happens. -/
theorem run_cases (f : Handler → Handler) (v : View) :
    (v.run f = v ∧ ∀ h, v.client = some (.handled h) → h.isEnded = true) ∨
      ∃ h, v.client = some (.handled h) ∧ h.isEnded = false ∧
        v.run f = { v with client := some (.handled (f h).forgetful), history := v.history ++ (f h).history } := by
  unfold run
  cases hc : v.client with
  | none =>
    refine .inl ⟨rfl, fun h hh => ?_⟩
    cases hh
  | some c =>
    cases c with
    | turnedAway c o =>
      refine .inl ⟨rfl, fun h hh => ?_⟩
      cases hh
    | handled h =>
      cases hn : h.isEnded with
      | true =>
        refine .inl ⟨by simp [Client.handler?, hn], ?_⟩
        rintro g ⟨⟩
        exact hn
      | false => exact .inr ⟨h, rfl, hn, by simp [Client.handler?, hn]⟩

@[simp] theorem now_run (f : Handler → Handler) (v : View) : (v.run f).now = v.now := by
  rcases run_cases f v with ⟨he, -⟩ | ⟨h, -, -, he⟩ <;> rw [he]

@[simp] theorem now_pass (w : Surroundings) (name : String) (span : Time) (v : View) :
    (v.step w name (.pass span)).now = v.now + span := by
  unfold step
  dsimp only
  split
  · exact now_run _ _
  · rfl

/-- The handler that is there has done its part, or it has ended. -/
theorem client_run {f : Handler → Handler} {h : Handler} (hc : v.client = some (.handled h)) :
    (v.run f).client = some (.handled (if h.isEnded then h else (f h).forgetful)) := by
  unfold run
  rw [hc]
  cases hn : h.isEnded with
  | true => simpa [Client.handler?, hn] using hc
  | false => simp [Client.handler?, hn]

theorem isDue_iff {h : Handler} (hc : v.client = some (.handled h)) :
    v.isDue = true ↔ ∃ x, h.timer? = some x ∧ x.due ≤ v.now := by
  unfold isDue timer?
  rw [hc]
  simp [Client.handler?, Option.any_eq_true]

theorem known_run {f : Handler → Handler} (hv : v.Named name)
    (hf : ∀ h, v.client = some (.handled h) → h.isEnded = false →
      (f h).info.client = h.info.client ∧ (f h).Settled v.released) : (v.run f).Known name := by
  rcases run_cases f v with ⟨he, hended⟩ | ⟨h, hc, hn, he⟩
  · rw [he]
    exact ⟨hv, fun h hc => Handler.settled_of_isEnded (hended h hc)⟩
  · rw [he]
    obtain ⟨hname, hs⟩ := hf h hc hn
    constructor <;> intro g hg <;> obtain rfl : (f h).forgetful = g := Client.handled.inj (Option.some.inj hg)
    · exact ⟨Handler.history_forgetful _, hname.trans (hv h hc).2⟩
    · exact hs.forgetful

theorem known_resume (w : Surroundings) (hv : v.Named name) : (v.resume w).Known name := by
  refine known_run hv fun h _ hn => ?_
  have hr := Handler.rests_resume (v.moment w) hn
  exact ⟨hr.client, hr.settled⟩

theorem known_come (w : Surroundings) {a : Arrival} (hn : ∀ info, a.peer.info = .ok info → info.client = name)
    (v : View) : (v.come w a).Known name := by
  unfold come
  cases hi : a.peer.info with
  | error e => constructor <;> intro g hg <;> cases hg
  | ok info =>
    have hr := Handler.rests_start (v.moment w) a.peer.label info (s := { channel := a.channel }) rfl
    constructor <;> intro g hg <;> obtain rfl := Client.handled.inj (Option.some.inj hg)
    · exact ⟨Handler.history_forgetful _, hr.client.trans (hn info hi)⟩
    · exact hr.settled.forgetful

theorem resume_of_none (hc : v.client = none) : v.resume w = v := by
  rw [resume, run, hc]
  rfl

/-- A handler at rest stays as it is. -/
theorem Known.resume_eq (hk : v.Known name) : v.resume w = v := by
  rcases run_cases (Handler.resume (v.moment w)) v with ⟨he, -⟩ | ⟨h, hc, -, he⟩
  · exact he
  · have hr : h.resume (v.moment w) = h := (hk.settled h hc).resume_eq fun _ => rfl
    have hh := (hk.named h hc).1
    rw [hr, Handler.forgetful_of_history hh, hh, List.append_nil, ← hc] at he
    exact he

theorem Named.receive (hv : v.Named name) (i : Incoming) :
    Named name { v with client := v.client.map (Client.receive i) } := by
  intro h hc
  obtain ⟨c, hc', he⟩ := Option.map_eq_some_iff.1 hc
  cases c with
  | turnedAway c o => cases he
  | handled g =>
    cases he
    exact hv g hc'

/-- Whatever turn it is, the client's handler comes to rest. -/
theorem Known.step (w : Surroundings) (hk : v.Known name) {t : Turn} (hn : GoesBy name [t]) :
    (v.step w name t).Known name := by
  cases t with
  | come a => exact known_come w (fun info => hn a info List.mem_cons_self) v
  | receive i => exact known_resume w (hk.named.receive i)
  | release held => exact known_resume (v := { v with released := v.released.insert (held, name) }) w hk.named
  | pass span =>
    have hk' : Known name { v with now := v.now + span } := ⟨hk.named, hk.settled⟩
    unfold View.step
    dsimp only
    split
    · refine known_run hk'.named fun h hc _ => ?_
      rcases @Handler.rests_expire v.released h with he | hr
      · rw [he]
        exact ⟨rfl, hk'.settled h hc⟩
      · exact ⟨hr.client, hr.settled⟩
    · exact hk'

end View
end Socks5
