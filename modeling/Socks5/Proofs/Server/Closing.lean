import Socks5.Proofs.Server.Authority
import Socks5.Proofs.Server.Rest

/-!
What is closed when a handler has ended. It closes the channel to the target first (`outbound_finish`), and
if that raises an error that is none of the system's, the client's channel is left open
(`closed_finish_iff`). So once a client with a proper address has come to its end, both channels are closed,
but for this one case (`closed_unless_stuck`).
-/
namespace Socks5

open Channel (Stream)

/-! ## The last step of a handler -/

namespace Channel.Stream

theorem waitClosed_eq_close (c : Stream) : c.waitClosed.2.2 = c.close := by
  unfold waitClosed
  repeat' split
  all_goals rfl

/-- A fault of the system is only noted. -/
theorem waitClosed_eq_error {c : Stream} :
    (∃ e, c.waitClosed.1 = .error e) ↔ ∃ f, c.closeFault = some f ∧ f.kind.isSystem = false := by
  unfold waitClosed
  cases hf : c.closeFault with
  | none => simp
  | some f => cases hs : f.kind.isSystem <;> simp [hs]

end Channel.Stream

namespace Handler

/-- To close the channel to the target raises an error that is none of the system's. -/
def Stuck (h : Handler) : Prop :=
  ∃ u f, h.outbound = some u ∧ u.closeFault = some f ∧ f.kind.isSystem = false

theorem closeOutbound_spec (h : Handler) :
    h.closeOutbound.2.outbound = h.outbound.map Stream.close ∧ h.closeOutbound.2.client = h.client ∧
      ((∃ e, h.closeOutbound.1 = .error e) ↔ h.Stuck) := by
  unfold closeOutbound Stuck
  cases hu : h.outbound with
  | none => simp [hu]
  | some u =>
    refine ⟨congrArg some u.waitClosed_eq_close, rfl, ?_⟩
    exact Stream.waitClosed_eq_error.trans (by simp)

theorem closeClient_spec (h : Handler) :
    h.closeClient.2.outbound = h.outbound ∧ h.closeClient.2.client = h.client.close :=
  ⟨rfl, Stream.waitClosed_eq_close _⟩

theorem finish_spec (o : Outcome) (h : Handler) :
    (h.finish o).outbound = h.outbound.map Stream.close ∧
      (h.Stuck → (h.finish o).client = h.client) ∧ (¬ h.Stuck → (h.finish o).client = h.client.close) := by
  obtain ⟨hu, hc, hs⟩ := closeOutbound_spec h
  unfold finish
  rcases hr : h.closeOutbound with ⟨r, h'⟩
  rw [hr] at hu hc hs
  cases r with
  | error e => exact ⟨hu, fun _ => hc, fun hn => absurd (hs.1 ⟨e, rfl⟩) hn⟩
  | ok =>
    have hn : ¬ h.Stuck := fun h => by
      obtain ⟨e, he⟩ := hs.2 h
      cases he
    obtain ⟨hu', hc'⟩ := closeClient_spec h'
    dsimp only
    rcases hr' : h'.closeClient with ⟨r, h''⟩
    rw [hr'] at hu' hc'
    have hclose : h''.client = h.client.close := hc'.trans (congrArg Stream.close hc)
    cases r with
    | error e => exact ⟨hu'.trans hu, fun h => absurd h hn, fun _ => hclose⟩
    | ok => exact ⟨hu'.trans hu, fun h => absurd h hn, fun _ => hclose⟩

/-- A handler that goes on has not closed the client's channel. One that has ended has closed the channel
to the target, and the client's too unless an error kept it from that. -/
def Closes (h : Handler) : Prop :=
  if h.isEnded then (∀ u, h.outbound = some u → u.closed = true) ∧ (h.client.closed = true ↔ ¬ h.Stuck)
  else h.client.closed = false

variable {released : List (Held × String)} {h g h' : Handler}

theorem closes_finish (o : Outcome) (hc : h.client.closed = false) : (h.finish o).Closes := by
  obtain ⟨hu, hs, hn⟩ := finish_spec o h
  have hstuck : (h.finish o).Stuck ↔ h.Stuck := by
    unfold Stuck
    rw [hu]
    simp [Stream.close]
  unfold Closes
  rw [if_pos (finish_keeps o h).1, hstuck]
  refine ⟨?_, ?_⟩
  · rw [hu]
    simp only [Option.map_eq_some_iff]
    rintro _ ⟨u, -, rfl⟩
    rfl
  · by_cases h : h.Stuck
    · rw [hs h, hc]
      simpa using h
    · rw [hn h]
      simpa [Stream.close] using h

theorem Rests.closes (hr : h.Rests released h') (hc : h.client.closed = false) : h'.Closes := by
  cases hr with
  | waits hk hn _ =>
    unfold Closes
    rw [hn]
    exact hk.closed.trans hc
  | ends hk => exact closes_finish _ (hk.closed.trans hc)

theorem Closes.client_open (hc : h.Closes) (hn : h.isEnded = false) : h.client.closed = false := by
  simpa [Closes, hn] using hc

theorem Closes.resume {m : Moment} (hc : h.Closes) : (h.resume m).Closes := by
  cases hn : h.isEnded with
  | true => rwa [resume_of_isEnded hn]
  | false => exact (rests_resume m hn).closes (hc.client_open hn)

theorem Closes.expire (hc : h.Closes) : h.expire.Closes := by
  cases hn : h.isEnded with
  | true => rwa [expire_of_isEnded hn]
  | false =>
    rcases @rests_expire [] h with he | he
    · rwa [he]
    · exact he.closes (hc.client_open hn)

end Handler

/-! ## All clients -/

/-- No name is known of the peer, or it has a port. -/
def Peer.Proper (p : Peer) : Prop :=
  p = none ∨ ∃ (host : Value) (port : Int), p = some (host, .int port) ∧ 0 ≤ port ∧ port ≤ 65535

theorem Peer.Proper.info {p : Peer} (hp : p.Proper) : ∃ i, p.info = .ok i := by
  have hport : ∃ n, Convert.port 0 p.parts.2 = .ok n := by
    rcases hp with rfl | ⟨host, port, rfl, hl, hu⟩
    · exact ⟨0, rfl⟩
    · have hlow : ¬ port < 0 := by omega
      have hhigh : ¬ 65535 < port := by omega
      refine ⟨port, ?_⟩
      simp [parts, Convert.port, Convert.check, Convert.integer, Convert.within, Convert.atLeast,
        hlow, hhigh, bind, Except.bind]
  obtain ⟨n, hn⟩ := hport
  let given : List (String × Value) :=
    [("client_address", .text p.parts.1.display), ("client_port", p.parts.2)]
  have hl : given.lookup "client_port" = some p.parts.2 := rfl
  refine ⟨{ clientAddress := p.parts.1.display, clientPort := n }, ?_⟩
  unfold Peer.info ConnectionInfo.ofFields Convert.required
  rw [Convert.field_of_ok hl hn]
  rfl

/-- A client that was turned away is closed. -/
def Client.Closes : Client → Prop
  | handled h => h.Closes
  | turnedAway c _ => c.closed = true

section

variable {w : Surroundings} {config : ServerConfig}

theorem upheld_closes (w : Surroundings) (config : ServerConfig) :
    Upheld w config (fun a => a.peer.Proper) (fun _ c => c.Closes) where
  refused a _ _ := Stream.closed_waitClosed a.channel
  rejected := by
    intro a es e hp he
    obtain ⟨i, hi⟩ := hp.info
    rw [hi] at he
    cases he
  started := by
    intro m a info es _ _ _
    exact (Handler.rests_start m a.peer.label info rfl).closes rfl
  received := by
    intro t c i hc
    cases c with
    | handled h => cases i <;> exact hc
    | turnedAway c o => cases i <;> exact hc
  resumed := by
    intro m t h _ _ hc _
    exact Handler.Closes.resume hc
  expired := by
    intro t h hc _
    exact Handler.Closes.expire hc

/-- Whatever comes from clients with proper addresses, and whatever fails: once a client has come to its
end, the channel to its target is closed if one was opened, and the client's own is closed unless closing
the other raised an error that is none of the system's. -/
theorem closed_unless_stuck (w : Surroundings) (config : ServerConfig) (steps : List Service.Step)
    (hp : ∀ a, .client (.connect a) ∈ steps → a.peer.Proper) (id : Nat) (c : Client) (o : Outcome)
    (hc : ((Service.fresh config).runAll w steps).server.clients[id]? = some c)
    (ho : c.outcome? = some o) :
    (Opened w (ledger (((Service.fresh config).runAll w steps).server.historyOf id)) →
      ∃ h u, c = .handled h ∧ h.outbound = some u ∧ u.closed = true) ∧
    (c.channel.closed = true ↔ ¬ ∃ h u f, c = .handled h ∧ h.outbound = some u ∧
      u.closeFault = some f ∧ f.kind.isSystem = false) := by
  have hcloses := ((upheld_closes w config).runAll_of_arrivals hp).holds id c hc
  obtain ⟨-, -, hopen⟩ := (((upheld_sound w config).runAll steps).holds id c hc).stands
  cases c with
  | turnedAway c o =>
    refine ⟨fun h => ?_, ?_⟩
    · obtain ⟨g, hg, -⟩ := hopen h
      cases hg
    · have hclosed : c.closed = true := hcloses
      simp [Client.channel, hclosed]
  | handled h =>
    have he : h.isEnded = true := by
      unfold Client.outcome? at ho
      unfold Handler.isEnded
      cases hctl : h.control <;> simp [hctl] at ho ⊢
    obtain ⟨hu, hclient⟩ : (∀ u, h.outbound = some u → u.closed = true) ∧
        (h.client.closed = true ↔ ¬ h.Stuck) := by
      simpa [Client.Closes, Handler.Closes, he] using hcloses
    refine ⟨fun h' => ?_, ?_⟩
    · obtain ⟨g, hg, hsome⟩ := hopen h'
      cases hg
      obtain ⟨u, hu'⟩ := Option.isSome_iff_exists.1 hsome
      exact ⟨h, u, rfl, hu', hu u hu'⟩
    · simpa [Handler.Stuck, Client.channel] using hclient

end

theorem closed_unless_stuck_greeting :
    ∃ c, ((Service.fresh {}).runAll greeter greeting).server.clients[0]? = some c ∧
      c.outcome? = some .returned ∧ c.channel.closed = true ∧
      ∃ h u, c = .handled h ∧ h.outbound = some u ∧ u.closed = true := by
  have hp : ∀ a, .client (.connect a) ∈ greeting → a.peer.Proper := by
    intro a ha
    simp only [greeting, List.mem_cons, Service.Step.client.injEq, Server.Input.connect.injEq,
      reduceCtorEq, List.not_mem_nil, or_false] at ha
    rw [ha]
    exact .inl rfl
  have hopened : Opened greeter (ledger (((Service.fresh {}).runAll greeter greeting).server.historyOf 0)) :=
    ⟨"10.0.0.1", 80, {}, by decide +kernel, rfl⟩
  obtain ⟨hu, hc⟩ := closed_unless_stuck greeter {} greeting hp 0 _ .returned rfl rfl
  refine ⟨_, rfl, rfl, hc.2 ?_, hu hopened⟩
  rintro ⟨h, u, f, hh, hu, hf, -⟩
  cases hh
  cases hu
  cases hf

/-- A network whose channels raise an error of the program when they are closed. -/
def brittle : Surroundings where
  network _ _ := .opens { closeFault := some ⟨.runtime, [.text "text"]⟩ }

/-- A client at 10.0.0.1 sends an offer and asks for port 443 of 127.0.0.1. -/
def hasty : List Service.Step :=
  [.client (.connect
    { peer := some (.text "10.0.0.1", .int 1001)
      sent := [5, 1, 0, 5, 1, 0, 1, 127, 0, 0, 1, 1, 187] })]

/-- The client has come to its end, and its channel was not closed. -/
theorem brittle_left_open :
    (∀ a, .client (.connect a) ∈ hasty → a.peer.Proper) ∧
      ∃ c o, ((Service.fresh {}).runAll brittle hasty).server.clients[0]? = some c ∧
        c.outcome? = some o ∧ c.channel.closed = false := by
  refine ⟨fun a ha => ?_, _, _, rfl, rfl, rfl⟩
  simp only [hasty, List.mem_singleton, Service.Step.client.injEq, Server.Input.connect.injEq] at ha
  rw [ha]
  exact .inr ⟨_, _, rfl, by decide, by decide⟩

end Socks5
