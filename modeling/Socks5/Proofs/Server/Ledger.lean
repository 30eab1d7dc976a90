import Mathlib.Data.List.Induction
import Socks5.Proofs.Wire.Grammar
import Socks5.Server.Service

/-!
What a server may do for a client, given what it did before. A ledger sums up what happened for one
client (`ledger`), `Permits` tells what may happen next, and a history is lawful if each thing in it
was permitted when it happened. `Stands` grows by `Stands.snoc`; what the ledger of a lawful history can
be follows by induction on the history (`Lawful.at_most_once`, `Lawful.writes`, `Lawful.relays`).
-/
namespace Socks5

/-! ## Ledgers -/

/-- What happened for one client, summed up: the bytes that its handshake took, the messages written
to it with what became of each, dials, calls of the callback and how often it returned, starts of the
relay, and what the relay wrote to it. -/
structure Ledger where
  taken : Bytes := []
  writes : List (Bytes × Option Failure) := []
  dials : List (String × UInt16) := []
  callbacks : List ConnectionInfo := []
  returns : Nat := 0
  relays : List ConnectionInfo := []
  relayed : Bytes := []

namespace Ledger

@[simp] def enter (l : Ledger) : Happening → Ledger
  | .moved (.took bs) => { l with taken := l.taken ++ bs }
  | .moved (.wrote bs e) => { l with writes := l.writes ++ [(bs, e)] }
  | .moved (.noted _) => l
  | .did (.dial host port) => { l with dials := l.dials ++ [(host, port)] }
  | .did (.callback i _) => { l with callbacks := l.callbacks ++ [i] }
  | .did (.callbackDone _) => { l with returns := l.returns + 1 }
  | .did (.relay i) => { l with relays := l.relays ++ [i] }
  | .did (.relayed .client bs) => { l with relayed := l.relayed ++ bs }
  | .did (.relayed .target _) => l
  | .did (.relayDone _) => l

/-- All bytes that the client was sent. -/
def written (l : Ledger) : Bytes := l.writes.flatMap Prod.fst ++ l.relayed

end Ledger

def ledger (t : List Happening) : Ledger := t.foldl Ledger.enter {}

@[simp] theorem ledger_nil : ledger [] = {} := rfl

@[simp] theorem ledger_snoc (t : List Happening) (x : Happening) :
    ledger (t ++ [x]) = (ledger t).enter x := by simp [ledger]

/-- What a session does is no dial, no call of the callback and no start of the relay. -/
theorem ledger_moved (t : List Happening) (ms : List Move) :
    (ledger (t ++ ms.map .moved)).dials = (ledger t).dials ∧
      (ledger (t ++ ms.map .moved)).relays = (ledger t).relays := by
  induction ms using List.reverseRecOn with
  | nil => simp
  | append_singleton ms m ih =>
    rw [List.map_append, ← List.append_assoc, List.map_singleton, ledger_snoc]
    cases m <;> exact ih

/-- A dial that was made stays made. -/
theorem dials_append (t u : List Happening) : (ledger t).dials <+: (ledger (t ++ u)).dials := by
  induction u using List.reverseRecOn with
  | nil => simp
  | append_singleton u x ih =>
    rw [← List.append_assoc, ledger_snoc]
    cases x with
    | moved m => cases m <;> exact ih
    | did a =>
      cases a with
      | dial host port => exact ih.trans (List.prefix_append ..)
      | relayed side bs => cases side <;> exact ih
      | _ => exact ih

theorem mem_dials {t : List Happening} {host : String} {port : UInt16} (h : .did (.dial host port) ∈ t) :
    (host, port) ∈ (ledger t).dials := by
  obtain ⟨before, after, rfl⟩ := List.append_of_mem h
  have hgrows := dials_append (before ++ [.did (.dial host port)]) after
  rw [ledger_snoc, List.append_assoc] at hgrows
  exact hgrows.subset (List.mem_append_right _ (List.mem_singleton_self _))

/-! ## What may happen -/

/-- The answer that takes the method without authentication, written without an error. -/
def selected : Bytes × Option Failure := (AuthMethod.noAuth.encode, none)

/-- The reply that the connection stands, written without an error. -/
def granted : Bytes × Option Failure := (ReplyCode.success.encode, none)

/-- Bytes that ask for something that is allowed: an offer that can be accepted, and a request. -/
def Asked (config : ServerConfig) (bs : Bytes) (r : Request) : Prop :=
  ∃ offer request c, AcceptedOffer offer ∧ r.Spelled request ∧ bs = offer ++ request ∧
    r.command = some c ∧ c ∈ config.allowed

/-- A dial was made, and only one, and it was the one the network answers with a channel. -/
def Opened (w : Surroundings) (l : Ledger) : Prop :=
  ∃ host port u, l.dials = [(host, port)] ∧ w.network host port = .opens u

theorem not_opened {w : Surroundings} {l : Ledger} (h : l.dials = []) : ¬ Opened w l := by
  rintro ⟨host, port, u, hd, -⟩
  simp [h] at hd

/-- What is known of a connection tells of a request and of the reply to it. -/
def ConnectionInfo.Tells (i : ConnectionInfo) (r : Request) (reply : Option ReplyCode) : Prop :=
  i.command = r.command ∧ i.targetHost = r.targetText? ∧ i.targetPort = some (r.port.toNat : Int) ∧
    i.reply = reply

/-- The client has what it asked for and was told so, and `i` tells what that is. -/
structure Established (w : Surroundings) (config : ServerConfig) (l : Ledger) (i : ConnectionInfo)
    (r : Request) : Prop where
  asked : Asked config l.taken r
  dialled : ∃ host, r.targetText? = some host ∧ l.dials = [(host, r.port)]
  opened : Opened w l
  writes : l.writes = [selected, granted]
  tells : i.Tells r (some .success)

/-- The callback, if there is one, was called once, and has returned and not raised. -/
def Called (w : Surroundings) (l : Ledger) (i : ConnectionInfo) : Prop :=
  match w.callback with
  | none => l.callbacks = []
  | some told => l.callbacks = [i] ∧ l.returns = 1 ∧ (told i).fault? = none

/-- What can be left of a callback: all of it, or what is behind a wait. -/
inductive Watch.Leaves (told : Watch) : Watch → Prop
  | all : told.Leaves told
  | next {rest : Watch} (h : told.Leaves (.hold rest)) : told.Leaves rest

/-- What is left of a callback ends as all of it does. -/
theorem Watch.Leaves.fault?_eq {told rest : Watch} (h : told.Leaves rest) : rest.fault? = told.fault? := by
  induction h with
  | all => rfl
  | next _ ih => exact ih

/-- The callback was called and has not returned, and the relay has not started. -/
structure Watching (w : Surroundings) (l : Ledger) (i : ConnectionInfo) (rest : Watch) : Prop where
  told : ∃ told, w.callback = some told ∧ (told i).Leaves rest
  callbacks : l.callbacks = [i]
  returns : l.returns = 0
  relays : l.relays = []

/-- What may happen for a client after what its ledger tells. -/
def Permits (w : Surroundings) (config : ServerConfig) (l : Ledger) : Happening → Prop
  | .moved (.noted _) => True
  | .moved (.took _) => l.dials = []
  | .moved (.wrote bs _) =>
    (∃ m : AuthMethod, bs = m.encode ∧ l.writes = []) ∨
      ∃ r : ReplyCode, bs = r.encode ∧ l.writes = [selected] ∧ (r = .success → Opened w l)
  | .did (.dial host port) => l.dials = [] ∧ l.writes = [selected] ∧
      ∃ r, Asked config l.taken r ∧ r.targetText? = some host ∧ r.port = port
  | .did (.callback i _) => l.callbacks = [] ∧ l.relays = [] ∧ ∃ r, Established w config l i r
  | .did (.callbackDone _) => l.callbacks ≠ [] ∧ l.returns = 0 ∧ l.relays = []
  | .did (.relay i) => l.relays = [] ∧ Called w l i ∧ ∃ r, Established w config l i r
  | .did (.relayed ..) => l.relays ≠ []
  | .did (.relayDone _) => l.relays ≠ []

/-- Each thing in the history was permitted when it happened. -/
def Lawful (w : Surroundings) (config : ServerConfig) (t : List Happening) : Prop :=
  ∀ before x after, t = before ++ x :: after → Permits w config (ledger before) x

section

variable {w : Surroundings} {config : ServerConfig} {t : List Happening} {l : Ledger}

theorem lawful_nil : Lawful w config [] := by
  intro before x after h
  simp at h

theorem lawful_snoc {x : Happening} :
    Lawful w config (t ++ [x]) ↔ Lawful w config t ∧ Permits w config (ledger t) x := by
  constructor
  · intro h
    refine ⟨fun before y after e => ?_, h t x [] rfl⟩
    exact h before y (after ++ [x]) (by simp [e])
  · rintro ⟨h, hx⟩ before y after e
    rcases List.eq_nil_or_concat after with rfl | ⟨rest, z, rfl⟩
    · obtain ⟨rfl, hy⟩ := List.append_inj' e rfl
      cases hy
      exact hx
    · have e' : t ++ [x] = (before ++ y :: rest) ++ [z] := by simpa using e
      exact h before y rest (List.append_inj' e' rfl).1

/-! ## Ledgers of lawful histories -/

/-- There is at most one dial, one call of the callback, and one start of the relay. -/
theorem Lawful.at_most_once (h : Lawful w config t) :
    (ledger t).dials.length ≤ 1 ∧ (ledger t).callbacks.length ≤ 1 ∧ (ledger t).relays.length ≤ 1 := by
  induction t using List.reverseRecOn with
  | nil => simp
  | append_singleton t x ih =>
    obtain ⟨ht, hx⟩ := lawful_snoc.1 h
    obtain ⟨hd, hc, hr⟩ := ih ht
    rw [ledger_snoc]
    cases x with
    | moved m => cases m <;> exact ⟨hd, hc, hr⟩
    | did a =>
      cases a with
      | dial host port => exact ⟨by simp [hx.1], hc, hr⟩
      | callback i n => exact ⟨hd, by simp [hx.1], hr⟩
      | callbackDone client => exact ⟨hd, hc, hr⟩
      | relay i => exact ⟨hd, hc, by simp [hx.1]⟩
      | relayed side bs => cases side <;> exact ⟨hd, hc, hr⟩
      | relayDone client => exact ⟨hd, hc, hr⟩

/-- Where no dial succeeded, the callback was not called. -/
theorem Lawful.callbacks (h : Lawful w config t) (hn : ¬ Opened w (ledger t)) : (ledger t).callbacks = [] := by
  induction t using List.reverseRecOn with
  | nil => rfl
  | append_singleton t x ih =>
    obtain ⟨ht, hx⟩ := lawful_snoc.1 h
    rw [ledger_snoc] at hn ⊢
    cases x with
    | moved m => cases m <;> exact ih ht hn
    | did a =>
      cases a with
      | dial host port =>
        exact ih ht (not_opened hx.1)
      | callback i n =>
        obtain ⟨-, -, r, he⟩ := hx
        exact absurd he.opened hn
      | relayed side bs => cases side <;> exact ih ht hn
      | _ => exact ih ht hn

/-- What was written is an answer to the offer and, if that accepts it and did not fail, a reply. -/
theorem Lawful.writes (h : Lawful w config t) :
    (ledger t).writes = [] ∨ (∃ m e, (ledger t).writes = [(AuthMethod.encode m, e)]) ∨
      ∃ r e, (ledger t).writes = [selected, (ReplyCode.encode r, e)] ∧
        (r = .success → Opened w (ledger t)) := by
  induction t using List.reverseRecOn with
  | nil => exact .inl rfl
  | append_singleton t x ih =>
    obtain ⟨ht, hx⟩ := lawful_snoc.1 h
    have ih := ih ht
    rw [ledger_snoc]
    cases x with
    | moved m =>
      cases m with
      | wrote bs e =>
        rcases hx with ⟨m, rfl, hw⟩ | ⟨r, rfl, hw, ho⟩
        · exact .inr (.inl ⟨m, e, by simp [hw]⟩)
        · exact .inr (.inr ⟨r, e, by simp [hw], ho⟩)
      | _ => exact ih
    | did a =>
      cases a with
      | dial host port =>
        exact .inr (.inl ⟨.noAuth, none, hx.2.1⟩)
      | relayed side bs => cases side <;> exact ih
      | _ => exact ih

/-- Once the relay runs, what is not the relay's own is not permitted. -/
theorem Established.permits {i j : ConnectionInfo} {r : Request} {x : Happening} (he : Established w config l i r)
    (hi : l.relays = [j]) (hx : Permits w config l x) : (∃ e, x = .moved (.noted e)) ∨
      (∃ side bs, x = .did (.relayed side bs)) ∨ ∃ client, x = .did (.relayDone client) := by
  obtain ⟨host, -, hd⟩ := he.dialled
  have hdials : l.dials ≠ [] := by simp [hd]
  have hrelays : l.relays ≠ [] := by simp [hi]
  cases x with
  | moved m =>
    cases m with
    | noted e => exact .inl ⟨e, rfl⟩
    | took bs => exact absurd hx hdials
    | wrote bs e => rcases hx with ⟨_, _, hw⟩ | ⟨_, _, hw, _⟩ <;> simp [he.writes] at hw
  | did a =>
    cases a with
    | dial host port => exact absurd hx.1 hdials
    | callback i n => exact absurd hx.2.1 hrelays
    | callbackDone client => exact absurd hx.2.2 hrelays
    | relay i => exact absurd hx.1 hrelays
    | relayed side bs => exact .inr (.inl ⟨side, bs, rfl⟩)
    | relayDone client => exact .inr (.inr ⟨client, rfl⟩)

/-- A relay that was started took over a connection that stood, and nothing else happened since. -/
theorem Lawful.relays (h : Lawful w config t) :
    (ledger t).relays = [] ∧ (ledger t).relayed = [] ∨
      ∃ i r, (ledger t).relays = [i] ∧ Called w (ledger t) i ∧ Established w config (ledger t) i r := by
  induction t using List.reverseRecOn with
  | nil => exact .inl ⟨rfl, rfl⟩
  | append_singleton t x ih =>
    obtain ⟨ht, hx⟩ := lawful_snoc.1 h
    rw [ledger_snoc]
    rcases ih ht with ⟨hn, hr⟩ | ⟨i, r, hi, hc, he⟩
    · cases x with
      | moved m => cases m <;> exact .inl ⟨hn, hr⟩
      | did a =>
        cases a with
        | relay i =>
          obtain ⟨-, hc, r, he⟩ := hx
          refine .inr ⟨i, r, by simp [hn], hc, ?_⟩
          exact ⟨he.asked, he.dialled, he.opened, he.writes, he.tells⟩
        | relayed side bs => exact absurd hn hx
        | relayDone client => exact absurd hn hx
        | _ => exact .inl ⟨hn, hr⟩
    · rcases he.permits hi hx with ⟨e, rfl⟩ | ⟨side, bs, rfl⟩ | ⟨client, rfl⟩
      · exact .inr ⟨i, r, hi, hc, he⟩
      · cases side with
        | client => exact .inr ⟨i, r, hi, hc, ⟨he.asked, he.dialled, he.opened, he.writes, he.tells⟩⟩
        | target => exact .inr ⟨i, r, hi, hc, he⟩
      · exact .inr ⟨i, r, hi, hc, he⟩

/-- A lawful history with its ledger. -/
structure Stands (w : Surroundings) (config : ServerConfig) (t : List Happening) (l : Ledger) :
    Prop where
  lawful : Lawful w config t
  ledger_eq : ledger t = l

theorem Stands.snoc {x : Happening} (h : Stands w config t l) (hx : Permits w config l x) :
    Stands w config (t ++ [x]) (l.enter x) := by
  obtain ⟨hl, rfl⟩ := h
  exact ⟨lawful_snoc.2 ⟨hl, hx⟩, ledger_snoc t x⟩

theorem Stands.notes (h : Stands w config t l) (es : List Event) :
    Stands w config (t ++ es.map .noted) l := by
  induction es generalizing t with
  | nil => simpa using h
  | cons e es ih =>
    have := ih (h.snoc (x := .noted e) trivial)
    simpa using this

end
end Socks5
