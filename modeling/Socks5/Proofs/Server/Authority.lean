import Socks5.Proofs.Server.Clients
import Socks5.Proofs.Server.Conduct

/-!
What the clients of a server are sent, and what is done for them, in every run. All that happens for a
client is lawful (`lawful_runAll`). So a client is sent an answer to its offer, a reply and what its
relay writes, and no more than that (`sent_forms`); and nobody is dialled, told of or relayed for a
client that did not ask for it or is not allowed it (`authorised_runAll`).
-/
namespace Socks5

/-- A client whose handler is sound, or for which nothing was done. -/
def Client.Sound (w : Surroundings) (config : ServerConfig) (t : List Happening) : Client → Prop
  | handled h => h.Sound w config t ∧ h.history = []
  | turnedAway c _ => Stands w config t {} ∧ c.written = []

section

variable {w : Surroundings} {config : ServerConfig}

theorem stands_notes (es : List Event) : Stands w config (es.map .noted) {} := by
  have h : Stands w config [] {} := ⟨lawful_nil, rfl⟩
  simpa using h.notes es

theorem upheld_sound (w : Surroundings) (config : ServerConfig) :
    Upheld w config (fun _ => True) (fun t c => c.Sound w config t) where
  refused a es o := ⟨stands_notes es, Channel.Stream.written_waitClosed a.channel⟩
  rejected a es e _ _ := ⟨stands_notes es, rfl⟩
  started := by
    intro m a info es hm hw hi
    subst hm hw
    obtain ⟨-, hblank⟩ := Peer.info_eq_ok hi
    have hb : info.Blank := by
      rw [hblank]
      exact ⟨rfl, rfl, rfl, rfl⟩
    exact ⟨Handler.sound_forgetful (Handler.sound_start (stands_notes es) hb rfl), rfl⟩
  received := by
    intro t c i hc
    cases c with
    | handled h => exact ⟨Handler.sound_receive hc.1 i, hc.2⟩
    | turnedAway c o =>
      refine ⟨hc.1, ?_⟩
      rw [← hc.2]
      cases i <;> rfl
  resumed := by
    intro m t h hm hw hs _
    subst hm hw
    exact ⟨Handler.sound_forgetful (Handler.sound_resume hs.1), rfl⟩
  expired := by
    intro t h hs _
    exact ⟨Handler.sound_forgetful (Handler.sound_expire hs.1), rfl⟩

/-- What holds of a client and its history in any case. -/
theorem Client.Sound.stands {t : List Happening} {c : Client} (hc : c.Sound w config t) :
    Lawful w config t ∧ c.channel.written = (ledger t).written ∧
      (Opened w (ledger t) → ∃ h, c = .handled h ∧ h.outbound.isSome) := by
  cases c with
  | handled h =>
    obtain ⟨l, hs, hw, ho⟩ := hc.1.stands hc.2
    obtain ⟨hl, rfl⟩ := hs
    exact ⟨hl, hw, fun h' => ⟨h, rfl, ho h'⟩⟩
  | turnedAway c o =>
    obtain ⟨⟨hl, he⟩, hw⟩ := hc
    rw [he]
    exact ⟨hl, hw, fun h => absurd h (not_opened rfl)⟩

/-- Whatever comes, in whatever order: all that happens for a client was permitted. -/
theorem lawful_runAll (w : Surroundings) (config : ServerConfig) (steps : List Service.Step) (id : Nat) :
    Lawful w config (((Service.fresh config).runAll w steps).server.historyOf id) := by
  have hk := (upheld_sound w config).runAll steps
  cases hc : ((Service.fresh config).runAll w steps).server.clients[id]? with
  | none =>
    rw [hk.blank id (List.getElem?_eq_none_iff.1 hc)]
    exact lawful_nil
  | some c => exact (hk.holds id c hc).stands.1

/-! ## What a client is sent -/

/-- Each message is the answer to the offer, the first one, or a reply to a client whose offer was
accepted without an error. -/
theorem Lawful.message {t before after : List Happening} {bs : Bytes} {e : Option Failure}
    (h : Lawful w config t) (ht : t = before ++ .moved (.wrote bs e) :: after) :
    (ledger before).relays = [] ∧
      ((∃ m : AuthMethod, bs = m.encode ∧ (ledger before).writes = []) ∨
        ∃ r : ReplyCode, bs = r.encode ∧ (ledger before).writes = [([5, 0], none)] ∧
          (r = .success → Opened w (ledger before))) := by
  have hp := h before _ after ht
  refine ⟨?_, hp⟩
  have hl : Lawful w config before := by
    intro b x a hb
    refine h b x (a ++ .moved (.wrote bs e) :: after) ?_
    simp [ht, hb]
  rcases hl.relays with ⟨hr, -⟩ | ⟨i, r, -, -, he⟩
  · exact hr
  · rcases hp with ⟨m, -, hw⟩ | ⟨r', -, hw, -⟩
    · simp [he.writes] at hw
    · simp [he.writes] at hw

theorem Lawful.quiet {t : List Happening} (h : Lawful w config t)
    (hw : (ledger t).writes ≠ [selected, granted]) : (ledger t).relayed = [] := by
  rcases h.relays with ⟨-, hn⟩ | ⟨i, r, -, -, he⟩
  · exact hn
  · exact absurd he.writes hw

/-- What was written is an answer to the offer and a reply, and what the relay wrote comes after the
reply that the connection stands, if that was given. -/
theorem Lawful.written_forms {t : List Happening} (h : Lawful w config t) :
    (ledger t).written = [] ∨ (ledger t).written = [5, 0] ∨ (ledger t).written = [5, 255] ∨
      (∃! r : ReplyCode, r ≠ .success ∧ (ledger t).written = [5, 0] ++ r.encode) ∨
      ((ledger t).written = [5, 0] ++ ReplyCode.success.encode ++ (ledger t).relayed ∧
        ((ledger t).relayed ≠ [] → (ledger t).relays ≠ []) ∧ Opened w (ledger t)) := by
  rcases h.writes with hs | ⟨m, e, hs⟩ | ⟨r, e, hs, hopen⟩
  · have hq : (ledger t).relayed = [] := h.quiet (by simp [hs])
    exact .inl (by simp [Ledger.written, hs, hq])
  · have hq : (ledger t).relayed = [] := h.quiet (by simp [hs])
    have hb : (ledger t).written = m.encode := by simp [Ledger.written, hs, hq]
    cases m with
    | noAuth => exact .inr (.inl hb)
    | noAcceptable => exact .inr (.inr (.inl hb))
  · refine .inr (.inr (.inr ?_))
    have hb : (ledger t).written = [5, 0] ++ r.encode ++ (ledger t).relayed := by
      simp [Ledger.written, hs, selected, AuthMethod.encode, AuthMethod.code, version]
    by_cases hrs : r = .success
    · subst hrs
      refine .inr ⟨hb, fun hr hn => ?_, hopen rfl⟩
      rcases h.relays with ⟨-, hq⟩ | ⟨i, r, hi, -, -⟩
      · exact hr hq
      · simp [hi] at hn
    · have hq : (ledger t).relayed = [] := by
        refine h.quiet fun hg => hrs ?_
        rw [hs] at hg
        simp only [granted, List.cons.injEq, Prod.mk.injEq, and_true, true_and] at hg
        exact ReplyCode.encode_inj hg.1
      rw [hq, List.append_nil] at hb
      refine .inl ⟨r, ⟨hrs, hb⟩, ?_⟩
      rintro r' ⟨-, hb'⟩
      rw [hb] at hb'
      exact ReplyCode.encode_inj (List.append_cancel_left hb').symm

/-- Whenever a run stands still, a client was sent nothing, an answer to its offer, that and a refusal,
or that, the reply that the connection stands, and what the relay wrote; and each message was written
in its turn. -/
theorem sent_forms (w : Surroundings) (config : ServerConfig) (steps : List Service.Step) (id : Nat)
    (c : Client) (hc : ((Service.fresh config).runAll w steps).server.clients[id]? = some c) :
    let t := ((Service.fresh config).runAll w steps).server.historyOf id
    (c.channel.written = [] ∨ c.channel.written = [5, 0] ∨ c.channel.written = [5, 255] ∨
      (∃! r : ReplyCode, r ≠ .success ∧ c.channel.written = [5, 0] ++ r.encode) ∨
      (c.channel.written = [5, 0] ++ ReplyCode.success.encode ++ (ledger t).relayed ∧
        ((ledger t).relayed ≠ [] → (ledger t).relays ≠ []) ∧
        Opened w (ledger t) ∧ ∃ h, c = .handled h ∧ h.outbound.isSome)) ∧
    ∀ before bs e after, t = before ++ .moved (.wrote bs e) :: after →
      (ledger before).relays = [] ∧
        ((∃ m : AuthMethod, bs = m.encode ∧ (ledger before).writes = []) ∨
          ∃ r : ReplyCode, bs = r.encode ∧ (ledger before).writes = [([5, 0], none)] ∧
            (r = .success → Opened w (ledger before))) := by
  intro t
  have hk := (upheld_sound w config).runAll steps
  obtain ⟨hl, hw, ho⟩ := (hk.holds id c hc).stands
  refine ⟨?_, fun before bs e after ht => hl.message ht⟩
  rw [hw]
  rcases hl.written_forms with h | h | h | h | ⟨h, hr, hopen⟩
  · exact .inl h
  · exact .inr (.inl h)
  · exact .inr (.inr (.inl h))
  · exact .inr (.inr (.inr (.inl h)))
  · exact .inr (.inr (.inr (.inr ⟨h, hr, hopen, ho hopen⟩)))

/-- A network in which every dial succeeds, a callback that is content, and a relay that greets the
client. -/
def greeter : Surroundings where
  network _ _ := .opens {}
  relay _ := .push .client [104, 105] .done
  callback := some fun _ => .done

/-- A client comes, and asks for port 80 of 10.0.0.1 once it has sent its offer. -/
def greeting : List Service.Step :=
  [.client (.connect { sent := [5, 1, 0] }),
    .client (.receive 0 (.bytes [5, 1, 0, 1, 10, 0, 0, 1, 0, 80]))]

theorem sent_forms_greeting :
    ∃ c, ((Service.fresh {}).runAll greeter greeting).server.clients[0]? = some c ∧
      c.channel.written = [5, 0] ++ ReplyCode.success.encode ++ [104, 105] ∧
      ∀ before bs e after,
        ((Service.fresh {}).runAll greeter greeting).server.historyOf 0 =
          before ++ .moved (.wrote bs e) :: after → (ledger before).relays = [] :=
  ⟨_, rfl, rfl, fun before bs e after h =>
    ((sent_forms greeter {} greeting 0 _ rfl).2 before bs e after h).1⟩

/-! ## What is done for a client -/

/-- Nothing was done for a client that it did not ask for, or that something before it stood in the
way of. -/
structure Authorised (w : Surroundings) (config : ServerConfig) (t : List Happening) : Prop where
  once : (ledger t).dials.length ≤ 1 ∧ (ledger t).callbacks.length ≤ 1 ∧ (ledger t).relays.length ≤ 1
  dial : ∀ before host port after, t = before ++ .did (.dial host port) :: after →
    ∃ r, Asked config (ledger before).taken r ∧ r.targetText? = some host ∧ r.port = port
  callback : ∀ before i n after, t = before ++ .did (.callback i n) :: after →
    (ledger before).relays = [] ∧ ∃ r, Established w config (ledger before) i r
  relay : ∀ before i after, t = before ++ .did (.relay i) :: after →
    Called w (ledger before) i ∧ ∃ r, Established w config (ledger before) i r
  /-- The client asked for nothing that is allowed. -/
  unasked : (¬ ∃ r, Asked config (ledger t).taken r) → (ledger t).relays = []
  /-- No dial succeeded. -/
  unopened : ¬ Opened w (ledger t) → (ledger t).relays = []
  /-- A message to the client was not written, or not without an error. -/
  unanswered : (ledger t).writes ≠ [selected, granted] → (ledger t).relays = []
  /-- The callback has not returned. -/
  unreturned : w.callback ≠ none → (ledger t).returns = 0 → (ledger t).relays = []
  /-- The callback raised, or will. -/
  refused : ∀ told i, w.callback = some told → i ∈ (ledger t).callbacks → (told i).fault? ≠ none →
    (ledger t).relays = []

theorem Lawful.established {t : List Happening} (h : Lawful w config t) (hr : (ledger t).relays ≠ []) :
    ∃ i r, Called w (ledger t) i ∧ Established w config (ledger t) i r := by
  rcases h.relays with ⟨hn, -⟩ | ⟨i, r, -, hc, he⟩
  · exact absurd hn hr
  · exact ⟨i, r, hc, he⟩

theorem Lawful.authorised {t : List Happening} (h : Lawful w config t) : Authorised w config t where
  once := h.at_most_once
  dial before host port after ht := (h before _ after ht).2.2
  callback before i n after ht := (h before _ after ht).2
  relay before i after ht := (h before _ after ht).2
  unasked := by
    intro hn
    by_contra hr
    obtain ⟨i, r, -, he⟩ := h.established hr
    exact hn ⟨r, he.asked⟩
  unopened := by
    intro hn
    by_contra hr
    obtain ⟨i, r, -, he⟩ := h.established hr
    exact hn he.opened
  unanswered := by
    intro hn
    by_contra hr
    obtain ⟨i, r, -, he⟩ := h.established hr
    exact hn he.writes
  unreturned := by
    intro hw hn
    by_contra hr
    obtain ⟨j, r, hc, -⟩ := h.established hr
    obtain ⟨told, hs⟩ := Option.ne_none_iff_exists'.1 hw
    rw [Called, hs] at hc
    rw [hc.2.1] at hn
    cases hn
  refused := by
    intro told i hw hi hn
    by_contra hr
    obtain ⟨j, r, hc, -⟩ := h.established hr
    rw [Called, hw] at hc
    obtain ⟨hj, -, hf⟩ := hc
    rw [hj, List.mem_singleton] at hi
    subst hi
    exact hn hf

/-- Whatever comes, in whatever order: a client is dialled for at most once, if it asked for that and
is allowed it; the callback and the relay come at most once, and after that went well. -/
theorem authorised_runAll (w : Surroundings) (config : ServerConfig) (steps : List Service.Step)
    (id : Nat) : Authorised w config (((Service.fresh config).runAll w steps).server.historyOf id) :=
  (lawful_runAll w config steps id).authorised

example : (ledger (((Service.fresh {}).runAll greeter greeting).server.historyOf 0)).dials =
    [("10.0.0.1", 80)] := by decide +kernel

end
end Socks5
