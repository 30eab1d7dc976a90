import Socks5.Proofs.Server.Ledger
import Socks5.Proofs.Wire.Reading

/-!
The handshake of one client, against its ledger. Each part of it leaves the session in a state that
stands (`Session.Stands`): what it did was permitted, and the channel holds what the ledger says was
written. A handshake that waits has taken a beginning of the grammar (`InOffer`, `InRequest`), and one
that returns a request has taken all of it (`concludes_handshake`, `concludes_resumeHandshake`).
-/
namespace Socks5

open Channel (Stream)

/-! ## Channels -/

namespace Channel.Stream

@[simp] theorem written_readExact (n : Nat) (c : Stream) : (c.readExact n).2.written = c.written := by
  unfold readExact
  repeat' split
  all_goals rfl

@[simp] theorem written_writeAll (bs : Bytes) (c : Stream) :
    (c.writeAll bs).2.written = c.written ++ bs := by
  unfold writeAll
  cases c.writeFault <;> rfl

@[simp] theorem written_readSome (n : Nat) (c : Stream) : (c.readSome n).2.written = c.written := by
  unfold readSome
  repeat' split
  all_goals rfl

@[simp] theorem written_waitClosed (c : Stream) : c.waitClosed.2.2.written = c.written := by
  unfold waitClosed
  repeat' split
  all_goals rfl

end Channel.Stream

/-! ## Sessions that stand -/

/-- What happened before a session and in it. -/
def Session.told (b : List Happening) (s : Session Stream) : List Happening :=
  b ++ s.trace.map .moved

structure Session.Stands (w : Surroundings) (config : ServerConfig) (b : List Happening)
    (s : Session Stream) (l : Ledger) : Prop where
  stands : Socks5.Stands w config (s.told b) l
  written : s.channel.written = l.written

section

variable {w : Surroundings} {config : ServerConfig} {b : List Happening} {s : Session Stream}
  {l : Ledger} {α : Type}

namespace Session.Stands

/-- An endpoint may change as it will. -/
theorem endpoint (h : s.Stands w config b l) (e : Endpoint) :
    ({ s with endpoint := e } : Session Stream).Stands w config b l := ⟨h.stands, h.written⟩

theorem channel (h : s.Stands w config b l) {c : Stream} (hc : c.written = s.channel.written) :
    (s.move [] c).Stands w config b l := by
  refine ⟨?_, ?_⟩
  · simpa [told, move] using h.stands
  · rw [← h.written]
    exact hc

theorem took (h : s.Stands w config b l) (hd : l.dials = []) {c : Stream} (bs : Bytes)
    (hc : c.written = s.channel.written) :
    (s.move [.took bs] c).Stands w config b { l with taken := l.taken ++ bs } := by
  refine ⟨?_, ?_⟩
  · simpa [told, move] using h.stands.snoc (x := .moved (.took bs)) hd
  · calc (s.move [.took bs] c).channel.written = s.channel.written := hc
      _ = l.written := h.written

theorem wrote (h : s.Stands w config b l) (hr : l.relayed = []) {c : Stream} {bs : Bytes}
    (e : Option Failure) (hp : Permits w config l (.moved (.wrote bs e)))
    (hc : c.written = s.channel.written ++ bs) :
    (s.move [.wrote bs e] c).Stands w config b { l with writes := l.writes ++ [(bs, e)] } := by
  refine ⟨?_, ?_⟩
  · simpa [told, move] using h.stands.snoc hp
  · calc (s.move [.wrote bs e] c).channel.written = s.channel.written ++ bs := hc
      _ = _ := by simp [h.written, Ledger.written, hr]

theorem noteAll (h : s.Stands w config b l) (es : List Event) :
    (s.noteAll es).Stands w config b l := by
  refine ⟨?_, h.written⟩
  have := h.stands.notes es
  simpa [told, Session.noteAll, move, Function.comp_def] using this

theorem note (h : s.Stands w config b l) (level : Level) (text : String)
    (fields : List (String × Value)) : (s.note level text fields).Stands w config b l :=
  h.noteAll _

theorem readExact (h : s.Stands w config b l) {n : Nat} {a : Attempt Bytes} {c : Stream}
    (ha : Duplex.readExact n s.channel = (a, c)) : (s.move [] c).Stands w config b l := by
  have hw := Stream.written_readExact n s.channel
  rw [show s.channel.readExact n = (a, c) from ha] at hw
  exact h.channel hw

theorem readExact_done (h : s.Stands w config b l) (hd : l.dials = []) {n : Nat} {new : Bytes}
    {c : Stream} (ha : Duplex.readExact n s.channel = (.done new, c)) :
    new.length = n ∧ (s.move [.took new] c).Stands w config b { l with taken := l.taken ++ new } := by
  have ha' : s.channel.readExact n = (.done new, c) := ha
  have hw := Stream.written_readExact n s.channel
  rw [ha'] at hw
  exact ⟨(Stream.drains.done ha).1, h.took hd new hw⟩

/-- What holds after a write, from what holds when it fails and when it does not. -/
theorem write (h : s.Stands w config b l) (hr : l.relayed = []) {bs : Bytes}
    (hp : ∀ e, Permits w config l (.moved (.wrote bs e))) {P : Progress Stream Unit → Prop}
    (fails : ∀ e s', s'.Stands w config b { l with writes := l.writes ++ [(bs, some e)] } →
      s'.endpoint = s.endpoint → P (.raised e s'))
    (goes : ∀ s', s'.Stands w config b { l with writes := l.writes ++ [(bs, none)] } →
      s'.endpoint = s.endpoint → P (.returned () s')) : P (s.write bs) := by
  have hw := Stream.written_writeAll bs s.channel
  refine write_elim ?_ ?_
  · intro e c ha
    rw [show s.channel.writeAll bs = _ from ha] at hw
    exact fails e _ (h.wrote hr (some e) (hp _) hw) rfl
  · intro c ha
    rw [show s.channel.writeAll bs = _ from ha] at hw
    exact goes _ (h.wrote hr none (hp _) hw) rfl

/-- A reply is permitted once the offer was accepted and before anything else is written. One that is
refused, or fails, leaves what was dialled as it is. -/
theorem sendReply (h : s.Stands w config b l) (hr : l.relayed = []) (hw : l.writes = [selected])
    {code : ReplyCode} (hp : code = .success → Opened w l) {P : Progress Stream Unit → Prop}
    (fails : ∀ e s' l', s'.Stands w config b l' → l'.dials = l.dials → P (.raised e s'))
    (goes : ∀ s', s'.Stands w config b { l with writes := [selected, (code.encode, none)] } →
      P (.returned () s')) : P (s.sendReply code) := by
  unfold Session.sendReply inPhase
  split
  · refine Session.Stands.write (P := fun p => P (p.andThen _)) h hr ?_ ?_ ?_
    · intro e
      exact .inr ⟨code, rfl, hw, hp⟩
    · intro e s' hs' _
      exact fails e s' _ hs' rfl
    · intro s' hs' _
      rw [hw] at hs'
      exact goes _ (hs'.endpoint _)
  · exact fails _ s l h rfl

end Session.Stands
end

/-! ## What a handshake comes to -/

section

variable (w : Surroundings) (config : ServerConfig) (b : List Happening)

/-- The offer is being read. -/
def InOffer (st : OfferStage) (s : Session Stream) : Prop :=
  ∃ bs, st.Taken bs ∧ s.Stands w config b { taken := bs } ∧ s.endpoint = {}

/-- The offer was accepted, and the request is being read. -/
def InRequest (st : RequestStage) (s : Session Stream) : Prop :=
  ∃ offer bs, AcceptedOffer offer ∧ st.Taken bs ∧
    s.Stands w config b { taken := offer ++ bs, writes := [selected] } ∧
    s.endpoint = { phase := .authDone, authAccepted := true, rejection := st.rejection }

/-- What reading a request comes to: a valid one is stored and was taken to its end, and for any other
there is a reply that refuses it. -/
def Answers : Progress Stream Bool → Prop
  | .waiting stage s => ∃ st, stage = .request st ∧ InRequest w config b st s
  | .raised _ s => ∃ bs, s.Stands w config b { taken := bs, writes := [selected] }
  | .returned valid s => ∃ offer bs, AcceptedOffer offer ∧
      s.Stands w config b { taken := offer ++ bs, writes := [selected] } ∧
      s.endpoint.phase = .requestDone ∧
      if valid then ∃ r, s.endpoint.request = some r ∧ r.Spelled bs
      else s.endpoint.suggestedReply ≠ .success

/-- What a handshake comes to. Only a request that was taken to its end is returned, and nothing was
written then but the answer to the offer. -/
def Concludes : Progress Stream (Option Request) → Prop
  | .waiting (.offer st) s => InOffer w config b st s
  | .waiting (.request st) s => InRequest w config b st s
  | .raised _ s | .returned none s => ∃ l, s.Stands w config b l ∧ l.dials = []
  | .returned (some r) s => ∃ offer bs, AcceptedOffer offer ∧ r.Spelled bs ∧
      s.Stands w config b { taken := offer ++ bs, writes := [selected] } ∧
      s.endpoint.phase = .requestDone

end

/-! ## The request -/

section

variable {w : Surroundings} {config : ServerConfig} {b : List Happening} {s : Session Stream}

open Session

/-- A session that reads a request is followed by its ledger. -/
theorem tracks_request : Session.Tracks
    (fun bs s => ∃ offer, AcceptedOffer offer ∧
      s.Stands w config b { taken := offer ++ bs, writes := [selected] })
    (fun s => ∃ bs, s.Stands w config b { taken := bs, writes := [selected] }) where
  endpoint := fun e ⟨offer, ho, hs⟩ => ⟨offer, ho, hs.endpoint e⟩
  note := fun level text fields ⟨offer, ho, hs⟩ => ⟨offer, ho, hs.note level text fields⟩
  done := by
    rintro bs s n new c ⟨offer, ho, hs⟩ ha
    obtain ⟨hn, hs'⟩ := hs.readExact_done rfl ha
    refine ⟨hn, offer, ho, ?_⟩
    simpa using hs'
  waits := fun ⟨offer, ho, hs⟩ ha => ⟨offer, ho, hs.readExact ha⟩
  fails := fun ⟨_, _, hs⟩ ha => ⟨_, hs.readExact ha⟩
  ends := fun ⟨_, _, hs⟩ => ⟨_, hs⟩

theorem answers_resumeRequest {st : RequestStage} (hs : InRequest w config b st s) :
    Answers w config b (resumeRequest st s) := by
  obtain ⟨offer, bs, ho, ht, hs, he⟩ := hs
  have hr := ((@tracks_request w config b).resumeRequest
    (e := { phase := .authDone, authAccepted := true })
    ⟨bs, ht, ⟨offer, ho, hs⟩, by rw [he, ← RequestStage.rejectionAfter_none]⟩).answered
  revert hr
  cases resumeRequest st s with
  | waiting stage s' =>
    rintro ⟨st', rfl, bs', ht', ⟨offer', ho', hs'⟩, he'⟩
    exact ⟨st', rfl, offer', bs', ho', ht', hs', by rw [he', RequestStage.rejectionAfter_none]⟩
  | raised e s' => exact id
  | returned valid s' =>
    rintro ⟨bs', ⟨offer', ho', hs'⟩, hp, hv⟩
    refine ⟨offer', bs', ho', hs', hp, ?_⟩
    cases valid with
    | true => exact hv
    | false => exact hv nofun

/-! ## The answer to a request -/

/-- A reply that refuses a request is the second and last thing written. -/
theorem concludes_sendReply {bs : Bytes} {r : ReplyCode} (hr : r ≠ .success)
    (hs : s.Stands w config b { taken := bs, writes := [selected] })
    {next : Unit → Session Stream → Progress Stream (Option Request)}
    (goes : ∀ s' l, s'.Stands w config b l → l.dials = [] → Concludes w config b (next () s')) :
    Concludes w config b ((s.sendReply r).andThen next) := by
  refine hs.sendReply (P := fun p => Concludes w config b (p.andThen next)) rfl rfl ?_ ?_ ?_
  · intro h
    exact absurd h hr
  · intro e s' l' hs' hd
    exact ⟨l', hs', hd⟩
  · intro s' hs'
    exact goes s' _ hs' rfl

theorem concludes_answerInvalid {p : Progress Stream Bool} (hp : Answers w config b p) :
    Concludes w config b (answerInvalid p) := by
  match p, hp with
  | .waiting _ s, ⟨st, rfl, hs⟩ => exact hs
  | .returned true s, ⟨offer, bs, ho, hs, he, r, hr, hq⟩ =>
    change Concludes w config b (.returned s.endpoint.request s)
    rw [hr]
    exact ⟨offer, bs, ho, hq, hs, he⟩
  | .returned false s, ⟨_, _, _, hs, _, hne⟩ =>
    exact concludes_sendReply hne hs fun s' l hs' hd => ⟨l, hs', hd⟩
  | .raised (.hostName raw) s, ⟨_, hs⟩ =>
    exact concludes_sendReply (by decide) hs fun s' l hs' hd => ⟨l, hs', hd⟩
  | .raised (.version _) s, ⟨_, hs⟩ => exact ⟨_, hs, rfl⟩
  | .raised (.channel _) s, ⟨_, hs⟩ => exact ⟨_, hs, rfl⟩
  | .raised (.sequence _) s, ⟨_, hs⟩ => exact ⟨_, hs, rfl⟩
  | .raised (.fault _) s, ⟨_, hs⟩ => exact ⟨_, hs, rfl⟩

/-! ## The whole handshake -/

theorem concludes_readRequest (hs : InRequest w config b .version s) :
    Concludes w config b (answerInvalid s.readRequest) := by
  have he : s.endpoint.phase = .authDone ∧ s.endpoint.authAccepted = true := by
    obtain ⟨_, _, _, _, _, he⟩ := hs
    rw [he]
    exact ⟨rfl, rfl⟩
  have hr : s.readRequest = readBody s := by
    simp [readRequest, inPhase, he.1, he.2, Operation.phase]
  rw [hr]
  exact concludes_answerInvalid (answers_resumeRequest hs)

theorem select_accepts {methods : Bytes} (hm : methods.length ≤ 255)
    (hs : s.Stands w config b { taken := offerBytes methods }) (he : s.endpoint = {}) :
    Concludes w config b (afterOffer (select methods s)) := by
  unfold select afterOffer
  simp only [List.contains_eq_mem, decide_eq_true_eq, he]
  split
  · next ha =>
    rw [Progress.andThen_assoc]
    refine (hs.endpoint _).write (P := fun p => Concludes w config b (p.andThen _)) rfl ?_ ?_ ?_
    · intro e
      exact .inl ⟨.noAuth, rfl, rfl⟩
    · intro e s' hs' _
      exact ⟨_, hs', rfl⟩
    · intro s' hs' he'
      refine concludes_readRequest ⟨offerBytes methods, [], ⟨methods, hm, ha, rfl⟩, rfl, ?_, ?_⟩
      · simpa [selected] using hs'
      · simpa [ha, RequestStage.rejection] using he'
  · rw [Progress.andThen_assoc]
    refine ((hs.endpoint _).note ..).write (P := fun p => Concludes w config b (p.andThen _)) rfl ?_ ?_ ?_
    · intro e
      exact .inl ⟨.noAcceptable, rfl, rfl⟩
    · intro e s' hs' _
      exact ⟨_, hs', rfl⟩
    · intro s' hs' _
      exact ⟨_, hs', rfl⟩

/-- A session that reads an offer is followed by its ledger. -/
theorem tracks_offer : Session.Tracks (fun bs s => s.Stands w config b { taken := bs })
    (fun s => ∃ bs, s.Stands w config b { taken := bs }) where
  endpoint := fun e hs => hs.endpoint e
  note := fun level text fields hs => hs.note level text fields
  done := fun hs ha => hs.readExact_done rfl ha
  waits := fun hs ha => hs.readExact ha
  fails := fun hs ha => ⟨_, hs.readExact ha⟩
  ends := fun hs => ⟨_, hs⟩

theorem concludes_resumeOffer {st : OfferStage} (hs : InOffer w config b st s) :
    Concludes w config b (s.resumeHandshake (.offer st)) := by
  refine tracks_offer.resumeOffer (P := fun p => Concludes w config b (afterOffer p)) ?_ ?_ ?_ hs
  · exact fun st' s' hs' => hs'
  · exact fun e s' ⟨bs, hs'⟩ => ⟨_, hs', rfl⟩
  · exact fun methods s' hm hs' he => select_accepts hm hs' he

theorem concludes_handshake (hs : InOffer w config b .version s) :
    Concludes w config b s.handshake := by
  have he : s.endpoint.phase = .new := by
    obtain ⟨_, _, _, he⟩ := hs
    rw [he]
  have hr : s.acceptAuthentication = readOffer s := by
    simp [acceptAuthentication, inPhase, he, Operation.phase]
  unfold handshake
  rw [hr]
  exact concludes_resumeOffer hs

theorem concludes_resumeRequest {st : RequestStage} (hs : InRequest w config b st s) :
    Concludes w config b (s.resumeHandshake (.request st)) :=
  concludes_answerInvalid (answers_resumeRequest hs)

end
end Socks5
