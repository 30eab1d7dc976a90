import Socks5.Endpoint.Usage

/-!
Two endpoints side by side. When one channel gives what another gives, unless the other makes its reader
wait (`Channel.Leads`), then an endpoint over the one comes to what an endpoint over the other comes to;
and where the other has to wait, the one has already gone on from the stage at which the other stands
(`Progress.Leads`). So it is for each call (`leads_call`) and for each later part of a handshake
(`leads_resumeHandshake`).
-/
namespace Socks5

variable {χ χ' α β σ τ : Type}

/-! ## Side by side -/

section

variable [Duplex χ] [Duplex χ']

/-- What is read from the one channel is read from the other too, unless the one makes its reader wait;
and what is written goes the same way. -/
structure Channel.Leads (R : χ → χ' → Prop) : Prop where
  done : ∀ {c c₁ d n bs}, R c d → Duplex.readExact n c = (.done bs, c₁) →
    ∃ d₁, Duplex.readExact n d = (.done bs, d₁) ∧ R c₁ d₁
  fails : ∀ {c c₁ d n e}, R c d → Duplex.readExact n c = (.failed e, c₁) →
    ∃ d₁, Duplex.readExact n d = (.failed e, d₁) ∧ R c₁ d₁
  waits : ∀ {c c₁ d n}, R c d → Duplex.readExact n c = (.waiting, c₁) → R c₁ d
  writes : ∀ {c d} bs, R c d → (Duplex.writeAll bs d).1 = (Duplex.writeAll bs c).1 ∧
    R (Duplex.writeAll bs c).2 (Duplex.writeAll bs d).2

end

/-- Two sessions that differ in their channels, and in what the second has done before. -/
structure Session.Beside (R : χ → χ' → Prop) (t : List Move) (s : Session χ) (s' : Session χ') : Prop where
  endpoint : s'.endpoint = s.endpoint
  channel : R s.channel s'.channel
  trace : s'.trace = t ++ s.trace

/-- The second call has come to what the first has come to. If the first waits at a stage, then the second
is what goes on from there. -/
inductive Progress.Leads [Duplex χ] (R : χ → χ' → Prop) (t : List Move) (ι : σ → Stage)
    (goOn : σ → Session χ' → Progress χ' α) : Progress χ α → Progress χ' α → Prop
  | waiting (st : σ) {c : χ} {s : Session χ} {s' : Session χ'}
      (hw : Duplex.readExact (ι st).need c = (.waiting, s.channel)) (hs : s.Beside R t s') :
      Leads R t ι goOn (.waiting (ι st) s) (goOn st s')
  | raised {e : Failure} {s : Session χ} {s' : Session χ'} (hs : s.Beside R t s') :
      Leads R t ι goOn (.raised e s) (.raised e s')
  | returned {a : α} {s : Session χ} {s' : Session χ'} (hs : s.Beside R t s') :
      Leads R t ι goOn (.returned a s) (.returned a s')

variable {R : χ → χ' → Prop} {t : List Move} {ι : σ → Stage} {κ : τ → Stage}
  {goOn : σ → Session χ' → Progress χ' α} {s : Session χ} {s' : Session χ'}

namespace Session.Beside

theorem move (hs : s.Beside R t s') (ms : List Move) {c : χ} {c' : χ'} (hc : R c c') :
    (s.move ms c).Beside R t (s'.move ms c') := by
  refine ⟨hs.endpoint, hc, ?_⟩
  rw [Session.move, Session.move, hs.trace, List.append_assoc]

theorem note (hs : s.Beside R t s') (level : Level) (text : String) (fields : List (String × Value)) :
    (s.note level text fields).Beside R t (s'.note level text fields) :=
  hs.move _ hs.channel

theorem withEndpoint (hs : s.Beside R t s') (f : Endpoint → Endpoint) :
    Session.Beside R t { s with endpoint := f s.endpoint } { s' with endpoint := f s'.endpoint } :=
  ⟨congrArg f hs.endpoint, hs.channel, hs.trace⟩

theorem reject (hs : s.Beside R t s') (r : ReplyCode) : (s.reject r).Beside R t (s'.reject r) :=
  hs.withEndpoint fun e => { e with rejection := some r }

theorem storeRequest (hs : s.Beside R t s') (r : Request) :
    (s.storeRequest r).Beside R t (s'.storeRequest r) :=
  hs.withEndpoint fun e => { e with request := some r, phase := .requestDone }

theorem checkCommand (hs : s.Beside R t s') (h : Head) :
    (s.checkCommand h).Beside R t (s'.checkCommand h) := by
  unfold Session.checkCommand
  split
  · exact hs
  · exact (hs.note _ _ _).reject _

theorem checkHead (hs : s.Beside R t s') (h : Head) : (s.checkHead h).Beside R t (s'.checkHead h) := by
  have hc := hs.checkCommand h
  unfold Session.checkHead checkReserved
  split
  · exact hc
  · have hn := hc.note .warning "Non-zero reserved byte" [("reserved", .int h.reserved.toNat)]
    dsimp only
    rw [hn.endpoint]
    split
    · exact hn.reject _
    · exact hn

end Session.Beside

variable [Duplex χ]

namespace Progress.Leads

theorem inPhase (hs : s.Beside R t s') {op : Operation} {run : Session χ → Progress χ α}
    {run' : Session χ' → Progress χ' α} (goes : Leads R t ι goOn (run s) (run' s')) :
    Leads R t ι goOn (s.inPhase op run) (s'.inPhase op run') := by
  unfold Session.inPhase
  rw [hs.endpoint]
  split
  · exact goes
  · exact .raised hs

/-- What is made of a result is made of it on both sides. -/
theorem answer {p : Progress χ α} {p' : Progress χ' α} (h : Leads R t ι goOn p p') (f : α → Answer)
    {g : σ → τ} {goOn' : τ → Session χ' → Progress χ' Answer} (hι : ∀ st, κ (g st) = ι st)
    (hgo : ∀ st s, goOn' (g st) s = (goOn st s).answer f) :
    Leads R t κ goOn' (p.answer f) (p'.answer f) := by
  cases h with
  | @waiting st c s s' hw hs =>
    rw [← hgo]
    change Leads R t κ goOn' (.waiting (ι st) s) _
    rw [← hι] at hw ⊢
    exact .waiting (g st) hw hs
  | raised hs => exact .raised hs
  | returned hs => exact .returned hs

end Progress.Leads

variable [Duplex χ']

/-! ## Reads and writes -/

namespace Progress.Leads

theorem read (hR : Channel.Leads R) (hs : s.Beside R t s') (st : σ)
    {next : Bytes → Session χ → Progress χ α} {next' : Bytes → Session χ' → Progress χ' α}
    (hgo : goOn st = Session.read (ι st) next')
    (goes : ∀ bs s s', Session.Beside R t s s' → Leads R t ι goOn (next bs s) (next' bs s')) :
    Leads R t ι goOn (s.read (ι st) next) (s'.read (ι st) next') := by
  rcases ha : Duplex.readExact (ι st).need s.channel with ⟨a, c⟩
  cases a with
  | waiting =>
    have hw : s.read (ι st) next = .waiting (ι st) (s.move [] c) := by simp only [Session.read, ha]
    rw [hw, ← hgo]
    refine .waiting st (c := s.channel) ha ⟨hs.endpoint, hR.waits hs.channel ha, ?_⟩
    rw [hs.trace, Session.move, List.append_nil]
  | failed e =>
    obtain ⟨d, hd, hc⟩ := hR.fails hs.channel ha
    simp only [Session.read, ha, hd]
    exact .raised (hs.move [] hc)
  | done bs =>
    obtain ⟨d, hd, hc⟩ := hR.done hs.channel ha
    simp only [Session.read, ha, hd]
    exact goes bs _ _ (hs.move [.took bs] hc)

theorem write (hR : Channel.Leads R) (hs : s.Beside R t s') (bs : Bytes)
    {next : Unit → Session χ → Progress χ α} {next' : Unit → Session χ' → Progress χ' α}
    (goes : ∀ s s', Session.Beside R t s s' → Leads R t ι goOn (next () s) (next' () s')) :
    Leads R t ι goOn ((s.write bs).andThen next) ((s'.write bs).andThen next') := by
  obtain ⟨hr, hc⟩ := hR.writes bs hs.channel
  rcases ha : Duplex.writeAll bs s.channel with ⟨r, c⟩
  rcases hb : Duplex.writeAll bs s'.channel with ⟨r', d⟩
  rw [ha, hb] at hr hc
  obtain rfl : r' = r := hr
  simp only [Session.write, ha, hb]
  cases r' with
  | error e => exact .raised (hs.move _ hc)
  | ok => exact goes _ _ (hs.move _ hc)

theorem readVersion (hR : Channel.Leads R) (hs : s.Beside R t s') (st : σ)
    {next : Session χ → Progress χ α} {next' : Session χ' → Progress χ' α}
    (hgo : goOn st = Session.readVersion (ι st) next')
    (goes : ∀ s s', Session.Beside R t s s' → Leads R t ι goOn (next s) (next' s')) :
    Leads R t ι goOn (s.readVersion (ι st) next) (s'.readVersion (ι st) next') := by
  unfold Session.readVersion
  refine read hR hs st (hgo.trans (funext fun _ => by rw [Session.readVersion])) fun bs s s' hs => ?_
  dsimp only
  split
  · exact goes s s' hs
  · exact .raised (hs.note _ _ _)

end Progress.Leads

namespace Session

open Progress (Leads)

/-! ## Offers -/

theorem leads_select (hR : Channel.Leads R) (hs : s.Beside R t s') (methods : Bytes)
    {goOn : σ → Session χ' → Progress χ' Bool} :
    Leads R t ι goOn (select methods s) (select methods s') := by
  have hs' := hs.withEndpoint fun e =>
    { e with authAccepted := methods.contains AuthMethod.noAuth.code, phase := .authDone }
  unfold select
  dsimp only
  split
  · exact .write hR hs' _ fun _ _ => .returned
  · exact .write hR (hs'.note _ _ _) _ fun _ _ => .returned

theorem leads_readMethods (hR : Channel.Leads R) (hs : s.Beside R t s') (n : Nat) :
    Leads R t .offer resumeOffer (readMethods n s) (readMethods n s') :=
  .read hR hs (OfferStage.methods n) rfl fun bs _ _ hs => leads_select hR hs bs

theorem leads_readCount (hR : Channel.Leads R) (hs : s.Beside R t s') :
    Leads R t .offer resumeOffer (readCount s) (readCount s') :=
  .read hR hs OfferStage.count rfl fun _ _ _ hs => leads_readMethods hR hs _

theorem leads_readOffer (hR : Channel.Leads R) (hs : s.Beside R t s') :
    Leads R t .offer resumeOffer (readOffer s) (readOffer s') :=
  .readVersion hR hs OfferStage.version rfl fun _ _ => leads_readCount hR

theorem leads_resumeOffer (hR : Channel.Leads R) (hs : s.Beside R t s') (st : OfferStage) :
    Leads R t .offer resumeOffer (resumeOffer st s) (resumeOffer st s') := by
  cases st with
  | version => exact leads_readOffer hR hs
  | count => exact leads_readCount hR hs
  | methods n => exact leads_readMethods hR hs n

theorem leads_acceptAuthentication (hR : Channel.Leads R) (hs : s.Beside R t s') :
    Leads R t .offer resumeOffer s.acceptAuthentication s'.acceptAuthentication :=
  .inPhase hs (leads_readOffer hR hs)

/-! ## Requests -/

section

variable (h : Head)

theorem leads_readPort (hR : Channel.Leads R) (hs : s.Beside R t s') (target : Target) :
    Leads R t .request resumeRequest (readPort h target s) (readPort h target s') :=
  .read hR hs (RequestStage.port h target) rfl fun _ _ _ hs => .returned ((hs.storeRequest _).note _ _ _)

theorem leads_readIPv4 (hR : Channel.Leads R) (hs : s.Beside R t s') :
    Leads R t .request resumeRequest (readIPv4 h s) (readIPv4 h s') :=
  .read hR hs (RequestStage.ipv4 h) rfl fun _ _ _ hs => leads_readPort h hR hs _

theorem leads_readIPv6 (hR : Channel.Leads R) (hs : s.Beside R t s') :
    Leads R t .request resumeRequest (readIPv6 h s) (readIPv6 h s') :=
  .read hR hs (RequestStage.ipv6 h) rfl fun _ _ _ hs => leads_readPort h hR hs _

theorem leads_readName (hR : Channel.Leads R) (hs : s.Beside R t s') (length : Nat) :
    Leads R t .request resumeRequest (readName h length s) (readName h length s') := by
  refine .read hR hs (RequestStage.name h length) rfl fun bs s s' hs => ?_
  split
  · exact leads_readPort h hR hs _
  · exact .raised (((hs.note _ _ _).reject _).storeRequest _)

theorem leads_readNameLength (hR : Channel.Leads R) (hs : s.Beside R t s') :
    Leads R t .request resumeRequest (readNameLength h s) (readNameLength h s') :=
  .read hR hs (RequestStage.nameLength h) rfl fun _ _ _ hs => leads_readName h hR hs _

theorem leads_readTarget (hR : Channel.Leads R) (hs : s.Beside R t s') (kind : UInt8) :
    Leads R t .request resumeRequest (readTarget h kind s) (readTarget h kind s') := by
  unfold readTarget
  split
  · exact leads_readIPv4 h hR hs
  · exact leads_readNameLength h hR hs
  · exact leads_readIPv6 h hR hs
  · exact .returned (((hs.note _ _ _).reject _).storeRequest _)

end

theorem leads_readHead (hR : Channel.Leads R) (hs : s.Beside R t s') :
    Leads R t .request resumeRequest (readHead s) (readHead s') :=
  .read hR hs RequestStage.head rfl fun _ _ _ hs => leads_readTarget _ hR (hs.checkHead _) _

theorem leads_readBody (hR : Channel.Leads R) (hs : s.Beside R t s') :
    Leads R t .request resumeRequest (readBody s) (readBody s') :=
  .readVersion hR hs RequestStage.version rfl fun _ _ => leads_readHead hR

theorem leads_resumeRequest (hR : Channel.Leads R) (hs : s.Beside R t s') (st : RequestStage) :
    Leads R t .request resumeRequest (resumeRequest st s) (resumeRequest st s') := by
  cases st with
  | version => exact leads_readBody hR hs
  | head => exact leads_readHead hR hs
  | ipv4 h => exact leads_readIPv4 h hR hs
  | nameLength h => exact leads_readNameLength h hR hs
  | name h n => exact leads_readName h hR hs n
  | ipv6 h => exact leads_readIPv6 h hR hs
  | port h target => exact leads_readPort h hR hs target

theorem leads_readRequest (hR : Channel.Leads R) (hs : s.Beside R t s') :
    Leads R t .request resumeRequest s.readRequest s'.readRequest := by
  refine .inPhase hs ?_
  rw [hs.endpoint]
  split
  · exact leads_readBody hR hs
  · exact .raised hs

/-! ## Replies and handshakes -/

/-- A reply never waits: it fails on both sides, or it goes out on both. -/
theorem Beside.sendReply (hR : Channel.Leads R) (hs : s.Beside R t s') (r : ReplyCode) :
    (∃ e s₁ s₁', s.sendReply r = .raised e s₁ ∧ s'.sendReply r = .raised e s₁' ∧ s₁.Beside R t s₁') ∨
      ∃ s₁ s₁', s.sendReply r = .returned () s₁ ∧ s'.sendReply r = .returned () s₁' ∧ s₁.Beside R t s₁' := by
  unfold Session.sendReply Session.inPhase
  rw [hs.endpoint]
  split
  · obtain ⟨hr, hc⟩ := hR.writes r.encode hs.channel
    rcases ha : Duplex.writeAll r.encode s.channel with ⟨o, c⟩
    rcases hb : Duplex.writeAll r.encode s'.channel with ⟨o', d⟩
    rw [ha, hb] at hr hc
    obtain rfl : o' = o := hr
    simp only [Session.write, ha, hb]
    cases o' with
    | error e => exact .inl ⟨e, _, _, rfl, rfl, hs.move _ hc⟩
    | ok => exact .inr ⟨_, _, rfl, rfl, (hs.move _ hc).withEndpoint fun e => { e with phase := .replied }⟩
  · exact .inl ⟨_, _, _, rfl, rfl, hs⟩

theorem leads_sendReply (hR : Channel.Leads R) (hs : s.Beside R t s') (r : ReplyCode)
    {next : Unit → Session χ → Progress χ α} {next' : Unit → Session χ' → Progress χ' α}
    (goes : ∀ s s', Session.Beside R t s s' → Leads R t ι goOn (next () s) (next' () s')) :
    Leads R t ι goOn ((s.sendReply r).andThen next) ((s'.sendReply r).andThen next') := by
  rcases hs.sendReply hR r with ⟨e, s₁, s₁', h, h', hs⟩ | ⟨s₁, s₁', h, h', hs⟩
  · rw [h, h']
    exact .raised hs
  · rw [h, h']
    exact goes _ _ hs

theorem leads_answerInvalid (hR : Channel.Leads R) {p : Progress χ Bool} {p' : Progress χ' Bool}
    (h : Leads R t .request resumeRequest p p') :
    Leads R t id (fun stage s => s.resumeHandshake stage) (answerInvalid p) (answerInvalid p') := by
  cases h with
  | @waiting st c s s' hw hs => exact .waiting (Stage.request st) hw hs
  | @raised e s s' hs =>
    cases e with
    | hostName raw => exact leads_sendReply hR hs _ fun _ _ => .raised
    | _ => exact .raised hs
  | @returned valid s s' hs =>
    cases valid with
    | true =>
      dsimp only [answerInvalid]
      rw [hs.endpoint]
      exact .returned hs
    | false =>
      dsimp only [answerInvalid]
      rw [hs.endpoint]
      exact leads_sendReply hR hs _ fun _ _ => .returned

theorem leads_afterOffer (hR : Channel.Leads R) {p : Progress χ Bool} {p' : Progress χ' Bool}
    (h : Leads R t .offer resumeOffer p p') :
    Leads R t id (fun stage s => s.resumeHandshake stage) (afterOffer p) (afterOffer p') := by
  cases h with
  | @waiting st c s s' hw hs => exact .waiting (Stage.offer st) hw hs
  | raised hs => exact .raised hs
  | @returned accepted s s' hs =>
    cases accepted with
    | true => exact leads_answerInvalid hR (leads_readRequest hR hs)
    | false => exact .returned hs

theorem leads_handshake (hR : Channel.Leads R) (hs : s.Beside R t s') :
    Leads R t id (fun stage s => s.resumeHandshake stage) s.handshake s'.handshake :=
  leads_afterOffer hR (leads_acceptAuthentication hR hs)

theorem leads_resumeHandshake (hR : Channel.Leads R) (hs : s.Beside R t s') (stage : Stage) :
    Leads R t id (fun stage s => s.resumeHandshake stage) (s.resumeHandshake stage)
      (s'.resumeHandshake stage) := by
  cases stage with
  | offer st => exact leads_afterOffer hR (leads_resumeOffer hR hs st)
  | request st => exact leads_answerInvalid hR (leads_resumeRequest hR hs st)

/-! ## Calls -/

theorem leads_call (hR : Channel.Leads R) (hs : s.Beside R t s') (c : Call) :
    Leads R t id c.resume (c.run s) (c.run s') := by
  cases c with
  | acceptAuthentication =>
    exact (leads_acceptAuthentication hR hs).answer .flag (fun _ => rfl) fun _ _ => rfl
  | readRequest => exact (leads_readRequest hR hs).answer .flag (fun _ => rfl) fun _ _ => rfl
  | handshake => exact (leads_handshake hR hs).answer .request (fun _ => rfl) fun _ _ => rfl
  | sendReply r => exact leads_sendReply hR hs r fun _ _ => .returned
  | suggestedReply =>
    dsimp only [Call.run]
    rw [hs.endpoint]
    exact .returned hs

end Session
end Socks5
