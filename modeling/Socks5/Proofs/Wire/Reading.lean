import Socks5.Proofs.Wire.Course
import Socks5.Proofs.Wire.Grammar

/-!
What the reading of an offer or a request comes to, on any channel whose reads can be followed
(`Session.Tracks`). A reading that waits has taken a beginning of the grammar (`Session.Offering`,
`Session.Requesting`), and one that ends well has taken all of it: an offer is then selected from
(`Tracks.resumeOffer`), and a request is stored with the verdict on it (`Tracks.resumeRequest`). Over a channel
that hands out its bytes in order, what was taken and what is still to be read make up all that there was
(`Drains.tallies`).
-/
namespace Socks5

/-! ## Sessions that are followed -/

section

variable {χ : Type} [Duplex χ]

/-- `taken bs s` tells that the session has taken the bytes `bs`, and `lost s` that it is at an end. A
read adds what it got, and nothing else that a reading does makes a difference. -/
structure Session.Tracks (taken : Bytes → Session χ → Prop) (lost : Session χ → Prop) : Prop where
  endpoint : ∀ {bs s} (e : Endpoint), taken bs s → taken bs { s with endpoint := e }
  note : ∀ {bs s} (level : Level) (text : String) (fields : List (String × Value)),
    taken bs s → taken bs (s.note level text fields)
  done : ∀ {bs s n new c}, taken bs s → Duplex.readExact n s.channel = (.done new, c) →
    new.length = n ∧ taken (bs ++ new) (s.move [.took new] c)
  waits : ∀ {bs s n c}, taken bs s → Duplex.readExact n s.channel = (.waiting, c) →
    taken bs (s.move [] c)
  fails : ∀ {bs s n e c}, taken bs s → Duplex.readExact n s.channel = (.failed e, c) →
    lost (s.move [] c)
  ends : ∀ {bs s}, taken bs s → lost s

end

/-! ## Rejections -/

/-- What is to be rejected of a head, where something may have been rejected before. -/
def Head.rejectionAfter (before : Option ReplyCode) (h : Head) : Option ReplyCode :=
  if h.command?.isSome then if h.reserved = 0 then before else before.or (some .generalFailure)
  else some .commandNotSupported

/-- A head that is not valid is rejected, with a reply that is none of success. -/
theorem Head.rejectionAfter_of_not_isValid {before : Option ReplyCode} {h : Head}
    (hv : h.isValid ≠ true) (hb : before ≠ some .success) :
    ∃ r, h.rejectionAfter before = some r ∧ r ≠ .success := by
  unfold rejectionAfter
  split
  · next hc =>
    split
    · next hz => exact absurd (by simp [isValid, hc, hz]) hv
    · cases before with
      | none => exact ⟨_, rfl, by decide⟩
      | some r => exact ⟨r, rfl, fun h => hb (congrArg some h)⟩
  · exact ⟨_, rfl, by decide⟩

/-- What is to be rejected of a request, as far as it was read. -/
def RequestStage.rejection : RequestStage → Option ReplyCode
  | version | head => none
  | ipv4 h | nameLength h | name h _ | ipv6 h | port h _ => h.rejection

/-- The same where something may have been rejected before. -/
def RequestStage.rejectionAfter (before : Option ReplyCode) : RequestStage → Option ReplyCode
  | version | head => before
  | ipv4 h | nameLength h | name h _ | ipv6 h | port h _ => h.rejectionAfter before

theorem RequestStage.rejectionAfter_none (st : RequestStage) :
    st.rejectionAfter none = st.rejection := by
  cases st <;> rfl

/-- What is made of a request that was read, where something may have been rejected before: whether it is
valid, what is stored of it, and what is rejected then. Of an address of an unknown kind nothing is read. -/
inductive Verdict (before : Option ReplyCode) : Bytes → Bool → Request → Option ReplyCode → Prop
  | read (h : Head) {t : Target} {tb : Bytes} (port : UInt16) : t.Spelled tb →
      Verdict before (requestBytes h tb port) h.isValid ⟨h.command?, some t, port⟩ (h.rejectionAfter before)
  | unknownKind (h : Head) {kind : UInt8} : AddressType.ofCode? kind.toNat = none →
      Verdict before [version, h.command, h.reserved, kind] false { command := h.command? }
        (some .addressTypeNotSupported)

theorem Session.endpoint_checkHead {χ : Type} (h : Head) (s : Session χ) :
    (s.checkHead h).endpoint =
      { s.endpoint with rejection := h.rejectionAfter s.endpoint.rejection } := by
  unfold checkHead checkReserved checkCommand Head.rejectionAfter
  by_cases hc : h.command?.isSome <;> by_cases hz : h.reserved = 0 <;> simp [hc, hz]
  cases hr : s.endpoint.rejection with
  | none => simp
  | some r =>
    simp
    rw [← hr]

namespace Session

/-! ## What a reading comes to -/

variable {χ : Type}

section

variable (taken : Bytes → Session χ → Prop) (lost : Session χ → Prop)

/-- The offer is being read, and the endpoint is as it was. -/
def Offering (e : Endpoint) (st : OfferStage) (s : Session χ) : Prop :=
  ∃ bs, st.Taken bs ∧ taken bs s ∧ s.endpoint = e

/-- The request is being read, and the endpoint is as it was but for what was rejected. -/
def Requesting (e : Endpoint) (st : RequestStage) (s : Session χ) : Prop :=
  ∃ bs, st.Taken bs ∧ taken bs s ∧ s.endpoint = { e with rejection := st.rejectionAfter e.rejection }

/-- What the reading of a request comes to: one that is read is stored with the verdict on it. -/
def Judged (e : Endpoint) : Progress χ Bool → Prop
  | .waiting stage s => ∃ st, stage = .request st ∧ Requesting taken e st s
  | .raised _ s => lost s
  | .returned valid s => ∃ bs r rejection, taken bs s ∧ Verdict e.rejection bs valid r rejection ∧
      s.endpoint = { e with phase := .requestDone, request := some r, rejection := rejection }

/-- The same, less closely: a valid request is stored and was taken to its end, and for any other there is a
reply that refuses it. -/
def Answered (e : Endpoint) : Progress χ Bool → Prop
  | .waiting stage s => ∃ st, stage = .request st ∧ Requesting taken e st s
  | .raised _ s => lost s
  | .returned valid s => ∃ bs, taken bs s ∧ s.endpoint.phase = .requestDone ∧
      if valid then ∃ r, s.endpoint.request = some r ∧ r.Spelled bs
      else e.rejection ≠ some .success → s.endpoint.suggestedReply ≠ .success

variable {taken lost} in
theorem Judged.answered {e : Endpoint} {p : Progress χ Bool} (hp : Judged taken lost e p) :
    Answered taken lost e p := by
  cases p with
  | waiting stage s => exact hp
  | raised x s => exact hp
  | returned valid s =>
    obtain ⟨bs, r, rejection, hbs, hv, he⟩ := hp
    refine ⟨bs, hbs, by rw [he], ?_⟩
    cases hv with
    | read h port ht =>
      split
      · next hv => exact ⟨_, by rw [he], ht.request hv port⟩
      · next hv =>
        intro hb
        obtain ⟨r, hr, hne⟩ := Head.rejectionAfter_of_not_isValid hv hb
        simpa [Endpoint.suggestedReply, he, hr] using hne
    | unknownKind h hk =>
      intro _
      simp [Endpoint.suggestedReply, he]

end

namespace Tracks

variable [Duplex χ] {taken : Bytes → Session χ → Prop} {lost : Session χ → Prop} (ht : Tracks taken lost)
  {e : Endpoint} {s : Session χ} {bs : Bytes} {h : Head}

include ht

/-- What holds after a read, from what holds in each of its three outcomes. -/
theorem read {α : Type} (hs : taken bs s) {stage : Stage} {next : Bytes → Session χ → Progress χ α}
    {P : Progress χ α → Prop}
    (waits : ∀ s', taken bs s' → s'.endpoint = s.endpoint → P (.waiting stage s'))
    (fails : ∀ e s', lost s' → P (.raised e s'))
    (goes : ∀ new s', new.length = stage.need → taken (bs ++ new) s' → s'.endpoint = s.endpoint →
      P (next new s')) : P (s.read stage next) := by
  refine read_elim ?_ ?_ ?_
  · intro c ha
    exact waits _ (ht.waits hs ha) rfl
  · intro e c ha
    exact fails e _ (ht.fails hs ha)
  · intro new c ha
    obtain ⟨hn, hs'⟩ := ht.done hs ha
    exact goes new _ hn hs' rfl

/-! ## Offers -/

section

variable {P : Progress χ Bool → Prop}
  (waits : ∀ st s', Offering taken e st s' → P (.waiting (.offer st) s'))
  (fails : ∀ x s', lost s' → P (.raised x s'))
  (selects : ∀ methods s', methods.length ≤ 255 → taken (offerBytes methods) s' → s'.endpoint = e →
    P (select methods s'))

include waits fails selects

theorem readMethods {n : Nat} (hs : Offering taken e (.methods n) s) : P (readMethods n s) := by
  obtain ⟨bs, ⟨hle, rfl⟩, hs, he⟩ := hs
  refine ht.read hs (fun s' hs' he' => waits _ s' ⟨_, ⟨hle, rfl⟩, hs', he'.trans he⟩) fails ?_
  intro new s' hn hs' he'
  obtain rfl : new.length = n := hn
  exact selects new s' hle hs' (he'.trans he)

theorem readCount (hs : Offering taken e .count s) : P (readCount s) := by
  obtain ⟨bs, rfl, hs, he⟩ := hs
  refine ht.read hs (fun s' hs' he' => waits _ s' ⟨_, rfl, hs', he'.trans he⟩) fails ?_
  intro new s' hn hs' he'
  obtain ⟨n, rfl⟩ := List.length_eq_one_iff.1 hn
  refine ht.readMethods waits fails selects ⟨_, ⟨toNat_le n, ?_⟩, hs', he'.trans he⟩
  simp

theorem readOffer (hs : Offering taken e .version s) : P (readOffer s) := by
  obtain ⟨bs, rfl, hs, he⟩ := hs
  unfold Session.readOffer readVersion
  refine ht.read hs (fun s' hs' he' => waits _ s' ⟨_, rfl, hs', he'.trans he⟩) fails ?_
  intro new s' hn hs' he'
  obtain ⟨v, rfl⟩ := List.length_eq_one_iff.1 hn
  dsimp only
  split
  · next hv =>
    exact ht.readCount waits fails selects ⟨_, congrArg (fun v => [v]) hv, hs', he'.trans he⟩
  · exact fails _ _ (ht.ends (ht.note _ _ _ hs'))

/-- An offer that is taken to its end is selected from. -/
theorem resumeOffer {st : OfferStage} (hs : Offering taken e st s) : P (resumeOffer st s) := by
  cases st with
  | version => exact ht.readOffer waits fails selects hs
  | count => exact ht.readCount waits fails selects hs
  | methods n => exact ht.readMethods waits fails selects hs

end

/-! ## Requests -/

/-- A stage that gets what it needs is read past. -/
theorem readRequestStage {st : RequestStage} {next : Bytes → Session χ → Progress χ Bool}
    (hs : Requesting taken e st s)
    (goes : ∀ bs new s', st.Taken bs → new.length = (Stage.request st).need → taken (bs ++ new) s' →
      s'.endpoint = { e with rejection := st.rejectionAfter e.rejection } →
      Judged taken lost e (next new s')) :
    Judged taken lost e (s.read (.request st) next) := by
  obtain ⟨bs, hst, hs, he⟩ := hs
  refine ht.read hs ?_ ?_ ?_
  · intro s' hs' he'
    exact ⟨st, rfl, bs, hst, hs', he'.trans he⟩
  · intro x s' hs'
    exact hs'
  · intro new s' hn hs' he'
    exact goes bs new s' hst hn hs' (he'.trans he)

theorem readPort {t : Target} (hs : Requesting taken e (.port h t) s) :
    Judged taken lost e (readPort h t s) := by
  refine ht.readRequestStage hs fun bs new s' hst hn hs' he => ?_
  obtain ⟨tb, htb, hbs⟩ := requestBytes_of_taken hst hn
  have hv : Verdict e.rejection (bs ++ new) h.isValid
      ⟨h.command?, some t, UInt16.ofNat (Bytes.toNat new)⟩ (h.rejectionAfter e.rejection) := by
    rw [hbs]
    exact .read h _ htb
  refine ⟨bs ++ new, _, _, ht.note _ _ _ (ht.endpoint _ hs'), hv, ?_⟩
  rw [endpoint_note, storeRequest, he]
  rfl

theorem readIPv4 (hs : Requesting taken e (.ipv4 h) s) : Judged taken lost e (readIPv4 h s) := by
  refine ht.readRequestStage hs fun bs new s' hst hn hs' he => ?_
  refine ht.readPort ⟨bs ++ new, ⟨_, .ipv4 hn, ?_⟩, hs', he⟩
  rw [hst]
  rfl

theorem readIPv6 (hs : Requesting taken e (.ipv6 h) s) : Judged taken lost e (readIPv6 h s) := by
  refine ht.readRequestStage hs fun bs new s' hst hn hs' he => ?_
  refine ht.readPort ⟨bs ++ new, ⟨_, .ipv6 hn, ?_⟩, hs', he⟩
  rw [hst]
  rfl

theorem readName {n : Nat} (hs : Requesting taken e (.name h n) s) :
    Judged taken lost e (readName h n s) := by
  refine ht.readRequestStage hs fun bs new s' hst hn hs' he => ?_
  obtain ⟨hle, hbs⟩ := hst
  have hlen : new.length = n := hn
  split
  · next ha =>
    refine ht.readPort ⟨bs ++ new, ⟨_, .name (hlen ▸ hle) fun x hx => ?_, ?_⟩, hs', he⟩
    · simpa using List.all_eq_true.1 ha x hx
    · rw [hbs, hlen]
      rfl
  · exact ht.ends (ht.endpoint _ (ht.endpoint _ (ht.note _ _ _ hs')))

theorem readNameLength (hs : Requesting taken e (.nameLength h) s) :
    Judged taken lost e (readNameLength h s) := by
  refine ht.readRequestStage hs fun bs new s' hst hn hs' he => ?_
  obtain ⟨n, rfl⟩ := List.length_eq_one_iff.1 hn
  refine ht.readName ⟨bs ++ [n], ⟨toNat_le _, ?_⟩, hs', he⟩
  rw [hst]
  simp

theorem checkHead (hs : taken bs s) : taken bs (s.checkHead h) := by
  have first : taken bs (s.checkCommand h) := by
    unfold checkCommand
    split
    · exact hs
    · exact ht.endpoint _ (ht.note _ _ _ hs)
  unfold Session.checkHead checkReserved
  split
  · exact first
  · dsimp only
    split
    · exact ht.endpoint _ (ht.note _ _ _ first)
    · exact ht.note _ _ _ first

theorem readTarget {kind : UInt8} (hs : taken [version, h.command, h.reserved, kind] s)
    (he : s.endpoint = { e with rejection := h.rejectionAfter e.rejection }) :
    Judged taken lost e (readTarget h kind s) := by
  unfold Session.readTarget
  cases hk : AddressType.ofCode? kind.toNat with
  | none =>
    refine ⟨_, _, _, ht.endpoint _ (ht.endpoint _ (ht.note _ _ _ hs)), .unknownKind h hk, ?_⟩
    simp [storeRequest, he]
  | some t =>
    have hkind : kind = t.code := UInt8.toNat_inj.1 (AddressType.ofCode?_eq_some.1 hk)
    rw [hkind] at hs
    cases t with
    | ipv4 => exact ht.readIPv4 ⟨_, rfl, hs, he⟩
    | domainName => exact ht.readNameLength ⟨_, rfl, hs, he⟩
    | ipv6 => exact ht.readIPv6 ⟨_, rfl, hs, he⟩

theorem readHead (hs : Requesting taken e .head s) : Judged taken lost e (readHead s) := by
  refine ht.readRequestStage hs fun bs new s' hst hn hs' he => ?_
  obtain ⟨command, reserved, kind, rfl⟩ := List.length_eq_three.1 hn
  obtain rfl : bs = [version] := hst
  refine ht.readTarget (ht.checkHead hs') ?_
  rw [endpoint_checkHead, he]
  rfl

theorem readBody (hs : Requesting taken e .version s) : Judged taken lost e (readBody s) := by
  unfold Session.readBody readVersion
  refine ht.readRequestStage hs fun bs new s' hst hn hs' he => ?_
  obtain ⟨v, rfl⟩ := List.length_eq_one_iff.1 hn
  obtain rfl : bs = [] := hst
  dsimp only
  split
  · next hv => exact ht.readHead ⟨_, congrArg (fun v => [v]) hv, hs', he⟩
  · exact ht.ends (ht.note _ _ _ hs')

theorem resumeRequest {st : RequestStage} (hs : Requesting taken e st s) :
    Judged taken lost e (resumeRequest st s) := by
  cases st with
  | version => exact ht.readBody hs
  | head => exact ht.readHead hs
  | ipv4 h => exact ht.readIPv4 hs
  | nameLength h => exact ht.readNameLength hs
  | name h n => exact ht.readName hs
  | ipv6 h => exact ht.readIPv6 hs
  | port h t => exact ht.readPort hs

end Tracks
end Session

/-! ## Channels that hand out their bytes -/

/-- A read takes from the front of what there is to read, and nothing else takes from it but a read
that fails. -/
structure Drains {χ : Type} [Duplex χ] (unread : χ → Bytes) : Prop where
  done : ∀ {n c new c'}, Duplex.readExact n c = (.done new, c') →
    new.length = n ∧ unread c = new ++ unread c'
  waits : ∀ {n c c'}, Duplex.readExact n c = (.waiting, c') → unread c' = unread c
  writes : ∀ bs c, unread (Duplex.writeAll bs c).2 = unread c

theorem Channel.Memory.drains : Drains Channel.Memory.unread where
  done := by
    intro n c new c' h
    unfold Duplex.readExact instDuplexMemory readExact at h
    dsimp only at h
    repeat' split at h
    all_goals cases h
    exact ⟨List.length_take_of_le (by omega), (List.take_append_drop n c.unread).symm⟩
  waits := fun {n c c'} h => absurd (congrArg Prod.fst h) (readExact_ne_waiting n c)
  writes bs c := by
    unfold Duplex.writeAll instDuplexMemory writeAll
    dsimp only
    split <;> rfl

theorem Channel.Stream.drains : Drains Channel.Stream.unread where
  done := by
    intro n c new c' h
    unfold Duplex.readExact instDuplexStream readExact at h
    dsimp only at h
    repeat' split at h
    all_goals cases h
    exact ⟨List.length_take_of_le (by omega), (List.take_append_drop n c.unread).symm⟩
  waits := by
    intro n c c' h
    unfold Duplex.readExact instDuplexStream readExact at h
    dsimp only at h
    repeat' split at h
    all_goals cases h
    rfl
  writes bs c := by
    unfold Duplex.writeAll instDuplexStream writeAll
    dsimp only
    split <;> rfl

section

variable {χ : Type} [Duplex χ] {unread : χ → Bytes} {s s' : Session χ}

theorem Drains.tracks (h : Drains unread) (given : Bytes) :
    Session.Tracks (fun bs s => given = bs ++ unread s.channel) (fun _ => True) where
  endpoint := fun _ hs => hs
  note := fun _ _ _ hs => hs
  done := by
    intro bs s n new c hs ha
    obtain ⟨hn, hu⟩ := h.done ha
    refine ⟨hn, ?_⟩
    rw [hs, hu, List.append_assoc]
    rfl
  waits := by
    intro bs s n c hs ha
    rw [hs, ← h.waits ha]
    rfl
  fails := fun _ _ => trivial
  ends := fun _ => trivial

/-- A request is read only after an offer that was accepted. -/
theorem Session.readBody_of_readRequest {valid : Bool} (h : s.readRequest = .returned valid s') :
    readBody s = .returned valid s' := by
  unfold readRequest inPhase at h
  split at h
  · dsimp only at h
    split at h
    · exact h
    · cases h
  · cases h

/-- A valid request was taken from the front of what there was to read. -/
theorem Session.spelled_of_readRequest (hd : Drains unread) (h : s.readRequest = .returned true s') :
    ∃ q r, unread s.channel = q ++ unread s'.channel ∧ s'.endpoint.request = some r ∧
      r.Spelled q := by
  have hb := readBody_of_readRequest h
  have hr := ((hd.tracks (unread s.channel)).readBody (e := s.endpoint) (s := s) ⟨[], rfl, rfl, rfl⟩).answered
  rw [hb] at hr
  obtain ⟨q, hq, -, r, hreq, hs⟩ := hr
  exact ⟨q, r, hq, hreq, hs⟩

end

/-! ## Bytes that were taken -/

section

variable {χ : Type}

def Move.taken : Move → Bytes
  | took bs => bs
  | wrote _ _ | noted _ => []

/-- The bytes that the calls of an endpoint have taken from its channel. -/
def Session.taken (s : Session χ) : Bytes := s.trace.flatMap Move.taken

@[simp] theorem Session.taken_move (ms : List Move) (c : χ) (s : Session χ) :
    (s.move ms c).taken = s.taken ++ ms.flatMap Move.taken := List.flatMap_append

theorem Session.taken_note (level : Level) (text : String) (fields : List (String × Value)) (s : Session χ) :
    (s.note level text fields).taken = s.taken := (taken_move _ _ _).trans (List.append_nil _)

theorem Drains.follows [Duplex χ] {unread : χ → Bytes} (h : Drains unread) (base : Bytes) :
    Session.Tracks (fun bs (s : Session χ) => s.taken = base ++ bs) (fun _ => True) where
  endpoint := fun _ hs => hs
  note := fun level text fields hs => (Session.taken_note level text fields _).trans hs
  done := by
    intro bs s n new c hs ha
    refine ⟨(h.done ha).1, ?_⟩
    rw [Session.taken_move, hs]
    simp [Move.taken]
  waits := by
    intro bs s n c hs _
    rw [Session.taken_move, hs]
    simp
  fails := fun _ _ => trivial
  ends := fun _ => trivial

end
end Socks5
