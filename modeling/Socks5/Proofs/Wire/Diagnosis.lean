import Socks5.Proofs.Wire.RoundTrip

/-!
What is wrong with a request, read off its bytes. An input has another version in front, an unknown
kind of address, a name that is not ASCII, a complete request, or an end inside a field
(`Diagnosis`). Every input is one of these (`exists_diagnosis`), and the call that reads it comes to what
the diagnosis says (`readRequest_diagnosis`). Each stage that an input fills is read past, so that a
diagnosis is about the last stage alone.
-/
namespace Socks5

/-! ## Diagnoses -/

/-- What an input amounts to, where a request is to be read and nothing was rejected before: what the
call comes to, the bytes that it leaves, and the endpoint behind it. -/
inductive Diagnosis (e : Endpoint) : Bytes → Except Failure Bool → Bytes → Endpoint → Prop
  | otherVersion {v : UInt8} (rest : Bytes) : v ≠ version →
      Diagnosis e (v :: rest) (.error (.version v)) rest e
  | unknownKind (h : Head) {kind : UInt8} (rest : Bytes) : AddressType.ofCode? kind.toNat = none →
      Diagnosis e (version :: h.command :: h.reserved :: kind :: rest) (.ok false) rest
        { e with phase := .requestDone, request := some { command := h.command? },
                 rejection := some .addressTypeNotSupported }
  | otherName (h : Head) {name : Bytes} (rest : Bytes) : name.length ≤ 255 → (∃ b ∈ name, 128 ≤ b) →
      Diagnosis e (version :: h.command :: h.reserved :: AddressType.domainName.code ::
          UInt8.ofNat name.length :: (name ++ rest)) (.error (.hostName name)) rest
        { e with phase := .requestDone, request := some { command := h.command? },
                 rejection := some .generalFailure }
  | complete (h : Head) {t : Target} {tb : Bytes} (port : UInt16) (rest : Bytes) : t.Spelled tb →
      Diagnosis e (requestBytes h tb port ++ rest) (.ok h.isValid) rest
        { e with phase := .requestDone, request := some ⟨h.command?, some t, port⟩,
                 rejection := h.rejection }
  | cut (st : RequestStage) {taken : Bytes} (part : Bytes) : st.Taken taken →
      part.length < (Stage.request st).need →
      Diagnosis e (taken ++ part) (.error (.channel (.ended part.length (Stage.request st).need))) []
        { e with rejection := st.rejection }

/-- What a call is when it is over. -/
def Session.over {χ α : Type} (s : Session χ) : Except Failure α → Progress χ α
  | .ok a => .returned a s
  | .error e => .raised e s

/-- The call over a captured input comes to the outcome. It leaves the rest of the input unread, and of
the channel it changes nothing else. -/
def Session.ComesTo (s : Session Channel.Memory) (p : Progress Channel.Memory Bool)
    (o : Except Failure Bool) (rest : Bytes) (e : Endpoint) : Prop :=
  ∃ s' : Session Channel.Memory, p = s'.over o ∧ s'.channel = { s.channel with unread := rest } ∧ s'.endpoint = e

theorem Session.ComesTo.unique {s : Session Channel.Memory} {p : Progress Channel.Memory Bool}
    {o o' : Except Failure Bool} {rest rest' : Bytes} {e e' : Endpoint} (h : s.ComesTo p o rest e)
    (h' : s.ComesTo p o' rest' e') : o = o' ∧ rest = rest' ∧ e = e' := by
  obtain ⟨s₁, rfl, hc, rfl⟩ := h
  obtain ⟨s₂, hp, hc', rfl⟩ := h'
  have heq : o = o' ∧ s₁ = s₂ := by
    cases o <;> cases o' <;> cases hp <;> exact ⟨rfl, rfl⟩
  obtain ⟨rfl, rfl⟩ := heq
  rw [hc] at hc'
  exact ⟨rfl, congrArg Channel.Memory.unread hc', rfl⟩

/-! ## Every input has a diagnosis -/

section

variable (e : Endpoint) (h : Head)

theorem exists_diagnosis_port {t : Target} {tb : Bytes} (ht : t.Spelled tb) (bs : Bytes) :
    ∃ o rest e', Diagnosis e (version :: h.command :: h.reserved :: tb ++ bs) o rest e' := by
  match bs with
  | a :: b :: rest =>
    have hw : Bytes.ofWord (UInt16.ofNat (Bytes.toNat [a, b])).toNat = [a, b] := ofWord_of_length_two rfl
    have := Diagnosis.complete (e := e) h (UInt16.ofNat (Bytes.toNat [a, b])) rest ht
    rw [requestBytes, hw] at this
    exact ⟨_, _, _, by simpa using this⟩
  | [a] => exact ⟨_, _, _, .cut (.port h t) [a] ⟨tb, ht, rfl⟩ Nat.one_lt_two⟩
  | [] => exact ⟨_, _, _, .cut (.port h t) [] ⟨tb, ht, rfl⟩ Nat.two_pos⟩

theorem exists_diagnosis_name (n : UInt8) (bs : Bytes) : ∃ o rest e', Diagnosis e
    (version :: h.command :: h.reserved :: AddressType.domainName.code :: n :: bs) o rest e' := by
  by_cases hl : bs.length < n.toNat
  · have := Diagnosis.cut (e := e) (.name h n.toNat) bs ⟨toNat_le n, rfl⟩ hl
    rw [UInt8.ofNat_toNat] at this
    exact ⟨_, _, _, this⟩
  · obtain ⟨name, rest, rfl, hlen⟩ : ∃ name rest, bs = name ++ rest ∧ name.length = n.toNat :=
      ⟨_, _, (List.take_append_drop n.toNat bs).symm, List.length_take_of_le (by omega)⟩
    have hle : name.length ≤ 255 := hlen ▸ toNat_le n
    obtain rfl : n = UInt8.ofNat name.length := by rw [hlen, UInt8.ofNat_toNat]
    by_cases hascii : ∀ b ∈ name, b < 128
    · simpa using exists_diagnosis_port e h (.name hle hascii) rest
    · have hbad : ∃ b ∈ name, 128 ≤ b := by simpa using hascii
      exact ⟨_, _, _, .otherName h rest hle hbad⟩

/-- An address of a fixed length is there or is cut off. -/
theorem exists_diagnosis_address {t : Bytes → Target} {code : UInt8} (st : RequestStage)
    (spelled : ∀ tb : Bytes, tb.length = (Stage.request st).need → (t tb).Spelled (code :: tb))
    (taken : st.Taken [version, h.command, h.reserved, code]) (bs : Bytes) :
    ∃ o rest e', Diagnosis e (version :: h.command :: h.reserved :: code :: bs) o rest e' := by
  by_cases hl : bs.length < (Stage.request st).need
  · exact ⟨_, _, _, .cut st bs taken hl⟩
  · have := exists_diagnosis_port e h
      (spelled (bs.take (Stage.request st).need) (List.length_take_of_le (by omega)))
      (bs.drop (Stage.request st).need)
    simpa using this

end

theorem exists_diagnosis (e : Endpoint) (d : Bytes) : ∃ o rest e', Diagnosis e d o rest e' := by
  match d with
  | [] => exact ⟨_, _, _, .cut .version [] rfl Nat.one_pos⟩
  | v :: d =>
    by_cases hv : v = version
    · subst hv
      match d with
      | [] => exact ⟨_, _, _, .cut .head [] rfl (Nat.lt_of_sub_eq_succ rfl)⟩
      | [a] => exact ⟨_, _, _, .cut .head [a] rfl (Nat.lt_of_sub_eq_succ rfl)⟩
      | [a, b] => exact ⟨_, _, _, .cut .head [a, b] rfl (Nat.lt_of_sub_eq_succ rfl)⟩
      | command :: reserved :: kind :: bs =>
        let h : Head := ⟨command, reserved⟩
        cases hk : AddressType.ofCode? kind.toNat with
        | none => exact ⟨_, _, _, .unknownKind h bs hk⟩
        | some t =>
          obtain rfl : kind = t.code := UInt8.toNat_inj.1 (AddressType.ofCode?_eq_some.1 hk)
          cases t with
          | ipv4 => exact exists_diagnosis_address e h (.ipv4 h) (fun _ => .ipv4) rfl bs
          | ipv6 => exact exists_diagnosis_address e h (.ipv6 h) (fun _ => .ipv6) rfl bs
          | domainName =>
            match bs with
            | [] => exact ⟨_, _, _, .cut (.nameLength h) [] rfl Nat.one_pos⟩
            | n :: bs => exact exists_diagnosis_name e h n bs
    · exact ⟨_, _, _, .otherVersion d hv⟩

/-! ## The call comes to what the diagnosis says -/

section

variable {s : Session Channel.Memory}

/-- A captured input that is too short for a stage is read to its end. -/
theorem Session.read_short {α : Type} {stage : Stage}
    {next : Bytes → Session Channel.Memory → Progress Channel.Memory α} (ho : s.channel.closed = false)
    (hl : s.channel.unread.length < stage.need) :
    s.read stage next = .raised (.channel (.ended s.channel.unread.length stage.need))
      (s.move [] { s.channel with unread := [] }) := by
  simp [Session.read, Duplex.readExact, Channel.Memory.readExact, ho, hl]

theorem Diagnosis.comesTo_readBody {o : Except Failure Bool} {rest : Bytes} {e' : Endpoint}
    (hd : Diagnosis s.endpoint s.channel.unread o rest e') (ho : s.channel.closed = false)
    (hr : s.endpoint.rejection = none) : s.ComesTo s.readBody o rest e' := by
  have hf := Channel.Memory.feeds ho
  generalize hu : s.channel.unread = d at hd
  have hs : s.channel = { s.channel with unread := d } := by rw [← hu]
  cases hd with
  | @otherVersion v _ hv =>
    have hs' : s.channel = { s.channel with unread := [v] ++ rest } := hs
    rw [Session.readBody, Session.readVersion, Session.read_fill hf (.request .version) hs' rfl]
    dsimp only [List.headD_cons]
    rw [if_neg hv]
    exact ⟨_, rfl, rfl, rfl⟩
  | @unknownKind h kind _ hk =>
    obtain ⟨s₁, hb, hc, he⟩ := Session.readBody_eq_readTarget hf hs
    rw [hb, Session.readTarget, hk]
    refine ⟨_, rfl, hc, ?_⟩
    simp [Session.storeRequest, he]
  | @otherName h name _ hn hbad =>
    obtain ⟨s₁, hb, hc, he⟩ := Session.reaches_name hf hn hs
    have hall : ¬name.all (· < 128) = true := by simpa using hbad
    rw [hb, Session.resumeRequest, Session.readName, Session.read_fill hf (.request (.name h _)) hc rfl, if_neg hall]
    refine ⟨_, rfl, rfl, ?_⟩
    simp [Session.storeRequest, he]
  | @complete h t tb port _ ht =>
    have hs' : s.channel = { s.channel with unread :=
        version :: h.command :: h.reserved :: tb ++ (Bytes.ofWord port.toNat ++ rest) } := by
      rw [hs, requestBytes]
      simp
    obtain ⟨s₁, hb, hc, he⟩ := Session.reaches_port hf ht hs'
    obtain ⟨s₂, hp, hc', he'⟩ := Session.reads_port hf h t port hc
    refine ⟨s₂, hb.trans hp, hc', ?_⟩
    rw [he', he, hr]
    rfl
  | @cut st taken part ht hl =>
    obtain ⟨s₁, hb, hc, he⟩ := Session.reaches hf ht hs
    obtain ⟨next, hn⟩ := Session.resumeRequest_eq_read st s₁
    have hu : s₁.channel.unread = part := congrArg Channel.Memory.unread hc
    have hs₁ : s₁.channel.closed = false := (congrArg Channel.Memory.closed hc).trans ho
    refine ⟨s₁.move [] { s₁.channel with unread := [] }, ?_, ?_, ?_⟩
    · rw [hb, hn, Session.read_short hs₁ (hu ▸ hl), hu]
      rfl
    · rw [Session.channel_move, hc]
    · rw [Session.endpoint_move, he, hr, RequestStage.rejectionAfter_none]

/-- A request is read from every captured input: what the call comes to, how much it consumes, and what it
leaves in the endpoint is the diagnosis of the input. Once the channel is closed, nothing is read. -/
theorem readRequest_diagnosis (s : Session Channel.Memory) (hp : s.endpoint.phase = .authDone)
    (ha : s.endpoint.authAccepted = true) (hr : s.endpoint.rejection = none) :
    (s.channel.closed = false → (∃ o rest e, Diagnosis s.endpoint s.channel.unread o rest e) ∧
      ∀ o rest e, Diagnosis s.endpoint s.channel.unread o rest e ↔ s.ComesTo s.readRequest o rest e) ∧
    (s.channel.closed = true → s.ComesTo s.readRequest (.error (.channel (.closedForReading 1)))
      s.channel.unread s.endpoint) := by
  have hp' : s.endpoint.phase = Operation.readRequest.phase := hp
  have hb : s.readRequest = s.readBody := by rw [Session.readRequest, Session.inPhase, if_pos hp', if_pos ha]
  rw [hb]
  constructor
  · intro ho
    obtain ⟨o, rest, e, hd⟩ := exists_diagnosis s.endpoint s.channel.unread
    refine ⟨⟨o, rest, e, hd⟩, fun o' rest' e' => ⟨fun hd' => hd'.comesTo_readBody ho hr, fun hc => ?_⟩⟩
    obtain ⟨rfl, rfl, rfl⟩ := hc.unique (hd.comesTo_readBody ho hr)
    exact hd
  · intro hcl
    refine ⟨s.move [] s.channel, ?_, rfl, rfl⟩
    simp [Session.readBody, Session.readVersion, Session.read, Duplex.readExact, Channel.Memory.readExact,
      hcl, Stage.need, Session.over]

/-- A reserved byte that is set and a name that is not ASCII: the name counts. -/
theorem readRequest_diagnosis_otherName : ∃ s : Session Channel.Memory,
    s.endpoint = { phase := .authDone, authAccepted := true } ∧
    s.channel = { unread := [5, 9, 1, 3, 2, 97, 200, 0, 80] } ∧
    s.ComesTo s.readRequest (.error (.hostName [97, 200])) [0, 80]
      { s.endpoint with phase := .requestDone, request := some {}, rejection := some .generalFailure } := by
  let s : Session Channel.Memory :=
    { endpoint := { phase := .authDone, authAccepted := true },
      channel := { unread := [5, 9, 1, 3, 2, 97, 200, 0, 80] } }
  have hd : Diagnosis s.endpoint s.channel.unread (.error (.hostName [97, 200])) [0, 80]
      { s.endpoint with phase := .requestDone, request := some {}, rejection := some .generalFailure } :=
    have hbad : ∃ b ∈ ([97, 200] : Bytes), 128 ≤ b := by decide
    .otherName ⟨9, 1⟩ [0, 80] (by decide) hbad
  have h := (readRequest_diagnosis s rfl rfl rfl).1 rfl
  exact ⟨s, rfl, rfl, (h.2 _ _ _).1 hd⟩

end
end Socks5
