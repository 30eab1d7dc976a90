import Mathlib.Data.List.TakeWhile
import Socks5.Proofs.Wire.Reading

/-!
A request that a client encodes is the request that the server reads. The two halves meet at the
grammar: each stage that is filled is read past (`Session.reaches`), so whatever spells a request is read
as that request, from any channel that hands its bytes out in order (`Request.Spelled.read`); and an encoding spells
the request that it is made for (`Target.spelled_of_encodeHost`).
-/
namespace Socks5

/-! ## Channels that hand out what they hold -/

/-- A channel that has some bytes to hand out and hands them out in order. -/
structure Feeds {χ : Type} [Duplex χ] (fill : Bytes → χ) : Prop where
  read : ∀ bs rest, Duplex.readExact bs.length (fill (bs ++ rest)) = (.done bs, fill rest)

theorem Channel.Memory.feeds {c : Channel.Memory} (hc : c.closed = false) :
    Feeds fun bs => { c with unread := bs } where
  read bs rest := by simp [Duplex.readExact, Channel.Memory.readExact, hc]

theorem Channel.Stream.feeds {c : Channel.Stream} (hc : c.readFault = none) :
    Feeds fun bs => { c with unread := bs } where
  read bs rest := by simp [Duplex.readExact, Channel.Stream.readExact, hc]

section

variable {χ α : Type} [Duplex χ] {fill : Bytes → χ} {s : Session χ}

theorem Session.read_fill (hf : Feeds fill) (stage : Stage) {next : Bytes → Session χ → Progress χ α}
    {bs rest : Bytes} (hs : s.channel = fill (bs ++ rest)) (hn : stage.need = bs.length) :
    s.read stage next = next bs (s.move [.took bs] (fill rest)) := by
  rw [Session.read, hn, hs, hf.read]

/-! ## How far a reading gets -/

variable {h : Head} {rest : Bytes}

/-- The reading of a request gets to the stage, and the rest of the input is still to be read. -/
def Session.Reaches (fill : Bytes → χ) (s : Session χ) (st : RequestStage) (rest : Bytes) : Prop :=
  ∃ s' : Session χ, s.readBody = resumeRequest st s' ∧ s'.channel = fill rest ∧
    s'.endpoint = { s.endpoint with rejection := st.rejectionAfter s.endpoint.rejection }

namespace Session

theorem reaches_head (hf : Feeds fill) (hs : s.channel = fill (version :: rest)) :
    s.Reaches fill .head rest := by
  have hs' : s.channel = fill ([version] ++ rest) := hs
  refine ⟨s.move [.took [version]] (fill rest), ?_, rfl, rfl⟩
  rw [readBody, readVersion, read_fill hf (.request .version) hs' rfl]
  rfl

/-- Once its head is read, a request goes on by the kind of its address. -/
theorem readBody_eq_readTarget (hf : Feeds fill) {kind : UInt8}
    (hs : s.channel = fill (version :: h.command :: h.reserved :: kind :: rest)) :
    ∃ s' : Session χ, s.readBody = s'.readTarget h kind ∧ s'.channel = fill rest ∧
      s'.endpoint = { s.endpoint with rejection := h.rejectionAfter s.endpoint.rejection } := by
  obtain ⟨s₁, hb, hc, he⟩ := reaches_head hf hs
  have hc' : s₁.channel = fill ([h.command, h.reserved, kind] ++ rest) := hc
  refine ⟨(s₁.move [.took [h.command, h.reserved, kind]] (fill rest)).checkHead h, ?_, ?_, ?_⟩
  · rw [hb, resumeRequest, readHead, read_fill hf (.request .head) hc' rfl]
    rfl
  · exact channel_checkHead _ _
  · rw [endpoint_checkHead, endpoint_move, he]
    rfl

theorem reaches_name {n : Nat} (hf : Feeds fill) (hn : n ≤ 255)
    (hs : s.channel = fill (version :: h.command :: h.reserved :: AddressType.domainName.code ::
      UInt8.ofNat n :: rest)) : s.Reaches fill (.name h n) rest := by
  obtain ⟨s₁, hb, hc, he⟩ := readBody_eq_readTarget hf hs
  have hc' : s₁.channel = fill ([UInt8.ofNat n] ++ rest) := hc
  have hlen : (UInt8.ofNat n).toNat = n := by rw [UInt8.toNat_ofNat', Nat.mod_eq_of_lt (by omega)]
  have hk : s₁.readTarget h AddressType.domainName.code = s₁.readNameLength h := rfl
  refine ⟨s₁.move [.took [UInt8.ofNat n]] (fill rest), ?_, rfl, he⟩
  rw [hb, hk, readNameLength, read_fill hf (.request (.nameLength h)) hc' rfl, List.headD_cons, hlen]
  rfl

theorem reaches_port {t : Target} {tb : Bytes} (hf : Feeds fill) (ht : t.Spelled tb)
    (hs : s.channel = fill (version :: h.command :: h.reserved :: tb ++ rest)) :
    s.Reaches fill (.port h t) rest := by
  cases ht with
  | @ipv4 bs hl =>
    obtain ⟨s₁, hb, hc, he⟩ := readBody_eq_readTarget hf hs
    have hk : s₁.readTarget h AddressType.ipv4.code = s₁.readIPv4 h := rfl
    refine ⟨s₁.move [.took bs] (fill rest), ?_, rfl, he⟩
    rw [hb, hk, readIPv4, read_fill hf (.request (.ipv4 h)) hc hl.symm]
    rfl
  | @ipv6 bs hl =>
    obtain ⟨s₁, hb, hc, he⟩ := readBody_eq_readTarget hf hs
    have hk : s₁.readTarget h AddressType.ipv6.code = s₁.readIPv6 h := rfl
    refine ⟨s₁.move [.took bs] (fill rest), ?_, rfl, he⟩
    rw [hb, hk, readIPv6, read_fill hf (.request (.ipv6 h)) hc hl.symm]
    rfl
  | @name bs hl hascii =>
    obtain ⟨s₁, hb, hc, he⟩ := reaches_name hf hl hs
    have hall : bs.all (· < 128) = true := by simpa using hascii
    refine ⟨s₁.move [.took bs] (fill rest), ?_, rfl, he⟩
    rw [hb, resumeRequest, readName, read_fill hf (.request (.name h bs.length)) hc rfl, if_pos hall]
    rfl

/-- A request that fills the stages before one is read up to it. -/
theorem reaches (hf : Feeds fill) {st : RequestStage} {taken : Bytes} (ht : st.Taken taken)
    (hs : s.channel = fill (taken ++ rest)) : s.Reaches fill st rest := by
  cases st with
  | version =>
    obtain rfl : taken = [] := ht
    exact ⟨s, rfl, hs, rfl⟩
  | head =>
    obtain rfl : taken = [Socks5.version] := ht
    exact reaches_head hf hs
  | ipv4 h =>
    obtain rfl := ht
    exact readBody_eq_readTarget hf hs
  | nameLength h =>
    obtain rfl := ht
    exact readBody_eq_readTarget hf hs
  | name h n =>
    obtain ⟨hn, rfl⟩ := ht
    exact reaches_name hf hn hs
  | ipv6 h =>
    obtain rfl := ht
    exact readBody_eq_readTarget hf hs
  | port h t =>
    obtain ⟨tb, htb, rfl⟩ := ht
    exact reaches_port hf htb hs

end Session

/-! ## Reading what is spelled -/

/-- The call returns, the channel has the rest to hand out, and the endpoint keeps the request. -/
def Session.Reads (s : Session χ) (p : Progress χ Bool) (valid : Bool) (r : Request) (rest : χ) : Prop :=
  ∃ s', p = .returned valid s' ∧ s'.channel = rest ∧
    s'.endpoint = { s.endpoint with phase := .requestDone, request := some r }

theorem Session.reads_port (hf : Feeds fill) (h : Head) (t : Target) (port : UInt16)
    (hs : s.channel = fill (Bytes.ofWord port.toNat ++ rest)) :
    s.Reads (s.readPort h t) h.isValid ⟨h.command?, some t, port⟩ (fill rest) := by
  have hp : UInt16.ofNat (Bytes.toNat (Bytes.ofWord port.toNat)) = port := by
    rw [Bytes.toNat_ofWord port.toNat_lt, UInt16.ofNat_toNat]
  rw [Session.readPort, Session.read_fill hf (.request (.port h t)) hs rfl]
  refine ⟨_, rfl, rfl, ?_⟩
  simp [Session.storeRequest, hp]

/-- Bytes that spell a request are read as that request, and no byte behind them is read. -/
theorem Request.Spelled.read {r : Request} {bs : Bytes} (hr : r.Spelled bs) (hf : Feeds fill)
    (hs : s.channel = fill (bs ++ rest)) (hp : s.endpoint.phase = .authDone)
    (ha : s.endpoint.authAccepted = true) : s.Reads s.readRequest true r (fill rest) := by
  obtain @⟨c, t, tb, port, ht⟩ := hr
  let h : Head := ⟨c.code, 0⟩
  have hc : h.command? = some c := Head.command?_eq_some.2 rfl
  have hv : h.isValid = true := Head.isValid_iff.2 ⟨c, rfl⟩
  have hrej : ∀ before, h.rejectionAfter before = before := fun before => by
    simp [Head.rejectionAfter, hc, h]
  have hs' : s.channel = fill (version :: h.command :: h.reserved :: tb ++
      (Bytes.ofWord port.toNat ++ rest)) := by
    rw [hs, requestBytes]
    simp [h]
  have hp' : s.endpoint.phase = Operation.readRequest.phase := hp
  obtain ⟨s₁, hb, hch, he⟩ := Session.reaches_port hf ht hs'
  obtain ⟨s₂, hport, hch', he'⟩ := Session.reads_port hf h t port hch
  refine ⟨s₂, ?_, hch', ?_⟩
  · rw [Session.readRequest, Session.inPhase, if_pos hp', if_pos ha, hb, ← hv]
    exact hport
  · rw [he', he, hc, RequestStage.rejectionAfter, hrej]

end

/-! ## Encoding -/

theorem IPv6.group_of_bytes (gs : List UInt16) (i : Nat) (h : i < gs.length) :
    UInt16.ofNat (Bytes.toNat [(gs.flatMap groupBytes).getD (2 * i) 0,
      (gs.flatMap groupBytes).getD (2 * i + 1) 0]) = gs[i] := by
  induction gs generalizing i with
  | nil => simp at h
  | cons g gs ih =>
    cases i with
    | zero =>
      have hw : UInt16.ofNat (Bytes.toNat (Bytes.ofWord g.toNat)) = g := by
        rw [Bytes.toNat_ofWord g.toNat_lt, UInt16.ofNat_toNat]
      exact hw
    | succ i => exact ih i (by simpa using h)

/-- What is sent of an address denotes it but for its scope. -/
theorem IPv6.ofBytes_bytes (x : IPv6) : ofBytes x.bytes = { x with scope := none } := by
  have hg : (ofBytes x.bytes).groups = x.groups := by
    refine List.ext_getElem (by rw [(ofBytes x.bytes).length_eq, x.length_eq]) fun i h h' => ?_
    simp only [ofBytes, List.getElem_map, List.getElem_range]
    exact group_of_bytes x.groups i h'
  obtain ⟨groups, scope, hl⟩ := x
  rw [IPv6.mk.injEq]
  exact ⟨hg, rfl⟩

/-- The target that a host denotes on the wire. -/
def Target.ofHost (host : String) : Target :=
  match Address.parse? host.toList with
  | some a => .address a.unscoped
  | none => .name host

/-- A host that is a literal, or a name that is short enough and all ASCII. -/
def Sendable (host : String) : Prop :=
  (Address.parse? host.toList).isSome ∨ (∀ c ∈ host.toList, c.toNat < 128) ∧ host.length ≤ 255

def charByte (c : Char) : UInt8 := UInt8.ofNat c.toNat

theorem toNat_charByte {c : Char} (h : c.toNat < 128) : (charByte c).toNat = c.toNat := by
  rw [charByte, UInt8.toNat_ofNat', Nat.mod_eq_of_lt (by omega)]

theorem asciiBytes_eq_ok {s : List Char} {bs : Bytes} :
    asciiBytes s = .ok bs ↔ (∀ c ∈ s, c.toNat < 128) ∧ s.map charByte = bs := by
  have hascii : (∀ c ∈ s, c.toNat < 128) ↔ s.dropWhile isAscii = [] := by
    simp [List.dropWhile_eq_nil_iff, isAscii]
  rw [hascii]
  unfold asciiBytes
  cases h : s.dropWhile isAscii with
  | nil =>
    rw [Except.ok.injEq]
    exact ⟨fun hb => ⟨rfl, hb⟩, And.right⟩
  | cons c rest =>
    constructor
    · intro hb
      cases hb
    · rintro ⟨hn, -⟩
      cases hn

theorem encodeName_eq_ok {s : List Char} {tb : Bytes} :
    encodeName s = .ok tb ↔ ((∀ c ∈ s, c.toNat < 128) ∧ s.length ≤ 255) ∧
      AddressType.domainName.code :: UInt8.ofNat s.length :: s.map charByte = tb := by
  unfold encodeName
  cases h : asciiBytes s with
  | error e =>
    constructor
    · intro hb
      cases hb
    · rintro ⟨⟨hascii, -⟩, -⟩
      rw [asciiBytes_eq_ok.2 ⟨hascii, rfl⟩] at h
      cases h
  | ok bs =>
    obtain ⟨hascii, rfl⟩ := asciiBytes_eq_ok.1 h
    by_cases hl : s.length ≤ 255
    · simpa [bind, Except.bind, hl] using fun _ => hascii
    · simp [bind, Except.bind, hl]

theorem nameText_map_charByte {host : String} (h : ∀ c ∈ host.toList, c.toNat < 128) :
    Session.nameText (host.toList.map charByte) = host := by
  have hmap : host.toList.map (fun c => Char.ofNat (charByte c).toNat) = host.toList := by
    refine (List.map_congr_left fun c hc => ?_).trans (List.map_id _)
    rw [toNat_charByte (h c hc), Char.ofNat_toNat, id]
  rw [Session.nameText, List.map_map]
  exact (congrArg String.ofList hmap).trans String.ofList_toList

/-- What a host is encoded as spells the target that the host denotes. -/
theorem Target.spelled_of_encodeHost {host : String} {tb : Bytes} (h : encodeHost host = .ok tb) :
    (Target.ofHost host).Spelled tb := by
  unfold encodeHost at h
  unfold Target.ofHost
  cases hp : Address.parse? host.toList with
  | none =>
    rw [hp] at h
    obtain ⟨⟨hascii, hl⟩, rfl⟩ := encodeName_eq_ok.1 h
    have hb : ∀ b ∈ host.toList.map charByte, b < 128 := by
      intro b hb
      obtain ⟨c, hc, rfl⟩ := List.mem_map.1 hb
      rw [UInt8.lt_iff_toNat_lt, toNat_charByte (hascii c hc)]
      exact hascii c hc
    have := Target.Spelled.name (by simpa using hl) hb
    rwa [nameText_map_charByte hascii, List.length_map] at this
  | some a =>
    rw [hp] at h
    cases a with
    | v4 x =>
      cases h
      have hl : x.bytes.length = 4 := rfl
      exact Target.Spelled.ipv4 hl
    | v6 x =>
      cases h
      have hl : x.bytes.length = 16 := by
        simp [IPv6.bytes, IPv6.groupBytes, List.length_flatMap, x.length_eq]
      have := Target.Spelled.ipv6 hl
      rwa [IPv6.ofBytes_bytes] at this

theorem sendable_iff {host : String} : Sendable host ↔ ∃ tb, encodeHost host = .ok tb := by
  unfold Sendable encodeHost
  cases hp : Address.parse? host.toList with
  | none =>
    simp only [Option.isSome_none, Bool.false_eq_true, false_or, encodeName_eq_ok, exists_and_left,
      exists_eq', and_true, String.length_toList]
  | some a =>
    simp only [Option.isSome_some, true_or, true_iff]
    cases a with
    | v4 x => exact ⟨_, rfl⟩
    | v6 x => exact ⟨_, rfl⟩

theorem encodeRequest_eq_ok {c : Command} {host : String} {port : Int} {b : Bytes} :
    encodeRequest c host port = .ok b ↔ (0 ≤ port ∧ port ≤ 65535) ∧
      ∃ tb, encodeHost host = .ok tb ∧ requestBytes ⟨c.code, 0⟩ tb (UInt16.ofNat port.toNat) = b := by
  unfold encodeRequest
  by_cases hp : 0 ≤ port ∧ port ≤ 65535
  · have hn : (UInt16.ofNat port.toNat).toNat = port.toNat := by
      rw [UInt16.toNat_ofNat', Nat.mod_eq_of_lt (by omega)]
    simp only [hp, and_self, ↓reduceIte, true_and, requestBytes, hn]
    cases encodeHost host with
    | error e => simp [bind, Except.bind]
    | ok tb => simp [bind, Except.bind, pure, Except.pure]
  · simp [hp]

/-- A request can be encoded if and only if its port is one and its host can be sent. Whatever follows
the encoding, a server that has accepted the client's offer reads the request from it, and the rest
stays on the channel. -/
theorem readRequest_encodeRequest (c : Command) (host : String) (port : Int) :
    ((∃ b, encodeRequest c host port = .ok b) ↔ 0 ≤ port ∧ port ≤ 65535 ∧ Sendable host) ∧
    ∀ b, encodeRequest c host port = .ok b → ∃ r : Request,
      r.command = some c ∧ r.target = some (Target.ofHost host) ∧ (r.port.toNat : Int) = port ∧
      ∀ rest : Bytes,
        (∀ s : Session Channel.Memory, s.endpoint.phase = .authDone → s.endpoint.authAccepted = true →
          s.channel.closed = false → s.channel.unread = b ++ rest →
            s.Reads s.readRequest true r { s.channel with unread := rest }) ∧
        (∀ s : Session Channel.Stream, s.endpoint.phase = .authDone → s.endpoint.authAccepted = true →
          s.channel.readFault = none → s.channel.unread = b ++ rest →
            s.Reads s.readRequest true r { s.channel with unread := rest }) := by
  constructor
  · simp only [encodeRequest_eq_ok, sendable_iff]
    constructor
    · rintro ⟨b, ⟨h0, h1⟩, tb, htb, -⟩
      exact ⟨h0, h1, tb, htb⟩
    · rintro ⟨h0, h1, tb, htb⟩
      exact ⟨_, ⟨h0, h1⟩, tb, htb, rfl⟩
  · intro b hb
    obtain ⟨hp, tb, htb, rfl⟩ := encodeRequest_eq_ok.1 hb
    have hr := Request.Spelled.mk (c := c) (UInt16.ofNat port.toNat) (Target.spelled_of_encodeHost htb)
    refine ⟨⟨some c, some (Target.ofHost host), UInt16.ofNat port.toNat⟩, rfl, rfl, ?_,
      fun rest => ⟨?_, ?_⟩⟩
    · rw [UInt16.toNat_ofNat', Nat.mod_eq_of_lt (by omega)]
      omega
    · intro s hphase ha hc hu
      refine hr.read (Channel.Memory.feeds hc) ?_ hphase ha
      rw [← hu]
    · intro s hphase ha hc hu
      refine hr.read (Channel.Stream.feeds hc) ?_ hphase ha
      rw [← hu]

/-- The scope of a literal does not come through, and what follows the request is left alone. -/
theorem readRequest_encodeRequest_scoped :
    ∃ b, encodeRequest .connect "::1%eth0" 80 = .ok b ∧ ∃ r : Request,
      r.target = some (.address (.v6 ⟨[0, 0, 0, 0, 0, 0, 0, 1], none, rfl⟩)) ∧
      ∀ s : Session Channel.Memory,
        s = { endpoint := { phase := .authDone, authAccepted := true }, channel := { unread := b ++ [7] } } →
          s.Reads s.readRequest true r { unread := [7] } := by
  have hb : encodeRequest .connect "::1%eth0" 80 =
      .ok [5, 1, 0, 4, 0, 0, 0, 0, 0, 0, 0, 0, 0, 0, 0, 0, 0, 0, 0, 1, 0, 80] := by decide +kernel
  have ht : Target.ofHost "::1%eth0" = .address (.v6 ⟨[0, 0, 0, 0, 0, 0, 0, 1], none, rfl⟩) := by
    decide +kernel
  obtain ⟨r, -, hr, -, h⟩ := (readRequest_encodeRequest .connect "::1%eth0" 80).2 _ hb
  rw [ht] at hr
  refine ⟨_, hb, r, hr, ?_⟩
  rintro s rfl
  exact (h [7]).1 _ rfl rfl rfl rfl

end Socks5
