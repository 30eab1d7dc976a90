import Socks5.Settings.Sources

/-!
The groups of settings field by field. A group can be made of given values exactly if each of its fields takes
what is given for it, and then it holds what the fields made of that, or their defaults (`Schema.reads`,
`Schema.accepts`).
-/
namespace Socks5

/-! ## One field -/

/-- A field of a group, with what it is where nothing is given for it. -/
structure Field (σ : Type) where
  {α : Type}
  name : String
  default : α
  convert : Convert α
  get : σ → α

namespace Field
variable {σ : Type} {f : Field σ} {s : σ} {v : Value} {v? : Option Value}

/-- In a group the field is what it takes a value for, or its default where there is none. -/
def Holds (f : Field σ) (v? : Option Value) (s : σ) : Prop :=
  match v? with
  | some v => f.convert v = .ok (f.get s)
  | none => f.get s = f.default

/-- A value, if there is one, is good for the field. -/
def Takes (f : Field σ) (v? : Option Value) : Prop := ∀ v, v? = some v → ∃ a, f.convert v = .ok a

@[simp] theorem holds_some : f.Holds (some v) s ↔ f.convert v = .ok (f.get s) := .rfl

@[simp] theorem holds_none : f.Holds none s ↔ f.get s = f.default := .rfl

theorem takes_iff : f.Takes v? ↔ v?.all (fun v => (f.convert v).isOk) = true := by
  cases v? with
  | none => exact iff_of_true nofun rfl
  | some v => cases hv : f.convert v <;> simp [Takes, Except.isOk, Except.toBool, hv]

instance : Decidable (f.Takes v?) := decidable_of_iff _ takes_iff.symm

end Field

instance decidableEqExcept [DecidableEq ε] [DecidableEq α] : DecidableEq (Except ε α)
  | .ok a, .ok b => decidable_of_iff (a = b) ⟨congrArg _, Except.ok.inj⟩
  | .error e, .error f => decidable_of_iff (e = f) ⟨congrArg _, Except.error.inj⟩
  | .ok _, .error _ => isFalse nofun
  | .error _, .ok _ => isFalse nofun

theorem mapError_eq_ok_iff {r : Except ε α} {f : ε → δ} {a : α} : r.mapError f = .ok a ↔ r = .ok a := by
  cases r with
  | ok b => exact ⟨fun h => congrArg _ (Except.ok.inj h), fun h => congrArg _ (Except.ok.inj h)⟩
  | error e => exact ⟨nofun, nofun⟩

theorem bind_eq_ok_iff {r : Except ε α} {f : α → Except ε β} {b : β} :
    r >>= f = .ok b ↔ ∃ a, r = .ok a ∧ f a = .ok b := by
  cases r with
  | ok a => exact ⟨fun h => ⟨a, rfl, h⟩, fun ⟨_, rfl, h⟩ => h⟩
  | error e => exact ⟨nofun, fun ⟨_, h, _⟩ => nomatch h⟩

theorem bind_eq_error_iff {r : Except ε α} {f : α → Except ε β} {e : ε} :
    r >>= f = .error e ↔ r = .error e ∨ ∃ a, r = .ok a ∧ f a = .error e := by
  cases r with
  | ok a => exact ⟨fun h => .inr ⟨a, rfl, h⟩, fun h => h.elim nofun fun ⟨_, rfl, h⟩ => h⟩
  | error x =>
    show Except.error x = .error e ↔ _
    simp

namespace Convert

theorem field_eq_ok_iff {given : List (String × Value)} {f : Field σ} {s : σ} :
    field given f.name (.ok f.default) f.convert = .ok (f.get s) ↔ f.Holds (given.lookup f.name) s := by
  unfold field
  cases given.lookup f.name with
  | none => exact ⟨fun h => (Except.ok.inj h).symm, fun h => congrArg Except.ok h.symm⟩
  | some v => exact mapError_eq_ok_iff

theorem field_ok_of_takes {given : List (String × Value)} {f : Field σ} (h : f.Takes (given.lookup f.name)) :
    ∃ a, field given f.name (.ok f.default) f.convert = .ok a := by
  cases hl : given.lookup f.name with
  | none => exact ⟨f.default, by rw [field, hl]; rfl⟩
  | some v =>
    obtain ⟨a, ha⟩ := h v hl
    exact ⟨a, field_of_ok hl ha⟩

theorem both_eq_ok_iff {a : Except (List Complaint) α} {b : Except (List Complaint) β} {p : α × β} :
    both a b = .ok p ↔ a = .ok p.1 ∧ b = .ok p.2 := by
  obtain ⟨x, y⟩ := p
  cases a <;> cases b <;> simp [both]

theorem check_eq_ok_iff {c : Convert α} {problem? : α → Option Problem} {v : Value} {a : α} :
    check c problem? v = .ok a ↔ c v = .ok a ∧ problem? a = none := by
  rw [check, bind_eq_ok_iff]
  constructor
  · rintro ⟨b, hb, h⟩
    cases hp : problem? b with
    | some p => rw [hp] at h; cases h
    | none => rw [hp] at h; cases h; exact ⟨hb, hp⟩
  · rintro ⟨ha, hp⟩
    exact ⟨a, ha, by rw [hp]⟩

theorem of_optional_eq_some {c : Convert α} {v : Value} {a : α} (h : optional c v = .ok (some a)) :
    c v = .ok a := by
  unfold optional at h
  split at h
  · cases h
  · cases hc : c _ with
    | ok b => rw [hc] at h; cases h; rfl
    | error e => rw [hc] at h; cases h

end Convert

/-! ## A group -/

/-- How a group is made of the values given for its fields. -/
structure Schema (σ : Type) where
  fields : List (Field σ)
  ofFields : List (String × Value) → Except Invalid σ
  reads : ∀ {given s}, ofFields given = .ok s ↔ ∀ f ∈ fields, f.Holds (given.lookup f.name) s
  accepts : ∀ {given}, (∀ f ∈ fields, f.Takes (given.lookup f.name)) → ∃ s, ofFields given = .ok s

open Socks5.Convert in
/-- The fields of the server's group. -/
def ServerSettings.fields : List (Field ServerSettings) :=
  let d : ServerSettings := {}
  [⟨"host", d.host, text, host⟩,
   ⟨"port", d.port, Convert.port 1, port⟩,
   ⟨"max_connections", d.maxConnections, check integer (atLeast 1), maxConnections⟩,
   ⟨"handshake_timeout", d.handshakeTimeout, check number positive, handshakeTimeout⟩,
   ⟨"connect_timeout", d.connectTimeout, check number positive, connectTimeout⟩,
   ⟨"allow_bind", d.allowBind, flag, allowBind⟩,
   ⟨"relay", d.relay, optional relayPath, relay⟩]

open Socks5.Convert in
/-- The fields of the log's group. -/
def LogSettings.fields : List (Field LogSettings) :=
  let d : LogSettings := {}
  [⟨"level", d.level, Convert.level, level⟩,
   ⟨"format", d.format, logFormat, format⟩,
   ⟨"file", d.file, optional text, file⟩,
   ⟨"max_size_mb", d.maxSizeMb, check integer (atLeast 1), maxSizeMb⟩,
   ⟨"backup_count", d.backupCount, check integer (atLeast 0), backupCount⟩]

theorem ServerSettings.names_fields : fields.map Field.name = fieldNames := rfl

theorem LogSettings.names_fields : fields.map Field.name = fieldNames := rfl

def ServerSettings.schema : Schema ServerSettings where
  fields := fields
  ofFields := ofFields
  reads := by
    intro given s
    simp only [ofFields, mapError_eq_ok_iff, bind_eq_ok_iff, Convert.both_eq_ok_iff, Prod.exists, fields,
      List.forall_mem_cons, ← Convert.field_eq_ok_iff]
    constructor
    · rintro ⟨host, port, maxConnections, handshakeTimeout, connectTimeout, allowBind, relay, h, hs⟩
      cases hs
      simpa using h
    · intro h
      exact ⟨_, _, _, _, _, _, _, by simpa using h, rfl⟩
  accepts := by
    intro given h
    simp only [fields, List.forall_mem_cons] at h
    obtain ⟨hh, hp, hm, ht, hc, hb, hr, -⟩ := h
    obtain ⟨host, hh⟩ := Convert.field_ok_of_takes hh
    obtain ⟨port, hp⟩ := Convert.field_ok_of_takes hp
    obtain ⟨maxConnections, hm⟩ := Convert.field_ok_of_takes hm
    obtain ⟨handshakeTimeout, ht⟩ := Convert.field_ok_of_takes ht
    obtain ⟨connectTimeout, hc⟩ := Convert.field_ok_of_takes hc
    obtain ⟨allowBind, hb⟩ := Convert.field_ok_of_takes hb
    obtain ⟨relay, hr⟩ := Convert.field_ok_of_takes hr
    refine ⟨{ host, port, maxConnections, handshakeTimeout, connectTimeout, allowBind, relay }, ?_⟩
    simp only [ofFields, mapError_eq_ok_iff, bind_eq_ok_iff, Convert.both_eq_ok_iff, Prod.exists]
    exact ⟨_, _, _, _, _, _, _, ⟨hh, hp, hm, ht, hc, hb, hr⟩, rfl⟩

def LogSettings.schema : Schema LogSettings where
  fields := fields
  ofFields := ofFields
  reads := by
    intro given s
    simp only [ofFields, mapError_eq_ok_iff, bind_eq_ok_iff, Convert.both_eq_ok_iff, Prod.exists, fields,
      List.forall_mem_cons, ← Convert.field_eq_ok_iff]
    constructor
    · rintro ⟨level, format, file, maxSizeMb, backupCount, h, hs⟩
      cases hs
      simpa using h
    · intro h
      exact ⟨_, _, _, _, _, by simpa using h, rfl⟩
  accepts := by
    intro given h
    simp only [fields, List.forall_mem_cons] at h
    obtain ⟨hl, hf, hp, hm, hb, -⟩ := h
    obtain ⟨level, hl⟩ := Convert.field_ok_of_takes hl
    obtain ⟨format, hf⟩ := Convert.field_ok_of_takes hf
    obtain ⟨file, hp⟩ := Convert.field_ok_of_takes hp
    obtain ⟨maxSizeMb, hm⟩ := Convert.field_ok_of_takes hm
    obtain ⟨backupCount, hb⟩ := Convert.field_ok_of_takes hb
    refine ⟨{ level, format, file, maxSizeMb, backupCount }, ?_⟩
    simp only [ofFields, mapError_eq_ok_iff, bind_eq_ok_iff, Convert.both_eq_ok_iff, Prod.exists]
    exact ⟨_, _, _, _, _, ⟨hl, hf, hp, hm, hb⟩, rfl⟩

/-- A group's relay, if it has one, is named by a module and something in it. -/
theorem ServerSettings.isRelayPath_of_ofFields {given : List (String × Value)} {s : ServerSettings}
    (h : ofFields given = .ok s) {path : String} (hp : s.relay = some path) : Convert.isRelayPath path = true := by
  have hrelay := schema.reads.1 h ⟨"relay", none, Convert.optional Convert.relayPath, relay⟩ (by simp [schema, fields])
  revert hrelay
  cases given.lookup "relay" with
  | none => simp [hp]
  | some v =>
    rw [Field.holds_some]
    dsimp only
    rw [hp]
    intro hv
    have hcheck := (Convert.check_eq_ok_iff.1 (Convert.of_optional_eq_some hv)).2
    split at hcheck
    · next hr => exact hr
    · cases hcheck

end Socks5
