import Socks5.Proofs.Settings.Fields
import Socks5.Proofs.Settings.Shape

/-!
Where the fields of loaded settings come from. A field takes what the file gives for it; only where the file says
nothing of it, its variable counts, and only where there is none, its default (`load_ranks`). So a variable does
not override what the file holds.
-/
namespace Socks5

/-! ## Sources of a field -/

def Environment.value? (name : String) (env : Environment) : Option Value := (env.get? name).map .text

/-- What a field is made of: what is given for it, else its variable. -/
def source? (start : String) (env : Environment) (given : List (String × Value)) (name : String) : Option Value :=
  (givenField? given name).or (env.value? (start ++ name))

/-- The other order, in which the variable comes first. -/
def overridden? (start : String) (env : Environment) (given : List (String × Value)) (name : String) :
    Option Value :=
  (env.value? (start ++ name)).or (givenField? given name)

/-- What is given does not change how the variables' names start. -/
def KeepsStart (given : List (String × Value)) : Prop := ∀ s, given.lookup "_env_prefix" ≠ some (.text s)

theorem keepsStart_iff {given : List (String × Value)} :
    KeepsStart given ↔ (given.lookup "_env_prefix").any Value.isText = false := by
  unfold KeepsStart
  cases given.lookup "_env_prefix" with
  | none => exact iff_of_true nofun rfl
  | some v => cases v <;> simp [Value.isText]

instance (given : List (String × Value)) : Decidable (KeepsStart given) := decidable_of_iff _ keepsStart_iff.symm

theorem lookup_filterMap_name {β : Type} (g : String → Option β) (names : List String) (name : String) :
    (names.filterMap fun n => (g n).map (n, ·)).lookup name = if name ∈ names then g name else none := by
  induction names with
  | nil => rfl
  | cons n ns ih =>
    by_cases hn : name = n
    · subst hn
      cases hg : g name with
      | some v => simp [hg]
      | none => simpa [hg] using ih
    · have hb : (name == n) = false := by simpa using hn
      cases hg : g n with
      | some v => simpa [hg, hn, List.lookup_cons, hb] using ih
      | none => simpa [hg, hn] using ih

theorem lookup_gather {start : String} {names : List String} {env : Environment} {given : List (String × Value)}
    (hk : KeepsStart given) {name : String} (h : name ∈ names) :
    (gather start names env given).lookup name = source? start env given name := by
  have hg : gather start names env given =
      names.filterMap fun n => (source? start env given n).map (n, ·) := by
    unfold gather
    split
    · next s hs => exact absurd hs (hk s)
    · refine congrArg (List.filterMap · names) (funext fun n => ?_)
      cases hv : givenField? given n <;> simp [source?, hv, Environment.value?, Function.comp_def]
  rw [hg, lookup_filterMap_name, if_pos h]

/-- A field for which a variable and something given come to the same, where there are both. -/
def Field.Agrees (f : Field σ) (start : String) (env : Environment) (given : List (String × Value)) : Prop :=
  ∀ v w, env.value? (start ++ f.name) = some v → givenField? given f.name = some w → f.convert v = f.convert w

theorem Field.holds_overridden_iff {f : Field σ} {s : σ} {start : String} {env : Environment}
    {given : List (String × Value)} (h : f.Holds (source? start env given f.name) s) :
    f.Holds (overridden? start env given f.name) s ↔ f.Agrees start env given := by
  unfold overridden? Agrees
  unfold source? at h
  cases hv : env.value? (start ++ f.name) with
  | none => exact iff_of_true (by simpa [hv] using h) (by simp)
  | some v =>
    cases hw : givenField? given f.name with
    | none => exact iff_of_true (by simpa [hv, hw] using h) (by simp)
    | some w =>
      have hs : f.convert w = .ok (f.get s) := by simpa [hw] using h
      simp [hs]

/-! ## One group -/

/-- What is given for a group: what the file holds for it, or else what the environment holds for it as a
whole. -/
def givenFor (stated? : Option (List (String × Value))) (whole : Option (List (Value × Value))) :
    List (String × Value) :=
  stated?.getD ((whole.map named).getD [])

namespace Schema
variable {σ : Type} {g : Schema σ} {start : String} {env : Environment}

/-- A group made from what is given and from the environment. -/
def make (g : Schema σ) (start : String) (env : Environment) (given : List (String × Value)) : Except Invalid σ :=
  g.ofFields (gather start (g.fields.map Field.name) env given)

/-- All fields of the group take what there is for them. -/
def Valid (g : Schema σ) (start : String) (env : Environment) (given : List (String × Value)) : Prop :=
  KeepsStart given ∧ ∀ f ∈ g.fields, f.Takes (source? start env given f.name)

instance (given : List (String × Value)) : Decidable (g.Valid start env given) :=
  inferInstanceAs (Decidable (_ ∧ _))

/-- What is given goes before the environment in all fields of a group, which have what the other order gives
only where that makes no difference. -/
structure Ranked (g : Schema σ) (start : String) (env : Environment) (given : List (String × Value)) (s : σ) :
    Prop where
  holds : ∀ f ∈ g.fields, f.Holds (source? start env given f.name) s
  overridden : ∀ f ∈ g.fields, f.Holds (overridden? start env given f.name) s ↔ f.Agrees start env given

theorem make_of_valid {given : List (String × Value)} (h : g.Valid start env given) :
    ∃ s, g.make start env given = .ok s ∧ g.Ranked start env given s := by
  have hl (f : Field σ) (hf : f ∈ g.fields) :
      (gather start (g.fields.map Field.name) env given).lookup f.name = source? start env given f.name :=
    lookup_gather h.1 (List.mem_map_of_mem hf)
  obtain ⟨s, hs⟩ := g.accepts fun f hf => (hl f hf).symm ▸ h.2 f hf
  have hholds (f : Field σ) (hf : f ∈ g.fields) : f.Holds (source? start env given f.name) s :=
    hl f hf ▸ g.reads.1 hs f hf
  exact ⟨s, hs, ⟨hholds, fun f hf => Field.holds_overridden_iff (hholds f hf)⟩⟩

/-- A valid group comes about whether the file holds it, the environment does, or neither. -/
theorem resolve_of_valid {stated? : Option (List (String × Value))} {whole : Option (List (Value × Value))}
    (group record : String) (h : g.Valid start env (givenFor stated? whole)) :
    ∃ held s, groupMade record (g.make start env) (stated?.map Value.keyed) = .ok held ∧
      resolveGroup group record held (whole.map .map) (g.make start env) = .ok (.ok s) ∧
      g.Ranked start env (givenFor stated? whole) s := by
  obtain ⟨s, hs, hr⟩ := make_of_valid h
  cases stated? with
  | some fields =>
    replace hs : g.make start env fields = .ok s := hs
    exact ⟨some s, s, by rw [Option.map_some, groupMade_keyed, hs], rfl, hr⟩
  | none =>
    refine ⟨none, s, rfl, ?_, hr⟩
    cases whole with
    | some es =>
      replace hs : g.make start env (named es) = .ok s := hs
      simp only [Option.map_some, resolveGroup, hs]
      rfl
    | none =>
      replace hs : g.make start env [] = .ok s := hs
      simp only [Option.map_none, resolveGroup, hs]

end Schema

theorem ServerSettings.schema_make (env : Environment) : schema.make "SIMPLESOCKS_" env = make env := by
  funext given
  show ofFields (gather "SIMPLESOCKS_" (fields.map Field.name) env given) = _
  rw [names_fields]
  rfl

theorem LogSettings.schema_make (env : Environment) : schema.make "SIMPLESOCKS_LOG_" env = make env := by
  funext given
  show ofFields (gather "SIMPLESOCKS_LOG_" (fields.map Field.name) env given) = _
  rw [names_fields]
  rfl

/-! ## A whole document -/

namespace Settings
variable {env : Environment} {server? log? : Option (List (String × Value))}
  {serverWhole logWhole : Option (List (Value × Value))}

/-- What the environment holds for the groups as wholes, if it holds any, are mappings. -/
structure Wholes (env : Environment) (server log : Option (List (Value × Value))) : Prop where
  server : groupFrom "server" env = .ok (server.map .map)
  log : groupFrom "log" env = .ok (log.map .map)

/-- Every field of loaded settings holds what the file gives for it; where the file gives nothing, what its
variable says, and where there is none, its default. What the environment holds for a group as a whole stands in
for a group that the file does not have. -/
theorem load_ranks {fs : Files} {p : Path} {text : String} {es : List (Value × Value)}
    (hr : fs.read p = .ok text) (hy : Yaml.read text = .ok (.map es))
    (hs : es.lookup (.text "server") = server?.map Value.keyed)
    (hl : es.lookup (.text "log") = log?.map Value.keyed)
    (hw : Wholes env serverWhole logWhole)
    (hsv : ServerSettings.schema.Valid "SIMPLESOCKS_" env (givenFor server? serverWhole))
    (hlv : LogSettings.schema.Valid "SIMPLESOCKS_LOG_" env (givenFor log? logWhole)) :
    ∃ s, load env fs p = .ok s ∧
      ServerSettings.schema.Ranked "SIMPLESOCKS_" env (givenFor server? serverWhole) s.server ∧
      LogSettings.schema.Ranked "SIMPLESOCKS_LOG_" env (givenFor log? logWhole) s.log := by
  obtain ⟨heldServer, server, hms, hrs, hps⟩ := Schema.resolve_of_valid "server" "ServerSettings" hsv
  obtain ⟨heldLog, log, hml, hrl, hpl⟩ := Schema.resolve_of_valid "log" "LogSettings" hlv
  refine ⟨{ server, log }, ?_, hps, hpl⟩
  have hdoc : (if (Value.map es).isAbsent then Value.map [] else .map es) = .map es := by
    cases es <;> simp [Value.isAbsent]
  rw [ServerSettings.schema_make] at hms hrs
  rw [LogSettings.schema_make] at hml hrl
  have hserver : serverOf env (.map es) = .ok heldServer := by
    rw [← hs] at hms
    exact hms
  have hlog : logOf env (.map es) = .ok heldLog := by
    rw [← hl] at hml
    exact hml
  have hmake : make env heldServer heldLog = .ok { server, log } := by
    simp only [make, hw.server, hw.log, bind, Except.bind, hrs, hrl, Convert.both]
  rw [load_of_document hr hy, ofDocument_eq, hdoc]
  simp only [hserver, hlog, hmake, bind, Except.bind]
  rfl

/-! ## A file and a variable for the port -/

def portText : String := "server:\n  port: 8080\n"

def portFile : Files := { working := [], entries := [(["config.yaml"], .text portText)] }

set_option maxRecDepth 10000 in
theorem read_portText :
    Yaml.read portText = .ok (.map [(.text "server", .map [(.text "port", .int 8080)])]) := by
  have ht : Yaml.tokens portText.toList = .ok
      [.mappingStart, .key, .scalar "server" true, .value, .mappingStart, .key, .scalar "port" true, .value,
       .scalar "8080" true, .blockEnd, .blockEnd] := by decide +kernel
  simp only [Yaml.read, ht]
  rfl

/-- The file gives the port, and a variable the host. -/
theorem load_ranks_port : ∃ s, load [("SIMPLESOCKS_HOST", "::1")] portFile (.ofString "config.yaml") = .ok s ∧
    ServerSettings.schema.Ranked "SIMPLESOCKS_" [("SIMPLESOCKS_HOST", "::1")] [("port", .int 8080)] s.server ∧
    LogSettings.schema.Ranked "SIMPLESOCKS_LOG_" [("SIMPLESOCKS_HOST", "::1")] [] s.log := by
  have hserver : ServerSettings.schema.Valid "SIMPLESOCKS_" [("SIMPLESOCKS_HOST", "::1")] [("port", .int 8080)] := by
    decide +kernel
  have hlog : LogSettings.schema.Valid "SIMPLESOCKS_LOG_" [("SIMPLESOCKS_HOST", "::1")] [] := by
    decide +kernel
  have hgroup : ([(.text "server", .map [(.text "port", .int 8080)])] : List (Value × Value)).lookup (.text "server") =
      (some [("port", .int 8080)]).map Value.keyed := rfl
  have hwholes : Wholes [("SIMPLESOCKS_HOST", "::1")] none none := ⟨rfl, rfl⟩
  exact load_ranks rfl read_portText hgroup (Option.map_none _).symm hwholes hserver hlog

/-- The port is that of the file, and not that of the variable. -/
theorem variable_does_not_override :
    ∃ s, load [("SIMPLESOCKS_PORT", "9090")] portFile (.ofString "config.yaml") = .ok s ∧ s.server.port = 8080 ∧
      ¬ ∀ f ∈ ServerSettings.fields,
        f.Holds (overridden? "SIMPLESOCKS_" [("SIMPLESOCKS_PORT", "9090")] [("port", .int 8080)] f.name) s.server := by
  have hload : load [("SIMPLESOCKS_PORT", "9090")] portFile (.ofString "config.yaml") =
      .ok { server := { port := 8080 } } := by
    have hread : portFile.read (.ofString "config.yaml") = .ok portText := rfl
    rw [load_of_document hread read_portText]
    rfl
  refine ⟨_, hload, rfl, fun h => ?_⟩
  have hport := h ⟨"port", 1080, Convert.port 1, ServerSettings.port⟩ (by simp [ServerSettings.fields])
  replace hport : (Except.ok 9090 : Except (List Problem) Int) = .ok 8080 := hport
  cases hport

end Settings
end Socks5
