import Socks5.Proofs.Settings.Precedence

/-!
Settings that are saved come back. What is written to a path is read there again (`Files.read_write`), and every
field of a group takes what it holds, written out, for the same again (`StoredField.convert_write`), so the groups
of the file come to those that were saved (`load_save`).
-/
namespace Socks5

/-! ## A file that is written -/

namespace Files
variable {fs fs' : Files} {p : Path} {s : String} {q place : List String}

/-- A path leads through directories only, so it does not matter to it what is put where none is. -/
theorem walk_set {ps : List String} {place' : List String} (hq : fs.isDirectoryAt q = false) (f : File)
    (h : fs.walk place ps = .ok place') : (fs.set q f).walk place ps = .ok place' := by
  induction ps generalizing place with
  | nil => exact h
  | cons p ps ih =>
    rw [walk] at h ⊢
    split at h
    · next hd =>
      have hne : place ≠ q := by
        rintro rfl
        rw [isDirectoryAt, hd] at hq
        cases hq
      rw [at?_set_ne hne, hd]
      exact ih h
    · cases h
    · cases h

theorem place_set (hq : fs.isDirectoryAt q = false) (f : File) (h : fs.place p = .ok place) :
    (fs.set q f).place p = .ok place := walk_set hq f h

/-- What is written to a path is read there. -/
theorem read_write (h : fs.write p s = .ok fs') : fs'.read p = .ok s := by
  unfold write at h
  split at h
  · cases h
  · next place hp =>
    split at h
    · cases h
    · next hfile =>
      split at h
      · cases h
        rw [Bool.not_eq_true] at hfile
        have hne : place ≠ [] := by
          rintro rfl
          cases hfile
        rw [read, place_set hfile _ hp]
        dsimp only
        rw [at?_set_self hne]
      · cases h

end Files

/-! ## What a field takes back -/

namespace Convert

/-- What a value was taken for can be written out so that it is taken for the same. -/
def Keeps (c : Convert α) (write : α → Value) : Prop := ∀ v a, c v = .ok a → c (write a) = .ok a

variable {c : Convert α} {write : α → Value}

theorem keeps_text : Keeps text .text := fun _ _ _ => rfl

theorem keeps_integer : Keeps integer .int := fun _ _ _ => rfl

theorem keeps_number : Keeps number .float := fun _ _ _ => rfl

theorem keeps_flag : Keeps flag .bool := fun _ _ _ => rfl

/-- A condition on what a value is taken for holds again of the same. -/
theorem Keeps.check (h : Keeps c write) (problem? : α → Option Problem) : Keeps (check c problem?) write := by
  intro v a hv
  obtain ⟨ha, hp⟩ := check_eq_ok_iff.1 hv
  exact check_eq_ok_iff.2 ⟨h v a ha, hp⟩

theorem Keeps.optional {c : Convert String} (h : Keeps c .text) : Keeps (optional c) (Value.ofOption .text) := by
  intro v a hv
  cases a with
  | none => rfl
  | some s =>
    show some <$> c (.text s) = _
    rw [h v s (of_optional_eq_some hv)]
    rfl

theorem level_text {s : String} {l : Level}
    (h : Level.all.find? (fun m => Text.upper m.name = Text.upper s) = some l) : level (.text s) = .ok l := by
  refine bind_eq_ok_iff.2 ⟨s, by rw [text], ?_⟩
  rw [h]

theorem level_upper (l : Level) : level (.text (Text.upper l.name)) = .ok l :=
  level_text (by cases l <;> decide +kernel)

theorem logFormat_name (f : LogFormat) : logFormat (.text f.name) = .ok f := by cases f <;> rfl

theorem check_positive {x : Float} (h : 0.0 < x) : check number positive (.float x) = .ok x :=
  check_eq_ok_iff.2 ⟨rfl, if_pos h⟩

end Convert

open Socks5.Convert (Keeps)

/-- A field with how its values are written out. It takes what it held for the same again, also where this was not
given but is its default. -/
structure StoredField (σ : Type) extends Field σ where
  write : α → Value
  keeps : Keeps convert write
  keeps_default : convert (write default) = .ok default

namespace StoredField
variable {σ : Type} {s : σ} {fs : List (StoredField σ)}

/-- The field as it stands in the written group. -/
def entry (s : σ) (f : StoredField σ) : String × Value := (f.name, f.write (f.get s))

theorem convert_write (f : StoredField σ) {v? : Option Value} (h : f.Holds v? s) :
    f.convert (f.write (f.get s)) = .ok (f.get s) := by
  cases v? with
  | none =>
    rw [Field.holds_none] at h
    rw [h]
    exact f.keeps_default
  | some v => exact f.keeps v _ h

theorem lookup_entries {f : StoredField σ} (hn : (fs.map fun f => f.name).Nodup) (hf : f ∈ fs) :
    (fs.map (entry s)).lookup f.name = some (f.write (f.get s)) := by
  induction fs with
  | nil => cases hf
  | cons g fs ih =>
    rw [List.map_cons, List.nodup_cons] at hn
    rw [List.map_cons, entry, List.lookup_cons]
    rcases List.mem_cons.1 hf with rfl | hf
    · rw [beq_self_eq_true]
    · have hne : f.name ≠ g.name := fun he => hn.1 (he ▸ List.mem_map_of_mem hf)
      rw [beq_false_of_ne hne]
      exact ih hn.2 hf

end StoredField

/-- A group with a written form. -/
structure StoredSchema (σ : Type) extends Schema σ where
  stored : List (StoredField σ)
  fields_eq : fields = stored.map StoredField.toField
  nodup : (stored.map fun f => f.name).Nodup
  keepsStart : "_env_prefix" ∉ stored.map fun f => f.name

namespace StoredSchema
variable {σ : Type} {g : StoredSchema σ} {s : σ}

/-- The written form of a group. -/
def entries (g : StoredSchema σ) (s : σ) : List (String × Value) := g.stored.map (StoredField.entry s)

theorem keepsStart_entries : KeepsStart (g.entries s) := by
  have hnone : (g.entries s).lookup "_env_prefix" = none := by
    refine List.lookup_eq_none_iff.2 fun e he => bne_iff_ne.2 ?_
    obtain ⟨f, hf, rfl⟩ := List.mem_map.1 he
    intro hname
    exact g.keepsStart (List.mem_map.2 ⟨f, hf, hname.symm⟩)
  intro text h
  rw [hnone] at h
  cases h

/-- A group that came about comes about again of its written form, whatever the environment holds. -/
theorem make_entries {given : List (String × Value)} (h : g.ofFields given = .ok s) (start : String)
    (env : Environment) : g.make start env (g.entries s) = .ok s := by
  refine g.reads.2 fun f hf => ?_
  rw [lookup_gather keepsStart_entries (List.mem_map_of_mem hf)]
  have hholds := g.reads.1 h f hf
  rw [g.fields_eq] at hf
  obtain ⟨stored, hstored, rfl⟩ := List.mem_map.1 hf
  have hlookup : (g.entries s).lookup stored.name = some (stored.write (stored.get s)) :=
    StoredField.lookup_entries g.nodup hstored
  rw [source?, givenField?, hlookup]
  exact stored.convert_write hholds

/-- A document that holds the written form of a group gives this group. -/
theorem groupOf_entries {given : List (String × Value)} {es : List (Value × Value)} {group : String}
    (hes : es.lookup (.text group) = some (Value.keyed (g.entries s))) (h : g.ofFields given = .ok s)
    (record start : String) (env : Environment) :
    groupOf group record (g.make start env) (.map es) = .ok (some s) := by
  show groupMade record (g.make start env) (es.lookup (.text group)) = _
  rw [hes, groupMade_keyed, make_entries h]

end StoredSchema

open Socks5.Convert in
/-- The server's group is written field by field. -/
def ServerSettings.storedSchema : StoredSchema ServerSettings where
  toSchema := schema
  stored :=
    let d : ServerSettings := {}
    [⟨⟨"host", d.host, text, host⟩, .text, keeps_text, rfl⟩,
     ⟨⟨"port", d.port, Convert.port 1, port⟩, .int, keeps_integer.check _, rfl⟩,
     ⟨⟨"max_connections", d.maxConnections, check integer (atLeast 1), maxConnections⟩, .int,
      keeps_integer.check _, rfl⟩,
     ⟨⟨"handshake_timeout", d.handshakeTimeout, check number positive, handshakeTimeout⟩, .float,
      keeps_number.check _, check_positive (by decide +kernel)⟩,
     ⟨⟨"connect_timeout", d.connectTimeout, check number positive, connectTimeout⟩, .float,
      keeps_number.check _, check_positive (by decide +kernel)⟩,
     ⟨⟨"allow_bind", d.allowBind, flag, allowBind⟩, .bool, keeps_flag, rfl⟩,
     ⟨⟨"relay", d.relay, optional relayPath, relay⟩, .ofOption .text, (keeps_text.check _).optional, rfl⟩]
  fields_eq := rfl
  nodup := by decide
  keepsStart := by decide

open Socks5.Convert in
/-- The log's group is written field by field. -/
def LogSettings.storedSchema : StoredSchema LogSettings where
  toSchema := schema
  stored :=
    let d : LogSettings := {}
    [⟨⟨"level", d.level, Convert.level, level⟩, fun l => .text (Text.upper l.name), fun _ l _ => level_upper l,
      level_upper _⟩,
     ⟨⟨"format", d.format, logFormat, format⟩, fun f => .text f.name, fun _ f _ => logFormat_name f,
      logFormat_name _⟩,
     ⟨⟨"file", d.file, optional text, file⟩, .ofOption .text, keeps_text.optional, rfl⟩,
     ⟨⟨"max_size_mb", d.maxSizeMb, check integer (atLeast 1), maxSizeMb⟩, .int, keeps_integer.check _, rfl⟩,
     ⟨⟨"backup_count", d.backupCount, check integer (atLeast 0), backupCount⟩, .int, keeps_integer.check _, rfl⟩]
  fields_eq := rfl
  nodup := by decide
  keepsStart := by decide

/-! ## No variables -/

/-- No variable is for the settings. -/
def Environment.Silent (env : Environment) : Prop := ∀ v ∈ env, ¬ "simplesocks_".toList <+: (lower v.1).toList

theorem Environment.get?_of_silent {env : Environment} (h : env.Silent) (name : String) :
    env.get? ("SIMPLESOCKS_" ++ name) = none := by
  have hstart : (lower ("SIMPLESOCKS_" ++ name)).toList = "simplesocks_".toList ++ (lower name).toList := by
    simp only [lower, String.toList_ofList, String.toList_append, List.map_append]
    rfl
  have hnone : env.reverse.find? (fun v => lower v.1 = lower ("SIMPLESOCKS_" ++ name)) = none := by
    refine List.find?_eq_none.2 fun v hv he => h v (List.mem_reverse.1 hv) ?_
    rw [of_decide_eq_true he, hstart]
    exact List.prefix_append ..
  rw [get?, hnone, Option.map_none]

namespace Settings
variable {env : Environment} {s : Settings}

theorem groupFrom_of_silent (h : env.Silent) (group : String) : ∃ whole, groupFrom group env = .ok whole := by
  rw [groupFrom, Environment.get?_of_silent h]
  exact ⟨_, rfl⟩

/-- Groups that are there stay as they are. -/
theorem make_of_silent (h : env.Silent) (s : Settings) : make env (some s.server) (some s.log) = .ok s := by
  obtain ⟨serverWhole, hs⟩ := groupFrom_of_silent h "server"
  obtain ⟨logWhole, hl⟩ := groupFrom_of_silent h "log"
  simp only [make, hs, hl, bind, Except.bind, resolveGroup, Convert.both]

/-! ## Saving and loading -/

/-- Reading a written document gives back the mapping. This is relied on, of the language of documents, for the
document at hand. -/
def ReadsBack (es : List (Value × Value)) : Prop := Yaml.read (Yaml.Writer.write es) = .ok (.map es)

theorem document_eq (s : Settings) : s.sheet.document =
    [(.text "server", Value.keyed (ServerSettings.storedSchema.entries s.server)),
     (.text "log", Value.keyed (LogSettings.storedSchema.entries s.log))] := rfl

theorem ofDocument_document {serverGiven logGiven : List (String × Value)}
    (hserver : ServerSettings.ofFields serverGiven = .ok s.server) (hlog : LogSettings.ofFields logGiven = .ok s.log)
    (h : env.Silent) : ofDocument env (.map s.sheet.document) = .ok s := by
  have hs : serverOf env (.map s.sheet.document) = .ok (some s.server) := by
    rw [serverOf, ← ServerSettings.schema_make]
    exact ServerSettings.storedSchema.groupOf_entries rfl hserver ..
  have hl : logOf env (.map s.sheet.document) = .ok (some s.log) := by
    rw [logOf, ← LogSettings.schema_make]
    exact LogSettings.storedSchema.groupOf_entries rfl hlog ..
  have habsent : (Value.map s.sheet.document).isAbsent = false := rfl
  rw [ofDocument_eq, habsent]
  simp only [Bool.false_eq_true, if_false, hs, hl, make_of_silent h s, bind, Except.bind]
  rfl

theorem read_save {p : Path} {fs fs' : Files} (h : s.sheet.save p fs = .ok fs') : fs'.read p = .ok s.sheet.written := by
  obtain ⟨made, -, hwrite⟩ := bind_eq_ok_iff.1 h
  exact Files.read_write hwrite

/-- Settings whose groups came about, from whatever was given for them, are loaded unchanged from the file that they
were saved to, if the document reads back and no variable is for the settings. -/
theorem load_save {serverEnv logEnv : Environment} {serverGiven logGiven : List (String × Value)} {p : Path}
    {fs fs' : Files} (hserver : ServerSettings.make serverEnv serverGiven = .ok s.server)
    (hlog : LogSettings.make logEnv logGiven = .ok s.log)
    (hback : ReadsBack s.sheet.document) (henv : env.Silent)
    (hsave : s.sheet.save p fs = .ok fs') : load env fs' p = .ok s := by
  rw [load_of_document (read_save hsave) hback]
  exact ofDocument_document hserver hlog henv

/-! ## Settings from texts -/

/-- What the groups of `fromTexts` are made of. -/
def serverTexts : List (String × Value) :=
  [("port", .text "8080"), ("allow_bind", .text "yes"), ("relay", .text "relays:tunnel")]

def logTexts : List (String × Value) := [("level", .text "debug")]

def fromTexts : Settings where
  server := { host := "::1", port := 8080, allowBind := true, relay := some "relays:tunnel" }
  log := { level := .debug }

theorem make_serverTexts :
    ServerSettings.make [("SIMPLESOCKS_HOST", "::1")] serverTexts = .ok fromTexts.server := by
  rw [← ServerSettings.schema_make]
  refine ServerSettings.schema.reads.2 ?_
  simp only [ServerSettings.schema, ServerSettings.fields, List.forall_mem_cons]
  exact ⟨rfl, rfl, rfl, rfl, rfl, rfl, rfl, List.forall_mem_nil _⟩

theorem make_logTexts : LogSettings.make [] logTexts = .ok fromTexts.log := by
  rw [← LogSettings.schema_make]
  refine LogSettings.schema.reads.2 ?_
  simp only [LogSettings.schema, LogSettings.fields, List.forall_mem_cons]
  exact ⟨Convert.level_text (by decide +kernel), rfl, rfl, rfl, rfl, List.forall_mem_nil _⟩

/-- The document that they are written as. -/
def textsDocument : List (Value × Value) :=
  [(.text "server", .map
      [(.text "host", .text "::1"), (.text "port", .int 8080), (.text "max_connections", .int 100),
       (.text "handshake_timeout", .float 30.0), (.text "connect_timeout", .float 30.0),
       (.text "allow_bind", .bool true), (.text "relay", .text "relays:tunnel")]),
   (.text "log", .map
      [(.text "level", .text "DEBUG"), (.text "format", .text "console"), (.text "file", .null),
       (.text "max_size_mb", .int 10), (.text "backup_count", .int 3)])]

def textsChars : List Char := Yaml.Writer.joined 0 (Yaml.Writer.entries 0 textsDocument) ++ ['\n']

theorem document_fromTexts : fromTexts.sheet.document = textsDocument := by
  have hlevel : Text.upper Level.debug.name = "DEBUG" := by decide +kernel
  simp only [document_eq, ServerSettings.storedSchema, LogSettings.storedSchema, StoredSchema.entries,
    StoredField.entry, fromTexts, List.map, hlevel]
  rfl

def lineTokens (line : String × String) : List Yaml.Token :=
  [.key, .scalar line.1 true, .value, .scalar line.2 true]

def groupTokens (group : String) (lines : List (String × String)) : List Yaml.Token :=
  [.key, .scalar group true, .value, .mappingStart] ++ lines.flatMap lineTokens ++ [.blockEnd]

theorem tokens_textsChars :
    Yaml.tokens textsChars = .ok (.mappingStart ::
        groupTokens "server"
          [("host", "::1"), ("port", "8080"), ("max_connections", "100"), ("handshake_timeout", "30.0"),
           ("connect_timeout", "30.0"), ("allow_bind", "true"), ("relay", "relays:tunnel")] ++
        groupTokens "log"
          [("level", "DEBUG"), ("format", "console"), ("file", "null"), ("max_size_mb", "10"),
           ("backup_count", "3")] ++
        [.blockEnd]) := by decide +kernel

set_option maxRecDepth 10000 in
theorem readsBack_textsDocument : ReadsBack textsDocument := by
  have hw : Yaml.Writer.write textsDocument = String.ofList textsChars := rfl
  rw [ReadsBack, hw, Yaml.read, String.toList_ofList, String.length_ofList, tokens_textsChars]
  -- how long the text is only has to do with how deep a document may be
  generalize textsChars.length = n
  rfl

def textsFiles : Files where
  working := []
  entries := [(["config", "config.yaml"], .text fromTexts.sheet.written), (["config"], .directory)]

theorem save_fromTexts :
    fromTexts.sheet.save (.ofString "config/config.yaml") { working := [] } = .ok textsFiles := by
  have hmade : Files.makeDirectories (Path.ofString "config/config.yaml").parent { working := [] } =
      .ok { working := [], entries := [(["config"], .directory)] } := by
    rw [Files.makeDirectories]
    rfl
  rw [SettingsSheet.save, hmade]
  rfl

theorem silent_path : Environment.Silent [("PATH", "/bin")] := by
  intro v hv
  obtain rfl := List.mem_singleton.1 hv
  decide +kernel

theorem load_save_fromTexts :
    ServerSettings.make [("SIMPLESOCKS_HOST", "::1")] serverTexts = .ok fromTexts.server ∧
    LogSettings.make [] logTexts = .ok fromTexts.log ∧
    ReadsBack fromTexts.sheet.document ∧ Environment.Silent [("PATH", "/bin")] ∧
    fromTexts.sheet.save (.ofString "config/config.yaml") { working := [] } = .ok textsFiles ∧
    load [("PATH", "/bin")] textsFiles (.ofString "config/config.yaml") = .ok fromTexts := by
  have hback : ReadsBack fromTexts.sheet.document := document_fromTexts ▸ readsBack_textsDocument
  exact ⟨make_serverTexts, make_logTexts, hback, silent_path, save_fromTexts,
    load_save make_serverTexts make_logTexts hback silent_path save_fromTexts⟩

end Settings
end Socks5
