import Socks5.Proofs.Settings.Fields
import Socks5.Settings.Document

/-!
Which documents of settings are of a shape that no settings can be looked for in. A document of any other shape
gives settings, or a word about one of its values (`derails_iff`). The groups are looked at one after the other,
so a document that is refused for the values of the first is not asked for the second.
-/
namespace Socks5

/-! ## One group -/

namespace Value

def isText : Value → Bool
  | text _ => true
  | _ => false

/-- A group that no fields can be taken from: it is no mapping, or has a key that is no text. -/
def misshapen : Value → Bool
  | map es => es.any fun e => !e.1.isText
  | _ => true

/-- A document that mentions a group and does not hold one, or that cannot be asked for it. -/
def misplaces (group : String) : Value → Bool
  | map es => (es.lookup (.text group)).any misshapen
  | text s => occursIn group.toList s.toList
  | list xs | set xs => xs.contains (.text group)
  | _ => true

/-- The entries of a group whose keys are texts. -/
def keyed (fields : List (String × Value)) : Value := map (fields.map fun f => (.text f.1, f.2))

/-- A group is in shape exactly if it is the entries under some texts. -/
theorem misshapen_eq_false_iff {v : Value} : v.misshapen = false ↔ ∃ fields, v = keyed fields := by
  refine ⟨fun h => ?_, fun ⟨fields, hv⟩ => by simp [hv, keyed, misshapen, isText]⟩
  cases v with
  | map es =>
    refine ⟨es.map fun e => (e.1.display, e.2), congrArg map ?_⟩
    rw [List.map_map]
    refine ((List.map_congr_left fun e he => ?_).trans (List.map_id es)).symm
    have ht : e.1.isText = true := by simpa using List.any_eq_false.1 h e he
    obtain ⟨k, v⟩ := e
    cases k <;> simp_all [isText, display]
  | _ => cases h

end Value

open Value (keyed)

/-- An error that no value of the file accounts for. -/
def DocumentError.Breaks (r : Except DocumentError α) : Prop := ∃ e, r = .error e ∧ e.isValue = false

open DocumentError (Breaks)

theorem groupFields_keyed (record : String) (fields : List (String × Value)) :
    groupFields record (keyed fields) = .ok fields := by
  simp only [keyed, groupFields]
  induction fields with
  | nil => rfl
  | cons f fields ih => simp only [List.map_cons, List.mapM_cons, ih]; rfl

theorem groupFields_of_misshapen {record : String} {v : Value} (h : v.misshapen = true) :
    Breaks (groupFields record v) := by
  cases v with
  | map es =>
    refine ⟨.keyNotText, ?_, rfl⟩
    -- the entries before the first key that is no text are passed over
    induction es with
    | nil => cases h
    | cons e es ih =>
      obtain ⟨k, v⟩ := e
      simp only [groupFields, List.mapM_cons] at ih ⊢
      cases k with
      | text s =>
        have hes : (Value.map es).misshapen = true := by simpa [Value.misshapen, Value.isText] using h
        rw [ih hes]
        rfl
      | _ => rfl
  | _ => exact ⟨.notMapping record _, rfl, rfl⟩

section Groups
variable {record : String} {make : List (String × Value) → Except Invalid α}

theorem groupMade_keyed (fields : List (String × Value)) :
    groupMade record make (some (keyed fields)) = match make fields with
      | .ok a => .ok (some a)
      | .error e => .error (.settings (.invalid e)) := by
  simp only [groupMade, groupFields_keyed]
  rfl

theorem breaks_groupMade_iff (held : Option Value) :
    Breaks (groupMade record make held) ↔ held.any Value.misshapen = true := by
  cases held with
  | none => exact iff_of_false (fun ⟨_, he, _⟩ => nomatch he) nofun
  | some v =>
    by_cases hv : v.misshapen = true
    · have hbreaks : Breaks (groupFields record v) := groupFields_of_misshapen hv
      obtain ⟨e, he, hn⟩ := hbreaks
      refine ⟨fun _ => hv, fun _ => ⟨e, ?_, hn⟩⟩
      simp only [groupMade, he]
      rfl
    · obtain ⟨fields, rfl⟩ := Value.misshapen_eq_false_iff.1 (by simpa using hv)
      refine ⟨fun ⟨e, he, hn⟩ => ?_, fun h => absurd h hv⟩
      rw [groupMade_keyed] at he
      split at he <;> cases he
      cases hn

/-- What a document gives for a group. -/
def groupOf (group record : String) (make : List (String × Value) → Except Invalid α) (doc : Value) :
    Except DocumentError (Option α) := do groupMade record make (← groupIn group doc)

/-- Asking a document for a group goes wrong exactly where the group is misplaced. -/
theorem breaks_groupOf_iff (group : String) (doc : Value) :
    Breaks (groupOf group record make doc) ↔ doc.misplaces group = true := by
  have hnone : ¬ Breaks (groupMade record make none) := fun h => nomatch (breaks_groupMade_iff none).1 h
  have hfail (e : DocumentError) (he : e.isValue = false) :
      Breaks (Except.error e : Except DocumentError (Option α)) := ⟨e, rfl, he⟩
  cases doc with
  | map es => exact breaks_groupMade_iff _
  | text s =>
    unfold groupOf groupIn Value.misplaces
    dsimp only
    split
    · next h => exact iff_of_true (hfail _ rfl) h
    · next h => exact iff_of_false hnone h
  | list xs | set xs =>
    unfold groupOf groupIn Value.misplaces
    dsimp only
    split
    · next h => exact iff_of_true (hfail _ rfl) h
    · next h => exact iff_of_false hnone h
  | _ => exact iff_of_true (hfail _ rfl) rfl

end Groups

/-! ## A whole document -/

namespace Settings

/-- The server's group of a document. -/
def serverOf (env : Environment) : Value → Except DocumentError (Option ServerSettings) :=
  groupOf "server" "ServerSettings" (ServerSettings.make env)

/-- The log's group of a document. -/
def logOf (env : Environment) : Value → Except DocumentError (Option LogSettings) :=
  groupOf "log" "LogSettings" (LogSettings.make env)

theorem ofDocument_eq (env : Environment) (doc : Value) :
    ofDocument env doc = (do
      let doc := if doc.isAbsent then .map [] else doc
      let server ← serverOf env doc
      let log ← logOf env doc
      (make env server log).mapError .settings) := by
  simp only [ofDocument, serverOf, logOf, groupOf, bind_assoc]

/-- A document with something in it that misplaces the server's group, or whose server's group is in order and
the log's misplaced. -/
def Derails (env : Environment) (doc : Value) : Prop :=
  doc.isAbsent = false ∧
    (doc.misplaces "server" = true ∨ (∃ server, serverOf env doc = .ok server) ∧ doc.misplaces "log" = true)

theorem not_breaks_make (env : Environment) (server : Option ServerSettings) (log : Option LogSettings) :
    ¬ Breaks ((make env server log).mapError .settings) := by
  rintro ⟨e, he, hn⟩
  cases hm : make env server log with
  | ok s => rw [hm] at he; cases he
  | error x => rw [hm] at he; cases he; cases hn

theorem breaks_bind_iff {r : Except DocumentError α} {f : α → Except DocumentError β} :
    Breaks (r >>= f) ↔ Breaks r ∨ ∃ a, r = .ok a ∧ Breaks (f a) := by
  simp only [Breaks, bind_eq_error_iff]
  constructor
  · rintro ⟨e, he | ⟨a, ha, he⟩, hn⟩
    · exact .inl ⟨e, he, hn⟩
    · exact .inr ⟨a, ha, e, he, hn⟩
  · rintro (⟨e, he, hn⟩ | ⟨a, ha, e, he, hn⟩)
    · exact ⟨e, .inl he, hn⟩
    · exact ⟨e, .inr ⟨a, ha, he⟩, hn⟩

theorem breaks_ofDocument_iff (env : Environment) (doc : Value) : Breaks (ofDocument env doc) ↔ Derails env doc := by
  have hgroups (doc : Value) : Breaks (do
        let server ← serverOf env doc
        let log ← logOf env doc
        (make env server log).mapError .settings) ↔
      doc.misplaces "server" = true ∨ (∃ server, serverOf env doc = .ok server) ∧ doc.misplaces "log" = true := by
    simp only [breaks_bind_iff, not_breaks_make, and_false, exists_false, or_false]
    rw [serverOf, logOf, breaks_groupOf_iff, breaks_groupOf_iff, exists_and_right]
  rw [ofDocument_eq, Derails]
  cases ha : doc.isAbsent with
  | true =>
    refine (hgroups (.map [])).trans (iff_of_false ?_ (fun h => nomatch h.1))
    simp [Value.misplaces]
  | false => exact (hgroups doc).trans (by simp)

end Settings

/-! ## A file -/

theorem Files.isThere_of_read {fs : Files} {p : Path} {text : String} (h : fs.read p = .ok text) :
    fs.isThere p = true := by
  unfold read at h
  unfold isThere find?
  cases hp : fs.place p with
  | error k => rw [hp] at h; cases h
  | ok place =>
    rw [hp] at h
    dsimp only at h ⊢
    split at h <;> simp_all

namespace Settings

/-- A text that is no document, has a scalar that breaks its reading off, or holds a document that derails. -/
def TextDerails (env : Environment) (text : String) : Prop :=
  match Yaml.read text with
  | .error e => (DocumentError.ofRead e).isValue = false
  | .ok doc => Derails env doc

theorem load_of_read {env : Environment} {fs : Files} {p : Path} {text : String} (h : fs.read p = .ok text) :
    load env fs p = ((Yaml.read text).mapError .ofRead >>= ofDocument env) := by
  rw [load, if_pos (Files.isThere_of_read h), h]
  rfl

theorem load_of_document {env : Environment} {fs : Files} {p : Path} {text : String} {doc : Value}
    (h : fs.read p = .ok text) (hy : Yaml.read text = .ok doc) : load env fs p = ofDocument env doc := by
  rw [load_of_read h, hy]
  rfl

/-- Loading a file goes wrong without a word about one of its values exactly if its text is of no shape for
settings. -/
theorem derails_iff {env : Environment} {fs : Files} {p : Path} {text : String} (h : fs.read p = .ok text) :
    Breaks (load env fs p) ↔ TextDerails env text := by
  rw [load_of_read h, TextDerails]
  cases Yaml.read text with
  | error e => exact ⟨fun ⟨_, he, hn⟩ => by cases he; exact hn, fun hn => ⟨_, rfl, hn⟩⟩
  | ok doc => exact breaks_ofDocument_iff env doc

/-! ## Settings that come about -/

theorem made_of_groupMade {record : String} {make : List (String × Value) → Except Invalid α} {held : Option Value}
    {a : α} (h : groupMade record make held = .ok (some a)) : ∃ fields, make fields = .ok a := by
  cases held with
  | none => cases h
  | some v =>
    obtain ⟨fields, -, hf⟩ := bind_eq_ok_iff.1 h
    cases hm : make fields with
    | ok b => rw [hm] at hf; cases hf; exact ⟨fields, hm⟩
    | error e => rw [hm] at hf; cases hf

theorem made_of_resolveGroup {group record : String} {make : List (String × Value) → Except Invalid α}
    {given : Option α} {whole : Option Value} {a : α}
    (h : resolveGroup group record given whole make = .ok (.ok a))
    (hg : ∀ b, given = some b → ∃ fields, make fields = .ok b) : ∃ fields, make fields = .ok a := by
  unfold resolveGroup at h
  split at h
  · cases h
    exact hg a rfl
  · next es => exact ⟨named es, mapError_eq_ok_iff.1 (Except.ok.inj h)⟩
  · cases h
  · split at h
    · next b hb => cases h; exact ⟨[], hb⟩
    · cases h

/-- The server's group of settings that came about was made of some fields, wherever these were from. -/
theorem server_of_ofDocument {env : Environment} {doc : Value} {s : Settings} (h : ofDocument env doc = .ok s) :
    ∃ fields, ServerSettings.make env fields = .ok s.server := by
  rw [ofDocument_eq] at h
  obtain ⟨held, hs, h⟩ := bind_eq_ok_iff.1 h
  obtain ⟨log, -, h⟩ := bind_eq_ok_iff.1 h
  obtain ⟨serverWhole, -, h⟩ := bind_eq_ok_iff.1 (mapError_eq_ok_iff.1 h)
  obtain ⟨logWhole, -, h⟩ := bind_eq_ok_iff.1 h
  obtain ⟨server, hr, h⟩ := bind_eq_ok_iff.1 h
  obtain ⟨log', -, h⟩ := bind_eq_ok_iff.1 h
  split at h
  · next both =>
    cases h
    rw [(Convert.both_eq_ok_iff.1 both).1] at hr
    refine made_of_resolveGroup hr fun b hb => ?_
    subst hb
    obtain ⟨value, -, hmade⟩ := bind_eq_ok_iff.1 hs
    exact made_of_groupMade hmade
  · cases h

theorem server_of_load {env : Environment} {fs : Files} {p : Path} {s : Settings} (h : load env fs p = .ok s) :
    ∃ fields, ServerSettings.make env fields = .ok s.server := by
  unfold load at h
  split at h
  · obtain ⟨text, -, h⟩ := bind_eq_ok_iff.1 h
    obtain ⟨doc, -, h⟩ := bind_eq_ok_iff.1 h
    exact server_of_ofDocument h
  · exact server_of_ofDocument h

/-- The relay of settings that came about, if they have one, is named by a module and something in it. -/
theorem isRelayPath_of_load {env : Environment} {fs : Files} {p : Path} {s : Settings} (h : load env fs p = .ok s)
    {path : String} (hp : s.server.relay = some path) : Convert.isRelayPath path = true := by
  obtain ⟨fields, hmade⟩ := server_of_load h
  exact ServerSettings.isRelayPath_of_ofFields hmade hp

end Settings
end Socks5
