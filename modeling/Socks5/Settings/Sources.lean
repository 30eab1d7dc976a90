import Socks5.Json.Reader
import Socks5.Settings.Basic

/-! Where settings come from: what is given outright comes before the environment, and that before
the defaults. -/
namespace Socks5

/-- Variables by name. -/
abbrev Environment := List (String × String)

/-- What keeps settings from being made. -/
inductive SettingsError where
  | invalid (e : Invalid)
  /-- The variable for a whole group is no JSON. -/
  | unreadable (group : String)
  deriving Repr, BEq

/-- What is wrong, in words; the kinds of problems are explained in the manual. -/
def SettingsError.report (manual : String) : SettingsError → String
  | invalid e => e.report manual
  | unreadable group => s!"error parsing value for field \"{group}\" from source \"EnvSettingsSource\""

def lower (s : String) : String := String.ofList (s.toList.map Char.toLower)

namespace Environment

/-- Names count in any case; the last of several variables of one name wins. -/
def get? (name : String) (env : Environment) : Option String :=
  (env.reverse.find? fun v => lower v.1 = lower name).map Prod.snd

/-- The variable as it is spelled, unless it is empty. -/
def home? (env : Environment) : Option String := (env.lookup "SIMPLESOCKS_HOME").filter (· ≠ "")

end Environment

/-! ## One group -/

/-- A field given by its name, in any case. -/
def givenField? (init : List (String × Value)) (name : String) : Option Value :=
  (init.lookup name).orElse fun _ => (init.find? fun f => lower f.1 = name).map Prod.snd

/-- The fields of a group from what is given and from the environment. A different start of the
variables' names may be given like a field. Of the names with a leading underscore only that one counts: others,
which would name further files to read variables from, are passed over like names that no field has. -/
def gather (start : String) (names : List String) (env : Environment) (init : List (String × Value)) :
    List (String × Value) :=
  let start := match init.lookup "_env_prefix" with
    | some (.text s) => s
    | _ => start
  names.filterMap fun name =>
    match givenField? init name with
    | some v => some (name, v)
    | none => (env.get? (start ++ name)).map fun s => (name, .text s)

def ServerSettings.make (env : Environment) (init : List (String × Value)) :
    Except Invalid ServerSettings := ofFields (gather "SIMPLESOCKS_" fieldNames env init)

def LogSettings.make (env : Environment) (init : List (String × Value)) :
    Except Invalid LogSettings := ofFields (gather "SIMPLESOCKS_LOG_" fieldNames env init)

/-! ## All groups -/

/-- Puts a value at a path of keys; what is no mapping on the way is left alone. -/
def putAt (v : Value) : List String → List (Value × Value) → List (Value × Value)
  | [], es => es
  | [k], es => Json.put (.text k) v es
  | k :: ks, es =>
    match (es.lookup (.text k)).getD (.map []) with
    | .map inner => Json.put (.text k) (.map (putAt v ks inner)) es
    | _ => es

def splitOn (mark : String) (s : String) : List String := s.splitOn mark

/-- The variables that name a single field of a group, as a mapping. -/
def exploded (group : String) (env : Environment) : List (Value × Value) :=
  let start := lower ("SIMPLESOCKS_" ++ group ++ "__")
  env.foldl (fun es (name, s) =>
    let name := lower name
    if name.startsWith start then
      putAt (.text s) (splitOn "__" (String.ofList (name.toList.drop start.length))) es
    else es) []

/-- The entries of both; where both have a mapping these are merged too, else the second wins. -/
def deepMerge (base : List (Value × Value)) : List (Value × Value) → List (Value × Value)
  | [] => base
  | (k, .map inner) :: es =>
    let v := match base.lookup k with
      | some (.map old) => .map (deepMerge old inner)
      | _ => .map inner
    deepMerge (Json.put k v base) es
  | (k, v) :: es => deepMerge (Json.put k v base) es

/-- What the environment has to say about a group as a whole. -/
def groupFrom (group : String) (env : Environment) : Except SettingsError (Option Value) :=
  let single := exploded group env
  match env.get? ("SIMPLESOCKS_" ++ group) with
  | none => .ok (if single = [] then none else some (.map single))
  | some s =>
    match Json.read? s with
    | none => .error (.unreadable group)
    | some (.map es) => .ok (some (.map (deepMerge es single)))
    | some v => .ok (some v)

def named (es : List (Value × Value)) : List (String × Value) :=
  es.filterMap fun (k, v) => match k with
    | .text s => some (s, v)
    | _ => none

def Invalid.within (group : String) (e : Invalid) : List Complaint :=
  e.complaints.map fun c => { c with place := group :: c.place }

/-- A group that is given stays as it is; else the environment may hold it as a whole, and else it
is made with nothing given. Only complaints of the second kind are gathered over the groups. -/
def resolveGroup (group record : String) (given : Option α) (env : Option Value)
    (make : List (String × Value) → Except Invalid α) :
    Except SettingsError (Except (List Complaint) α) :=
  match given, env with
  | some a, _ => .ok (.ok a)
  | none, some (.map es) => .ok ((make (named es)).mapError (Invalid.within group))
  | none, some v => .ok (.error [⟨[group], .notRecord record, v⟩])
  | none, none => match make [] with
    | .ok a => .ok (.ok a)
    | .error e => .error (.invalid e)

def Settings.make (env : Environment) (server : Option ServerSettings) (log : Option LogSettings) :
    Except SettingsError Settings := do
  let serverEnv ← groupFrom "server" env
  let logEnv ← groupFrom "log" env
  let server ← resolveGroup "server" "ServerSettings" server serverEnv (ServerSettings.make env)
  let log ← resolveGroup "log" "LogSettings" log logEnv (LogSettings.make env)
  match Convert.both server log with
  | .ok (server, log) => .ok { server, log }
  | .error cs => .error (.invalid ⟨"Settings", cs⟩)

end Socks5
