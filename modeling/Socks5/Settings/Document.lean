import Socks5.Files
import Socks5.Settings.Sources
import Socks5.Yaml.Document
import Socks5.Yaml.Writer

/-! Settings kept in a file. -/
namespace Socks5

/-- What is wrong with a file of settings. -/
inductive DocumentError where
  | file (f : Fault)
  | notYaml
  /-- A scalar of the document does not stand for anything. -/
  | scalar (e : Yaml.ScalarError)
  /-- The document is of a kind that cannot be asked for groups. -/
  | notSearchable (kind : String)
  /-- The document mentions a group but is no mapping. -/
  | notIndexable (kind : String)
  | notMapping (record kind : String)
  | keyNotText
  | settings (e : SettingsError)
  deriving Repr, BEq

def DocumentError.message (manual : String) : DocumentError → String
  | file f => f.message
  | notYaml => "not a YAML document"
  | scalar e => e.message
  | notSearchable "bytes" => "a bytes-like object is required, not 'str'"
  | notSearchable kind => s!"argument of type '{kind}' is not iterable"
  | notIndexable "str" => "string indices must be integers, not 'str'"
  | notIndexable "set" => "'set' object is not subscriptable"
  | notIndexable kind => s!"{kind} indices must be integers or slices, not str"
  | notMapping record kind =>
    s!"simplesocks.core.config.{record}() argument after ** must be a mapping, not {kind}"
  | keyNotText => "keywords must be strings"
  | settings e => e.report manual

/-- What was wrong with the text, as something wrong with a file of settings. -/
def DocumentError.ofRead : Yaml.ReadError → DocumentError
  | .malformed => notYaml
  | .scalar e => scalar e

/-- Whether what is wrong is some value that the file holds. -/
def DocumentError.isValue : DocumentError → Bool
  | settings _ => true
  | scalar e => e.isValue
  | _ => false

/-- Whether a text stands anywhere in another. -/
def occursIn (word : List Char) : List Char → Bool
  | [] => word = []
  | c :: s => word.isPrefixOf (c :: s) || occursIn word s

/-- What a document holds for a group. -/
def groupIn (group : String) (doc : Value) : Except DocumentError (Option Value) :=
  match doc with
  | .map es => .ok (es.lookup (.text group))
  | .text s => if occursIn group.toList s.toList then .error (.notIndexable "str") else .ok none
  | .list xs | .set xs => if xs.contains (.text group) then .error (.notIndexable doc.kind) else .ok none
  | v => .error (.notSearchable v.kind)

def groupFields (record : String) (v : Value) : Except DocumentError (List (String × Value)) :=
  match v with
  | .map es => es.mapM fun (k, v) => match k with
    | .text s => .ok (s, v)
    | _ => .error .keyNotText
  | v => .error (.notMapping record v.kind)

def groupMade (record : String) (make : List (String × Value) → Except Invalid α) :
    Option Value → Except DocumentError (Option α)
  | none => .ok none
  | some v => do
    let fields ← groupFields record v
    match make fields with
    | .ok a => .ok (some a)
    | .error e => .error (.settings (.invalid e))

namespace Settings

/-- The settings of a document. An empty one of any kind gives no group. -/
def ofDocument (env : Environment) (doc : Value) : Except DocumentError Settings := do
  let doc := if doc.isAbsent then .map [] else doc
  let server ← groupMade "ServerSettings" (ServerSettings.make env) (← groupIn "server" doc)
  let log ← groupMade "LogSettings" (LogSettings.make env) (← groupIn "log" doc)
  (make env server log).mapError .settings

/-- The settings of a file; one that is not there is like an empty one. -/
def load (env : Environment) (fs : Files) (p : Path) : Except DocumentError Settings := do
  if fs.isThere p then
    let text ← (fs.read p).mapError .file
    ofDocument env (← (Yaml.read text).mapError .ofRead)
  else ofDocument env (.map [])

end Settings

namespace SettingsSheet

def document (s : SettingsSheet) : List (Value × Value) :=
  let group (s : Sheet) : Value := .map (s.fields.map fun (k, v) => (.text k, v))
  [(.text "server", group s.server), (.text "log", group s.log)]

def written (s : SettingsSheet) : String := Yaml.Writer.write s.document

/-- Writes the settings to a file, with the directories that it is in. -/
def save (s : SettingsSheet) (p : Path) (fs : Files) : Except Fault Files := do
  (← fs.makeDirectories p.parent).write p s.written

end SettingsSheet
end Socks5
