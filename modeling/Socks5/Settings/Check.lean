import Socks5.Files
import Socks5.Settings.Sources

/-! Where relative paths are seen from, and what of the settings only shows when they are used. -/
namespace Socks5

def projectRoot (env : Environment) (fs : Files) : Path :=
  match env.home? with
  | some home => .ofString home
  | none => ⟨"/", fs.working⟩

def resolvePath (env : Environment) (fs : Files) (s : String) : Path :=
  projectRoot env fs ++ .ofString s

/-- A value of a kind that a check cannot look at. -/
inductive Misfit where
  | notComparable (kind : String)
  | notPath (kind : String)
  deriving DecidableEq, Repr

def Misfit.message : Misfit → String
  | notComparable kind => s!"'<=' not supported between instances of 'int' and '{kind}'"
  | notPath kind => s!"expected str, bytes or os.PathLike object, not {kind}"

inductive SettingsProblem where
  | noRelay
  | invalidPort (v : Value)
  | noLogDirectory (p : Path)
  deriving Repr, BEq

def SettingsProblem.message : SettingsProblem → String
  | noRelay => "server.relay is not set; a relay is required to serve clients"
  | invalidPort v => s!"Invalid server port: {v.display}"
  | noLogDirectory p => s!"Log directory does not exist: {p.text}"

/-- Where the log file is, if one is set. -/
def LogSettings.filePath (env : Environment) (fs : Files) (s : LogSettings) : Option Path :=
  (s.file.filter (· ≠ "")).map (resolvePath env fs)

namespace SettingsSheet

def relayProblems (v : Value) : List SettingsProblem := if v.isAbsent then [.noRelay] else []

def portProblems (v : Value) : Except Misfit (List SettingsProblem) :=
  let isPort : Except Misfit Bool := match v.toInt?, v with
    | some n, _ => .ok (1 ≤ n ∧ n ≤ 65535)
    | none, .float x => .ok (1.0 ≤ x && x ≤ 65535.0)
    | none, v => .error (.notComparable v.kind)
  isPort.map fun ok => if ok then [] else [.invalidPort v]

def fileProblems (env : Environment) (fs : Files) (v : Value) : Except Misfit (List SettingsProblem) :=
  if v.isAbsent then .ok []
  else match v with
    | .text s =>
      let p := (resolvePath env fs s).parent
      .ok (if fs.isDirectory p then [] else [.noLogDirectory p])
    | v => .error (.notPath v.kind)

def problems (env : Environment) (fs : Files) (s : SettingsSheet) :
    Except Misfit (List SettingsProblem) := do
  let port ← portProblems (s.server.get "port")
  let file ← fileProblems env fs (s.log.get "file")
  return relayProblems (s.server.get "relay") ++ port ++ file

end SettingsSheet
end Socks5
