import Socks5.Log.Line
import Socks5.Settings.Check

/-! Where log lines go: to the output, and to a file if there is one. -/
namespace Socks5.Log

structure Sink where
  threshold : Level
  format : LogFormat
  file : Option Path := none
  deriving Repr

namespace Sink

/-- The path from the top, with double dots followed back. -/
def fullPath (fs : Files) (p : Path) : Path :=
  let parts := if p.isAbsolute then p.parts else fs.working ++ p.parts
  ⟨if p.isAbsolute then p.root else "/",
    parts.foldl (fun ps part => if part = ".." then ps.dropLast else ps ++ [part]) []⟩

/-- Opens the log, and makes its file where there is none yet. -/
def «open» (env : Environment) (s : LogSettings) (fs : Files) : Except Fault (Sink × Files) :=
  match (s.filePath env fs).map (fullPath fs) with
  | none => .ok (⟨s.level, s.format, none⟩, fs)
  | some p => (fs.append p "").map fun fs => (⟨s.level, s.format, some p⟩, fs)

def takes (k : Sink) (l : Level) : Bool := k.threshold.weight ≤ l.weight

/-- The lines for a statement that is worth it. -/
def lines (k : Sink) (time : String) (s : Statement) : Except StatementError String :=
  if !s.namesOneEvent then .error (.eventTwice s.call)
  else if k.takes s.level then (s.entry time).map fun es => line k.format es ++ "\n" else .ok ""

def keep (k : Sink) (out : String) (fs : Files) : Except Fault Files :=
  match k.file with
  | none => .ok fs
  | some p => fs.append p out

end Sink
end Socks5.Log
