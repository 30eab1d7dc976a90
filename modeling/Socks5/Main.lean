import Socks5.CommandLine.Run
import Std.Time.DateTime
import Std.Time.Format

/-! The program on a console. What it may need is looked up beforehand, and what it has changed is
written back behind it. No relays can be loaded here, so no server gets as far as listening. -/
namespace Socks5.Main

/-! ## What is found -/

/-- The variables that hold settings. -/
def variableNames : List String :=
  let fields := ServerSettings.fieldNames.map ("SIMPLESOCKS_" ++ Text.upper ·) ++
    ServerSettings.fieldNames.map ("SIMPLESOCKS_SERVER__" ++ Text.upper ·) ++
    LogSettings.fieldNames.map ("SIMPLESOCKS_LOG_" ++ Text.upper ·) ++
    LogSettings.fieldNames.map ("SIMPLESOCKS_LOG__" ++ Text.upper ·)
  ["SIMPLESOCKS_HOME", "SIMPLESOCKS_SERVER", "SIMPLESOCKS_LOG"] ++ fields

def environment : IO Environment :=
  variableNames.filterMapM fun name => return (← IO.getEnv name).map (name, ·)

/-- What is at a place; anything that is there and cannot be read as a text counts as a directory. -/
def look (place : List String) : IO (Option File) := do
  try
    return some (.text (← IO.FS.readFile ("/" ++ "/".intercalate place)))
  catch e => match e with
    | .noFileOrDirectory .. => return none
    | _ => return some .directory

/-- Looks at a path and at all directories above it. -/
def lookAlong (fs : Files) (path : String) : IO Files := do
  let p := Log.Sink.fullPath fs (.ofString path)
  ((List.range (p.parts.length + 1)).map p.parts.take).foldlM (fun fs place => do
    match fs.at? place, ← look place with
    | none, some f => return fs.set place f
    | _, _ => return fs) fs

def terminal : IO CommandLine.Terminal := do
  let width := ((← IO.getEnv "COLUMNS").bind String.toNat?).getD 80
  let now ← Std.Time.PlainDateTime.now
  return { width, time := now.format "uuuu-MM-dd HH:mm:ss", env := ← environment }

/-- The paths that a command looks at, as far as they are known before its settings are read. -/
def pathsOf : CommandLine.Invocation → List String
  | .init output _ => [output]
  | .serve config .. => [config]
  | _ => []

/-- The files that a command may need; a log file is known from the settings. -/
def filesFor (t : CommandLine.Terminal) (words : List String) : IO Files := do
  let start : Files := { working := (Path.ofString (← IO.currentDir).toString).parts }
  match CommandLine.Invocation.ofWords words with
  | .error _ => return start
  | .ok i =>
    let fs ← (pathsOf i).foldlM lookAlong (← lookAlong start ".")
    match i with
    | .serve config .. => match Settings.load t.env fs (.ofString config) with
      | .ok s => match s.log.filePath t.env fs with
        | some p => lookAlong fs p.text
        | none => return fs
      | .error _ => return fs
    | _ => return fs

/-! ## What is left behind -/

def writeBack (before after : Files) : IO Unit :=
  after.entries.reverse.forM fun (place, f) => do
    let path := "/" ++ "/".intercalate place
    unless before.at? place = some f do
      match f with
      | .directory => IO.FS.createDirAll path
      | .text s => IO.FS.writeFile path s

/-- Runs the program anew with one line more whenever it waits for an answer. `shown` counts what was
put out before. -/
partial def interact (t : CommandLine.Terminal) (words : List String) (fs : Files)
    (lines : List String) (shown : Nat) : IO (CommandLine.Stop × CommandLine.Desk) := do
  let (stop, d) := CommandLine.run t {} words { files := fs, input := lines }
  IO.print (String.ofList (d.output.toList.drop shown))
  (← IO.getStdout).flush
  match stop with
  | .escaped .unanswered =>
    let line ← (← IO.getStdin).getLine
    if line = "" then return (stop, d)
    interact t words fs (lines ++ [String.ofList (line.toList.filter (· ≠ '\n'))]) d.output.length
  | _ => return (stop, d)

def exitCode (t : CommandLine.Terminal) : CommandLine.Stop → IO UInt32
  | .exit code => return UInt32.ofNat code
  | .escaped e => do
    IO.eprintln (e.message t.manual)
    return match e with
      | .usage _ => 2
      | _ => 1

def run (words : List String) : IO UInt32 := do
  let t ← terminal
  let fs ← filesFor t words
  let (stop, d) ← interact t words fs [] 0
  writeBack fs d.files
  exitCode t stop

end Socks5.Main

def main (words : List String) : IO UInt32 := Socks5.Main.run words
