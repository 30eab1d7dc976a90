import Socks5.Log.Event
import Socks5.Text.Upper
import Socks5.Validation.Convert
import Socks5.Validation.Sheet

/-! The settings of the server and of its log, made from named values. -/
namespace Socks5

structure ServerSettings where
  host : String := "127.0.0.1"
  port : Int := 1080
  maxConnections : Int := 100
  handshakeTimeout : Float := 30.0
  connectTimeout : Float := 30.0
  allowBind : Bool := false
  relay : Option String := none
  deriving Repr, BEq

inductive LogFormat where
  | json
  | console
  deriving DecidableEq, Repr

def LogFormat.name : LogFormat → String
  | json => "json"
  | console => "console"

structure LogSettings where
  level : Level := .info
  format : LogFormat := .console
  file : Option String := none
  maxSizeMb : Int := 10
  backupCount : Int := 3
  deriving Repr, BEq

structure Settings where
  server : ServerSettings := {}
  log : LogSettings := {}
  deriving Repr, BEq

/-! ## Single fields -/

namespace Convert

def positive (x : Float) : Option Problem := if 0.0 < x then none else some (.notGreater 0)

/-- A relay is named by a module and something in it. -/
def isRelayPath (s : String) : Bool :=
  match Text.cut ':' s.toList with
  | (m, some f) => m ≠ [] && f ≠ []
  | (_, none) => false

def relayPath : Convert String :=
  check text fun s => if isRelayPath s then none
    else some (.refused s!"Invalid relay: {s}. Expected 'module:function'")

def levelNames : String := ", ".intercalate (Level.all.map fun l => Text.quote (Text.upper l.name))

/-- Any case will do. -/
def level : Convert Level := fun v => do
  let s ← text v
  match Level.all.find? fun l => Text.upper l.name = Text.upper s with
  | some l => .ok l
  | none => fail (.refused ("Invalid log level: " ++ s ++ ". Must be one of \x7b" ++ levelNames ++ "\x7d"))

def logFormat : Convert LogFormat := fun v => do
  match ← text v with
  | "json" => .ok .json
  | "console" => .ok .console
  | s => fail (.refused s!"Invalid log format: {s}. Must be 'json' or 'console'")

end Convert

/-! ## Records -/

namespace ServerSettings

def fieldNames : List String :=
  ["host", "port", "max_connections", "handshake_timeout", "connect_timeout", "allow_bind", "relay"]

open Socks5.Convert in
def ofFields (given : List (String × Value)) : Except Invalid ServerSettings :=
  let d : ServerSettings := {}
  let result : Except (List Complaint) ServerSettings := do
    let (host, port, maxConnections, handshakeTimeout, connectTimeout, allowBind, relay) ←
      both (field given "host" (.ok d.host) text) <|
      both (field given "port" (.ok d.port) (Convert.port 1)) <|
      both (field given "max_connections" (.ok d.maxConnections) (check integer (atLeast 1))) <|
      both (field given "handshake_timeout" (.ok d.handshakeTimeout) (check number positive)) <|
      both (field given "connect_timeout" (.ok d.connectTimeout) (check number positive)) <|
      both (field given "allow_bind" (.ok d.allowBind) flag)
        (field given "relay" (.ok d.relay) (optional relayPath))
    return { host, port, maxConnections, handshakeTimeout, connectTimeout, allowBind, relay }
  result.mapError (⟨"ServerSettings", ·⟩)

def sheet (s : ServerSettings) : Sheet where
  record := "ServerSettings"
  fields :=
    [("host", .text s.host), ("port", .int s.port), ("max_connections", .int s.maxConnections),
     ("handshake_timeout", .float s.handshakeTimeout), ("connect_timeout", .float s.connectTimeout),
     ("allow_bind", .bool s.allowBind), ("relay", .ofOption .text s.relay)]

end ServerSettings

namespace LogSettings

def fieldNames : List String := ["level", "format", "file", "max_size_mb", "backup_count"]

open Socks5.Convert in
def ofFields (given : List (String × Value)) : Except Invalid LogSettings :=
  let d : LogSettings := {}
  let result : Except (List Complaint) LogSettings := do
    let (level, format, file, maxSizeMb, backupCount) ←
      both (field given "level" (.ok d.level) Convert.level) <|
      both (field given "format" (.ok d.format) logFormat) <|
      both (field given "file" (.ok d.file) (optional text)) <|
      both (field given "max_size_mb" (.ok d.maxSizeMb) (check integer (atLeast 1)))
        (field given "backup_count" (.ok d.backupCount) (check integer (atLeast 0)))
    return { level, format, file, maxSizeMb, backupCount }
  result.mapError (⟨"LogSettings", ·⟩)

def sheet (s : LogSettings) : Sheet where
  record := "LogSettings"
  fields :=
    [("level", .text (Text.upper s.level.name)), ("format", .text s.format.name),
     ("file", .ofOption .text s.file), ("max_size_mb", .int s.maxSizeMb),
     ("backup_count", .int s.backupCount)]
  computed := ["file_path"]

end LogSettings

/-- Both groups as loose values, for whoever sets fields later. -/
structure SettingsSheet where
  server : Sheet
  log : Sheet
  deriving Repr, BEq

def Settings.sheet (s : Settings) : SettingsSheet := ⟨s.server.sheet, s.log.sheet⟩

end Socks5
