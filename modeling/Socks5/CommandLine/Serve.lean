import Socks5.CommandLine.Job
import Socks5.Log.Sink

/-! The command that runs a server: it starts to listen only when the settings are sound and the relay
is found, and stops listening whatever happens then. -/
namespace Socks5.CommandLine

/-- What a server meets from its start to its end. -/
structure Scene where
  visits : List Arrival := []
  network : String → UInt16 → Route := fun _ _ => .opens {}
  opening : Opening := .ok []
  /-- What relays do, by name. -/
  relays : String → ConnectionInfo → Relay := fun _ _ => .done

/-- Settings that come before those of the file. -/
structure Overrides where
  host : Option String := none
  port : Option Int := none
  relay : Option String := none
  deriving DecidableEq, Repr

def Overrides.apply (o : Overrides) (s : ServerSettings) : ServerSettings :=
  { s with host := o.host.getD s.host, port := o.port.getD s.port, relay := o.relay.or s.relay }

/-! ## Before listening -/

def loadSettings (t : Terminal) (config : String) : Job Settings := do
  let path := Path.ofString config
  let files := (← get).files
  unless files.isThere path do Job.say t "[yellow]No config file found, using defaults[/yellow]"
  match Settings.load t.env files path with
  | .ok s => return s
  | .error e =>
    if e.isValue then do
      Job.say t s!"[red]Invalid configuration: {e.message t.manual}[/red]"
      Job.exit 1
    else Job.escape (.document e)

/-- All problems are told before the command ends. -/
def requireSound (t : Terminal) (s : Settings) : Job Unit := do
  match ← Job.lift .misfit (s.sheet.problems t.env (← get).files) with
  | [] => return
  | ps => do
    ps.forM fun p => Job.say t s!"[red]✗[/red] {p.message}"
    Job.exit 1

def findRelay (t : Terminal) (path : String) : Job String :=
  match t.library.locate path with
  | .ok name => return name
  | .error .emptyName => Job.escape (.locate .emptyName)
  | .error e => do
    Job.say t s!"[red]Cannot load relay {path}: {e.message}[/red]"
    Job.exit 1

/-! ## The server's settings -/

def allowedCommands (s : ServerSettings) : List Command :=
  if s.allowBind then [.connect, .bind] else [.connect]

def serverConfig (s : ServerSettings) : ServerConfig where
  host := s.host
  port := s.port
  handshakeTimeout := Number.toRat? s.handshakeTimeout
  connectTimeout := Number.toRat? s.connectTimeout
  maxConnections := s.maxConnections
  allowed := allowedCommands s

def panelText (s : ServerSettings) (address : Value × Value) : String :=
  let commands := ((allowedCommands s).map Command.name).mergeSort fun a b => decide (a ≤ b)
  "[bold green]SOCKS5 Server Running[/bold green]\n" ++
    s!"Listen:   [cyan]{address.1.display}:{address.2.display}[/cyan]\n" ++
    "Auth:     [cyan]None[/cyan]\n" ++
    "Commands: [cyan]" ++ ", ".intercalate commands ++ "[/cyan]\n" ++
    "Relay:    [cyan]" ++ s.relay.getD "" ++ "[/cyan]\n\n[dim]Press Ctrl+C to stop.[/dim]"

/-! ## While listening -/

def record (a : ServeAct) : Job Unit := modify fun d => { d with acts := d.acts ++ [a] }

/-- Writes an event to the log, as far as it goes there. -/
def logEvent (t : Terminal) (k : Log.Sink) (e : Event) : Job Unit :=
  let out := (k.lines t.time e.statement).toOption.getD ""
  modify fun d => { d with output := d.output ++ out, files := (k.keep out d.files).toOption.getD d.files }

/-- The line for a connection that came about. -/
def announcement (i : ConnectionInfo) : String :=
  s!"[dim]{i.client}[/dim] -> [cyan]{(Value.ofOption .text i.target?).display}[/cyan]"

/-- A target that is no good as markup cannot be announced, and its connection fails. -/
def announcementFault (i : ConnectionInfo) : Option Fault :=
  match Console.plainText (announcement i) with
  | .ok _ => none
  | .error e => some ⟨.runtime, [.text e.message]⟩

def announce (t : Terminal) (i : ConnectionInfo) : Job Unit :=
  Job.write ((Console.print t.width (announcement i)).toOption.getD "")

def tell (t : Terminal) (k : Log.Sink) : Happening → Job Unit
  | .moved (.noted e) => logEvent t k e
  | .moved _ => return
  | .did a => do
    record (.serving a)
    match a with
    | .callback i _ => announce t i
    | _ => return

/-- Lets one client come and tells what happens. -/
def receive (t : Terminal) (k : Log.Sink) (w : Surroundings) (s : Server) (a : Arrival) : Job Server := do
  let s := s.step w (.connect a)
  s.history.forM fun h => tell t k h.2
  return { s with history := [] }

def receiveAll (t : Terminal) (k : Log.Sink) (w : Surroundings) (s : Server) (arrivals : List Arrival) :
    Job Unit := do
  let s ← arrivals.foldlM (receive t k w) s
  modify fun d => { d with written := s.clients.map (·.channel.written) }

/-- Tells what a listener did since it was last looked at. -/
def tellListener (t : Terminal) (k : Log.Sink) (l : Listener) : Job Unit := do
  l.acts.forM fun a => record (.listening a)
  l.log.forM (logEvent t k)

def stopListening (t : Terminal) (k : Log.Sink) (l : Listener) : Job Unit := do
  tellListener t k ({ l with acts := [], log := [] } : Listener).stop
  Job.say t "[green]Server stopped[/green]"

def listen (t : Terminal) (scene : Scene) (s : Settings) (k : Log.Sink) (relay : String) : Job Unit :=
  let config := serverConfig s.server
  let (r, l) := Listener.start scene.opening { config }
  Job.andFinally (stopListening t k l) do
    tellListener t k l
    Job.lift .fault r
    Job.write (← Job.lift .markup
      (Console.panel t.width "simplesocks" (panelText s.server l.boundAddress)))
    let told := fun i => .ofFault? (announcementFault i)
    receiveAll t k ⟨scene.network, scene.relays relay, some told⟩ { config } scene.visits
    Job.say t "\n[yellow]Shutting down...[/yellow]"

def serve (t : Terminal) (scene : Scene) (config : String) (o : Overrides) : Job Unit := do
  let s ← loadSettings t config
  let s := { s with server := o.apply s.server }
  requireSound t s
  let relay ← findRelay t (s.server.relay.getD "")
  let (k, files) ← Job.lift .fault (Log.Sink.open t.env s.log (← get).files)
  modify fun d => { d with files, relay := some relay }
  listen t scene s k relay

end Socks5.CommandLine
