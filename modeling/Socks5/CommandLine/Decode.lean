import Socks5.CommandLine.Job
import Socks5.Inspect
import Socks5.Log.Line
import Socks5.Wire.Spelling

/-! The commands that explain bytes of the protocol: those that a client sent, and those of a reply. -/
namespace Socks5.CommandLine

/-! ## Replies -/

def replyText (r : ReplyCode) : String := s!"{r.name}: {Bytes.toHexSpaced r.encode}"

def unknownReply (code : String) : UsageError :=
  .badValue [] s!"Unknown reply code {Text.quote code}. Use 0-8 or one of: {ReplyCode.choices}"

def reply (t : Terminal) (code : String) : Job Unit :=
  match ReplyCode.ofSpelling? code with
  | some r => Job.say t (replyText r)
  | none => Job.escape (.usage (unknownReply code))

/-! ## Handshakes -/

/-- Bytes may be parted by blanks or by colons. -/
def readHex (data : String) : Except Nat Bytes :=
  Bytes.ofHex (data.toList.map fun c => if c = ':' then ' ' else c)

/-- The lines of a log without colours. -/
def plainLog (time : String) (es : List Event) : String :=
  String.join (es.map fun e => Log.Style.plain.line (e.entry time) ++ "\n")

def unknownMark : String := "[red]unknown[/red]"

/-- The rows for a request that was read. -/
def requestRows (e : Endpoint) (r : Request) (valid : Bool) (unread : Bytes) : List (List String) :=
  [["Command", (r.command.map Command.name).getD unknownMark],
   ["Target", r.targetText?.getD unknownMark],
   ["Port", toString r.port.toNat],
   ["Valid", if valid then "[green]yes[/green]" else "[red]no[/red]"],
   ["Reply", s!"{e.suggestedReply.name} ({Bytes.toHexSpaced e.suggestedReply.encode})"]] ++
    if unread = [] then [] else [["Unread", s!"[yellow]{Bytes.toHexSpaced unread}[/yellow]"]]

/-- What is known of a handshake. Without a validity there is only the refusal of the offer. -/
def handshakeTable (s : Session Channel.Memory) (valid : Option Bool) : Console.Table :=
  let answer := Bytes.toHexSpaced (s.channel.written.take 2)
  let rows := match valid with
    | none => [["Authentication", s!"[red]refused[/red] ({answer})"]]
    | some valid => ["Authentication", s!"[green]no-auth[/green] ({answer})"] ::
        requestRows s.endpoint (s.endpoint.request.getD {}) valid s.channel.unread
  { title := "SOCKS5 Handshake", head := ["Field", "Value"], rows }

def decode (t : Terminal) (data : String) : Job Unit := do
  match readHex data with
  | .error position =>
    Job.say t s!"[red]Invalid hex input: non-hexadecimal number found in fromhex() arg at position {position}[/red]"
    Job.exit 1
  | .ok bs =>
    let p := inspect bs
    Job.write (plainLog t.time p.session.log)
    match p with
    | .returned valid s =>
      Job.write (← Job.lift .markup (Console.Table.print t.width (handshakeTable s valid)))
    | .raised e _ => do
      Job.say t s!"[red]{e.name}: {e.message}[/red]"
      Job.exit 1
    | .waiting _ _ => return

end Socks5.CommandLine
