import Socks5.Validation.Convert
import Socks5.Validation.Sheet
import Socks5.Wire.Request

/-! Records of requests and connections made from named values. -/
namespace Socks5

/-- What is known of a client's connection. -/
structure ConnectionInfo where
  clientAddress : String
  clientPort : Int
  targetHost : Option String := none
  targetPort : Option Int := none
  command : Option Command := none
  reply : Option ReplyCode := none
  deriving DecidableEq, Repr

namespace ConnectionInfo

def client (i : ConnectionInfo) : String := s!"{i.clientAddress}:{i.clientPort}"

def target? (i : ConnectionInfo) : Option String :=
  i.targetHost.map fun h => s!"{h}:{(Value.ofOption .int i.targetPort).display}"

open Socks5.Convert in
def ofFields (given : List (String × Value)) : Except Invalid ConnectionInfo :=
  let result : Except (List Complaint) ConnectionInfo := do
    let (clientAddress, clientPort, targetHost, targetPort, command, reply) ←
      both (required given "client_address" text) <|
      both (required given "client_port" (port 0)) <|
      both (field given "target_host" (.ok none) (optional text)) <|
      both (field given "target_port" (.ok none) (optional (port 0))) <|
      both (field given "command" (.ok none) (optional Convert.command))
        (field given "reply" (.ok none) (optional replyCode))
    return { clientAddress, clientPort, targetHost, targetPort, command, reply }
  result.mapError (⟨"ConnectionInfo", ·⟩)

/-- The fields as loose values, for whoever sets them later. -/
def sheet (i : ConnectionInfo) : Sheet where
  record := "ConnectionInfo"
  fields :=
    [("client_address", .text i.clientAddress), ("client_port", .int i.clientPort),
     ("target_host", .ofOption .text i.targetHost), ("target_port", .ofOption .int i.targetPort),
     ("command", .ofOption (.text ·.name) i.command), ("reply", .ofOption (.text ·.name) i.reply)]
  computed := ["client", "target"]

end ConnectionInfo

namespace Sheet

/-- The client of a connection's sheet. -/
def client (s : Sheet) : String :=
  (s.get "client_address").display ++ ":" ++ (s.get "client_port").display

def target? (s : Sheet) : Option String :=
  match s.get "target_host" with
  | .null => none
  | h => some (h.display ++ ":" ++ (s.get "target_port").display)

end Sheet

namespace Request

open Socks5.Convert in
/-- At most one of address and host name may be given. -/
def ofFields (given : List (String × Value)) : Except Invalid Request :=
  let result : Except (List Complaint) Request := do
    let (command, address, hostName, port) ←
      both (field given "command" (.ok none) (optional Convert.command)) <|
      both (field given "address" (.ok none) (optional Convert.address)) <|
      both (field given "host_name" (.ok none) (optional text))
        (field given "port" (.ok 0) (Convert.port 0))
    let target : Option Target ← match address, hostName with
      | some _, some _ =>
        .error [⟨[], .refused "address and host_name are mutually exclusive",
          .map (given.map fun (k, v) => (.text k, v))⟩]
      | some a, none => .ok (some (.address a))
      | none, name? => .ok (name?.map .name)
    return { command, target, port := UInt16.ofNat port.toNat }
  result.mapError (⟨"ParsedRequest", ·⟩)

end Request

/-- Requests do not change once they are made. -/
def Request.assign (name : String) (v : Value) : Invalid :=
  ⟨"ParsedRequest", [⟨[name], .frozen, v⟩]⟩

end Socks5
