import Socks5.Value

/-! Structured log events. -/
namespace Socks5

inductive Level where
  | debug
  | info
  | warning
  | error
  | critical
  deriving DecidableEq, Repr

def Level.name : Level → String
  | debug => "debug"
  | info => "info"
  | warning => "warning"
  | error => "error"
  | critical => "critical"

def Level.all : List Level := [.debug, .info, .warning, .error, .critical]

def Level.weight : Level → Nat
  | debug => 10
  | info => 20
  | warning => 30
  | error => 40
  | critical => 50

/-- Who has something to tell. -/
inductive Source where
  | channel
  | endpoint
  | server
  deriving DecidableEq, Repr

def Source.name : Source → String
  | channel => "simplesocks.channel"
  | endpoint => "simplesocks.endpoint"
  | server => "simplesocks.server"

/-- What happened, and the particulars by name. -/
structure Event where
  source : Source
  level : Level
  text : String
  fields : List (String × Value) := []
  deriving Repr, BEq

end Socks5
