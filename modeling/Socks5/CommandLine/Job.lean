import Socks5.CommandLine.Arguments
import Socks5.Console.Panel
import Socks5.Console.Table
import Socks5.Locator
import Socks5.Server.Service
import Socks5.Settings.Check
import Socks5.Settings.Document

/-! What a command works with, and how it ends. -/
namespace Socks5.CommandLine

/-- What a command finds and does not change. -/
structure Terminal where
  width : Nat
  time : String
  env : Environment := []
  /-- Where the kinds of problems are explained. -/
  manual : String := ""
  library : Library := []

/-- What a server did, in order. -/
inductive ServeAct where
  | listening (a : ListenAct)
  | serving (a : Act)
  deriving DecidableEq, Repr

/-- What a command changes. -/
structure Desk where
  files : Files
  /-- The lines that are still to be read. -/
  input : List String := []
  output : String := ""
  /-- The relay that was found, by its own name. -/
  relay : Option String := none
  acts : List ServeAct := []
  /-- What was written to each client that came. -/
  written : List Bytes := []
  deriving Repr

/-- An error that no command takes care of. -/
inductive Escape where
  | usage (e : UsageError)
  | declined
  /-- The input ended before there was an answer. -/
  | unanswered
  | markup (e : Console.MarkupError)
  | settings (e : SettingsError)
  | document (e : DocumentError)
  | misfit (e : Misfit)
  | locate (e : LocateError)
  | fault (f : Fault)
  deriving Repr

def Escape.message (manual : String) : Escape → String
  | usage e => e.message
  | declined | unanswered => "Aborted."
  | markup e => e.message
  | settings e => e.report manual
  | document e => e.message manual
  | misfit e => e.message
  | locate e => e.message
  | fault f => f.message

/-- How a command ends. -/
inductive Stop where
  | exit (code : Nat)
  | escaped (e : Escape)
  deriving Repr

/-- What was done before a job stopped stays done. -/
abbrev Job := ExceptT Stop (StateM Desk)

namespace Job

def escape (e : Escape) : Job α := throw (.escaped e)

def exit (code : Nat) : Job α := throw (.exit code)

def lift (wrap : ε → Escape) : Except ε α → Job α
  | .ok a => pure a
  | .error e => escape (wrap e)

def write (s : String) : Job Unit := modify fun d => { d with output := d.output ++ s }

/-- Writes a text with markup. -/
def say (t : Terminal) (s : String) : Job Unit := do
  write (← lift .markup (Console.print t.width s))

/-- Does the last part in any case. -/
def andFinally (last : Job Unit) (job : Job α) : Job α := do
  let a ← tryCatch job fun e => do last; throw e
  last
  return a

end Job
end Socks5.CommandLine
