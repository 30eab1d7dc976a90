import Socks5.CommandLine.Arguments
import Socks5.Number.Literal

/-! What the program is asked to do. -/
namespace Socks5.CommandLine

inductive Invocation where
  | version
  | init (output : String) (force : Bool)
  | decode (data : String)
  | reply (code : String)
  | serve (config : String) (host : Option String) (port : Option Int) (relay : Option String)
  deriving DecidableEq, Repr

namespace Invocation

def defaultConfig : String := "config/config.yaml"

/-! ## Forms -/

def programForm : Form where
  options := [⟨["--version"], false⟩, ⟨["--install-completion"], false⟩, ⟨["--show-completion"], false⟩]
  mixed := false

def portNames : List String := ["--port", "-p"]

/-- What each command takes, by its name. -/
def forms : List (String × Form) :=
  [("serve", { options := [⟨["--config", "-c"], true⟩, ⟨["--host", "-h"], true⟩, ⟨portNames, true⟩,
      ⟨["--relay", "-r"], true⟩] }),
   ("init", { options := [⟨["--output", "-o"], true⟩, ⟨["--force", "-f"], false⟩] }),
   ("decode", { arguments := ["data"] }),
   ("reply", { arguments := ["code"] })]

/-! ## Reading -/

def readPort (s : String) : Except UsageError Int :=
  match Number.integer? s.toList with
  | some n => .ok n
  | none => .error (.badValue portNames s!"{Text.quote s} is not a valid integer.")

/-- Bad values of options come before missing and superfluous arguments. -/
def ofCommand (name : String) (f : Form) (words : List String) : Except UsageError Invocation := do
  let g ← readWords f words
  let port ← (g.value? "--port").mapM readPort
  let args ← bindArguments f.arguments g.arguments
  let arg (name : String) : String := (args.lookup name).getD ""
  return match name with
  | "serve" =>
    .serve ((g.value? "--config").getD defaultConfig) (g.value? "--host") port (g.value? "--relay")
  | "init" => .init ((g.value? "--output").getD defaultConfig) (g.has "--force")
  | "decode" => .decode (arg "data")
  | _ => .reply (arg "code")

/-- A name that is no command's may still be an option that stood behind two dashes. -/
def unknownCommand (name : String) (rest : List String) : Except UsageError Invocation := do
  let g ← readWords programForm (name :: rest)
  if g.has "--version" then return .version
  else .error (.noSuchCommand name (similar name (forms.map Prod.fst)))

def ofWords (words : List String) : Except UsageError Invocation := do
  let g ← readWords programForm words
  if g.has "--version" then return .version
  match g.arguments with
  | [] => .error .missingCommand
  | name :: rest => match forms.lookup name with
    | some f => ofCommand name f rest
    | none => unknownCommand name rest

end Invocation
end Socks5.CommandLine
