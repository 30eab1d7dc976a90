import Socks5.CommandLine.Similar
import Socks5.Text.Quoted
import Socks5.Text.Split

/-! Arguments of a command line: options by name, with or without a value, and what remains. -/
namespace Socks5.CommandLine

/-! ## What can be wrong -/

inductive UsageError where
  | missingCommand
  | noSuchCommand (name : String) (near : List String)
  | noSuchOption (name : String) (near : List String)
  | needsValue (option : String)
  | takesNoValue (option : String)
  | missingArgument (name : String)
  | extraArguments (args : List String)
  /-- A value that its option or its command cannot use. -/
  | badValue (option : List String) (reason : String)
  deriving DecidableEq, Repr

namespace UsageError

def quotedList (mark : String) (names : List String) : String := mark.intercalate (names.map Text.quote)

def nearOptions : List String → String
  | [] => ""
  | [name] => s!" Did you mean {name}?"
  | names =>
    let sorted := names.mergeSort fun a b => decide (a ≤ b)
    " (Possible options: " ++ ", ".intercalate sorted ++ ")"

def message : UsageError → String
  | missingCommand => "Missing command."
  | noSuchCommand name [] => s!"No such command {Text.quote name}."
  | noSuchCommand name near =>
    s!"No such command {Text.quote name}. Did you mean " ++ quotedList ", " near ++ "?"
  | noSuchOption name near => s!"No such option: {name}" ++ nearOptions near
  | needsValue option => s!"Option {Text.quote option} requires an argument."
  | takesNoValue option => s!"Option {Text.quote option} does not take a value."
  | missingArgument name => s!"Missing argument '{name}'."
  | extraArguments args => "Got unexpected extra argument(s) (" ++ " ".intercalate args ++ ")"
  | badValue [] reason => s!"Invalid value: {reason}"
  | badValue option reason => "Invalid value for " ++ quotedList " / " option ++ s!": {reason}"

end UsageError

/-! ## Options -/

/-- An option, which goes by the first of its names. -/
structure OptionForm where
  names : List String
  takesValue : Bool
  deriving DecidableEq, Repr

/-- What a command takes. -/
structure Form where
  options : List OptionForm := []
  arguments : List String := []
  /-- Whether options may still come behind an argument. -/
  mixed : Bool := true
  deriving Repr

def helpOption : OptionForm := ⟨["--help"], false⟩

namespace Form

def allOptions (f : Form) : List OptionForm := f.options ++ [helpOption]

def option? (f : Form) (name : String) : Option OptionForm :=
  f.allOptions.find? fun o => o.names.contains name

/-- The names with two dashes. -/
def longNames (f : Form) : List String :=
  (f.allOptions.flatMap (·.names)).filter (·.startsWith "--")

end Form

/-- What is given: options by their first names, with their values, and the other arguments. -/
structure Given where
  options : List (String × Option String) := []
  arguments : List String := []
  deriving DecidableEq, Repr

namespace Given

def has (g : Given) (name : String) : Bool := g.options.any (·.1 = name)

/-- Of several values the last one counts. -/
def value? (g : Given) (name : String) : Option String :=
  ((g.options.filter (·.1 = name)).getLast?).bind Prod.snd

end Given

/-- What one word comes to: options that are complete, and one that waits for its value. -/
structure WordResult where
  settled : List (String × Option String) := []
  waiting : Option (OptionForm × String) := none

def OptionForm.key (o : OptionForm) : String := o.names.headD ""

/-- A long option, perhaps with a value behind an equals sign. -/
def readLong (o : OptionForm) (name : String) (value : Option String) : Except UsageError WordResult :=
  match o.takesValue, value with
  | true, some v => .ok { settled := [(o.key, some v)] }
  | true, none => .ok { waiting := some (o, name) }
  | false, some _ => .error (.takesNoValue name)
  | false, none => .ok { settled := [(o.key, none)] }

/-- Options of one letter each behind one dash. The first that takes a value has the rest for it. -/
def readShort (f : Form) : List Char → Except UsageError WordResult
  | [] => .ok {}
  | c :: cs =>
    let name := String.ofList ['-', c]
    match f.option? name with
    | none => .error (.noSuchOption name [])
    | some o =>
      if o.takesValue then
        .ok (if cs = [] then { waiting := some (o, name) }
          else { settled := [(o.key, some (String.ofList cs))] })
      else (readShort f cs).map fun r => { r with settled := (o.key, none) :: r.settled }

/-- A word that begins with a dash. -/
def readOption (f : Form) (word : String) : Except UsageError WordResult :=
  let (name, value) := Text.cut '=' word.toList
  let name := String.ofList name
  match (if f.longNames.contains name then f.option? name else none) with
  | some o => readLong o name (value.map String.ofList)
  | none =>
    if word.startsWith "--" then .error (.noSuchOption name (similar name f.longNames))
    else readShort f (word.toList.drop 1)

def isOption (word : String) : Bool := word.startsWith "-" && word ≠ "-"

/-- Reads words until an argument ends the options, if it does. Two dashes always do. -/
def readWords (f : Form) : List String → Except UsageError Given
  | [] => .ok {}
  | word :: rest =>
    if word = "--" then .ok { arguments := rest }
    else if isOption word then
      match readOption f word with
      | .error e => .error e
      | .ok ⟨settled, none⟩ =>
        (readWords f rest).map fun g => { g with options := settled ++ g.options }
      | .ok ⟨settled, some (o, name)⟩ =>
        match rest with
        | [] => .error (.needsValue name)
        | v :: rest =>
          (readWords f rest).map fun g => { g with options := settled ++ (o.key, some v) :: g.options }
    else if f.mixed then
      (readWords f rest).map fun g => { g with arguments := word :: g.arguments }
    else .ok { arguments := word :: rest }

/-- The arguments by their names, when there are as many as there should be. -/
def bindArguments : List String → List String → Except UsageError (List (String × String))
  | [], [] => .ok []
  | [], extra => .error (.extraArguments extra)
  | name :: _, [] => .error (.missingArgument name)
  | name :: names, a :: as => (bindArguments names as).map ((name, a) :: ·)

end Socks5.CommandLine
