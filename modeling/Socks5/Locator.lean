import Socks5.Text.Quoted
import Socks5.Text.Split

/-! Finding what a path of the form `module:name` stands for in a library of modules. -/
namespace Socks5

/-- What a module holds under a name: something to call, by its own name, or something else. -/
inductive Attribute where
  | callable (name : String)
  | inert
  deriving DecidableEq, Repr

structure LibraryModule where
  name : String
  isPackage : Bool := false
  attributes : List (String × Attribute)
  deriving DecidableEq, Repr

abbrev Library := List LibraryModule

inductive LocateError where
  | emptyName
  | relative (name : String)
  | noModule (name : String)
  | notPackage (name parent : String)
  | noAttribute (moduleName name : String)
  | notCallable (path : String)
  deriving DecidableEq, Repr

def LocateError.message : LocateError → String
  | emptyName => "Empty module name"
  | relative name =>
    s!"the 'package' argument is required to perform a relative import for {Text.quote name}"
  | noModule name => s!"No module named {Text.quote name}"
  | notPackage name parent =>
    s!"No module named {Text.quote name}; {Text.quote parent} is not a package"
  | noAttribute m name => s!"module {Text.quote m} has no attribute {Text.quote name}"
  | notCallable path => s!"Relay {path} is not callable"

namespace Library

def named? (name : String) (lib : Library) : Option LibraryModule := List.find? (·.name = name) lib

/-- The module below another, part by part. Only packages have modules below them. -/
def below (lib : Library) (m : LibraryModule) : List String → Except LocateError LibraryModule
  | [] => .ok m
  | part :: parts =>
    let name := m.name ++ "." ++ part
    match lib.named? name with
    | some n => below lib n parts
    | none => .error (if m.isPackage then .noModule name else .notPackage name m.name)

/-- The module of a dotted name, however many parts that has. How deep a search for modules may go in practice is
left out here. -/
def load (name : String) (lib : Library) : Except LocateError LibraryModule :=
  if name = "" then .error .emptyName
  else if name.startsWith "." then .error (.relative name)
  else match (Text.split '.' name.toList).map String.ofList with
    | top :: parts => match lib.named? top with
      | some m => below lib m parts
      | none => .error (.noModule top)
    | [] => .error .emptyName

/-- The callable that a path stands for, by its own name. The path is parted at its first colon. -/
def locate (path : String) (lib : Library) : Except LocateError String := do
  let (moduleName, held) := Text.cut ':' path.toList
  let name := String.ofList (held.getD [])
  let m ← lib.load (String.ofList moduleName)
  match m.attributes.lookup name with
  | some (.callable own) => .ok own
  | some .inert => .error (.notCallable path)
  | none => .error (.noAttribute m.name name)

end Library
end Socks5
