import Socks5.Log.Event
import Socks5.Log.Template
import Socks5.Text.Upper
import Socks5.Text.Utf8

/-! What is written for one statement of a log: named values in the order in which they came up. A
name keeps its place when its value changes. -/
namespace Socks5.Log

abbrev Entry := List (String × Value)

namespace Entry

def put (name : String) (v : Value) : Entry → Entry
  | [] => [(name, v)]
  | (k, old) :: es => if k = name then (name, v) :: es else (k, old) :: put name v es

def putAll (more es : Entry) : Entry := more.foldl (fun es f => put f.1 f.2 es) es

def drop (name : String) (es : Entry) : Entry := es.filter (·.1 ≠ name)

/-- Byte strings are written as the text that they encode. -/
def decoded (es : Entry) : Entry := es.map fun (k, v) => match v with
  | .bytes bs => (k, .text (Text.decodeUtf8 bs))
  | v => (k, v)

end Entry

/-- A statement made to a logger, with the fields that were bound to the logger before. -/
structure Statement where
  logger : String
  level : Level
  /-- The name by which the logger is called. -/
  call : String := level.name
  /-- A text, as a rule; its places are filled with the arguments. -/
  event : Value
  args : List Value := []
  bound : Entry := []
  fields : Entry := []
  deriving Repr

inductive StatementError where
  | fill (e : FillError)
  | noEvent
  | eventTwice (call : String)
  | notTemplate (kind args : String)
  deriving DecidableEq, Repr

def StatementError.message : StatementError → String
  | fill e => e.message
  | noEvent => Text.quote "event"
  | eventTwice call => s!"BoundLogger.{call}() got multiple values for argument 'event'"
  | notTemplate kind args => s!"unsupported operand type(s) for %=: '{kind}' and '{args}'"

namespace Statement

/-- The event stands apart from the fields, which may not name another. -/
def namesOneEvent (s : Statement) : Bool := (s.fields.lookup "event").isNone

/-- The event with its places filled. -/
def filled (s : Statement) : Except StatementError Value :=
  match s.args, s.event with
  | [], v => .ok v
  | args, .text t => ((fill t args).map Value.text).mapError .fill
  | _, .null => .error .noEvent
  | args, v => .error (.notTemplate v.kind (if (Supply.ofArgs args).byKey.isSome then "dict" else "tuple"))

/-- The names that ask for the place in the code, which is not written here. -/
def placeNames : List String := ["stack_info", "exc_info"]

def entry (time : String) (s : Statement) : Except StatementError Entry := do
  let event ← s.filled
  let es := Entry.putAll s.fields s.bound
  let es := if event == .null then es else es.put "event" event
  let es := ((es.put "logger" (.text s.logger)).put "level" (.text (Text.upper s.level.name))).put
    "timestamp" (.text time)
  return (placeNames.foldl (fun es name => es.drop name) es).decoded

end Statement

end Socks5.Log

namespace Socks5.Event

/-- An event of the program itself as a statement. -/
def statement (e : Event) : Log.Statement where
  logger := e.source.name
  level := e.level
  event := .text e.text
  fields := e.fields

/-- The entry for an event where no log was set up. -/
def entry (time : String) (e : Event) : Log.Entry :=
  Log.Entry.putAll
    [("event", .text e.text), ("level", .text e.level.name), ("timestamp", .text time)] e.fields

end Socks5.Event
