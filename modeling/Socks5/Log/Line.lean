import Socks5.Json.Writer
import Socks5.Log.Entry
import Socks5.Settings.Basic

/-! Entries as lines: as JSON, or in columns for whoever reads along. -/
namespace Socks5.Log

/-- The codes that set off the columns, and the least widths of two of them. -/
structure Style where
  faint : String := ""
  bright : String := ""
  name : String := ""
  key : String := ""
  value : String := ""
  reset : String := ""
  levelWidth : Nat := 0
  eventWidth : Nat := 0
  deriving Repr

def escape (code : String) : String := String.singleton (Char.ofNat 27) ++ "[" ++ code ++ "m"

def Style.coloured : Style where
  faint := escape "2"
  bright := escape "1"
  name := escape "1" ++ escape "34"
  key := escape "36"
  value := escape "35"
  reset := escape "0"

def Style.plain : Style where
  levelWidth := 9
  eventWidth := 30

namespace Style

def padded (width : Nat) (s : String) : String := s ++ String.ofList (fillUp ' ' (width - s.length))

/-- A text is quoted where a reader could take it for more than one value. -/
def shownValue : Value → String
  | .text s =>
    if s.toList.any fun c => [' ', '\t', '=', '\r', '\n', '"', '\''].contains c then Text.quote s else s
  | v => v.shown

def column (st : Style) (name : String) (v : Value) : String :=
  let s := v.display
  match name with
  | "timestamp" => st.faint ++ s ++ st.reset
  | "level" => "[" ++ padded st.levelWidth s ++ st.reset ++ "]"
  | "event" => st.bright ++ padded st.eventWidth s ++ st.reset
  | _ => "[" ++ st.reset ++ st.name ++ s ++ st.reset ++ "]" ++ st.reset

def columnNames : List String := ["timestamp", "level", "event", "logger", "logger_name"]

def field (st : Style) (f : String × Value) : String :=
  st.key ++ f.1 ++ st.reset ++ "=" ++ st.value ++ shownValue f.2 ++ st.reset

/-- The columns that there are, then the other fields by name. -/
def line (st : Style) (es : Entry) : String :=
  let columns := columnNames.filterMap fun name => (es.lookup name).map (st.column name)
  let others := (es.filter fun f => !columnNames.contains f.1).mergeSort fun a b => decide (a.1 ≤ b.1)
  let s := " ".intercalate (columns ++ others.map st.field)
  String.ofList (s.toList.reverse.dropWhile (· = ' ')).reverse

end Style

def jsonLine (es : Entry) : String := Json.write (.map (es.map fun (k, v) => (.text k, v)))

def line (f : LogFormat) (es : Entry) : String :=
  match f with
  | .json => jsonLine es
  | .console => Style.coloured.line es

end Socks5.Log
