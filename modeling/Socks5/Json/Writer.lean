import Socks5.Value

/-! Values as JSON: ASCII only, with a blank behind each comma and colon. -/
namespace Socks5.Json

def escapeUnit (n : Nat) : List Char := '\\' :: 'u' :: Text.hexDigits 4 n

/-- Characters beyond the first plane are written as a surrogate pair. -/
def escapeChar (c : Char) : List Char :=
  if c = '"' then ['\\', '"']
  else if c = '\\' then ['\\', '\\']
  else if c = '\n' then ['\\', 'n']
  else if c = '\r' then ['\\', 'r']
  else if c = '\t' then ['\\', 't']
  else if c.toNat = 8 then ['\\', 'b']
  else if c.toNat = 12 then ['\\', 'f']
  else if ' ' ≤ c ∧ c ≤ '~' then [c]
  else if c.toNat < 0x10000 then escapeUnit c.toNat
  else
    let n := c.toNat - 0x10000
    escapeUnit (0xD800 + n / 0x400) ++ escapeUnit (0xDC00 + n % 0x400)

def textLiteral (s : String) : String :=
  String.ofList ('"' :: s.toList.flatMap escapeChar ++ ['"'])

/-- Doubles as elsewhere, but for the names of the special values. -/
def floatLayout : Number.Layout := { Number.Layout.standard with infinity := "Infinity", notANumber := "NaN" }

mutual

def write : Value → String
  | .null => "null"
  | .bool true => "true"
  | .bool false => "false"
  | .int n => toString n
  | .float x => floatLayout.write x
  | .text s => textLiteral s
  | .bytes bs => textLiteral (Text.quoteBytes bs)
  | .list xs => "[" ++ ", ".intercalate (writeItems xs) ++ "]"
  | .map es => "\x7b" ++ ", ".intercalate (writeEntries es) ++ "\x7d"
  | .set xs => textLiteral (Value.set xs).shown
  | .other _ s => textLiteral s

def writeItems : List Value → List String
  | [] => []
  | v :: vs => write v :: writeItems vs

def writeEntries : List (Value × Value) → List String
  | [] => []
  | (k, v) :: es => (writeKey k ++ ": " ++ write v) :: writeEntries es

/-- Keys are texts; other scalars stand for their own text. -/
def writeKey : Value → String
  | .text s => textLiteral s
  | .null => textLiteral "null"
  | .bool b => textLiteral (if b then "true" else "false")
  | v => textLiteral v.shown

end

end Socks5.Json
