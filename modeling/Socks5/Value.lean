import Socks5.Number.Layout
import Socks5.Text.Quoted

/-! Values whose kind is known only when they are read: what a document, a variable or a log field
holds. -/
namespace Socks5

inductive Value where
  | null
  | bool (b : Bool)
  | int (n : Int)
  | float (x : Float)
  | text (s : String)
  | bytes (bs : Bytes)
  | list (items : List Value)
  /-- Values in no order. -/
  | set (items : List Value)
  | map (entries : List (Value × Value))
  /-- A value of a kind that nothing here looks into, such as a date, with its kind and its text. -/
  | other (kind : String) (shown : String)
  deriving Inhabited, Repr

namespace Value

mutual

/-- Whether two values are of one kind and hold the same. -/
def same : Value → Value → Bool
  | null, null => true
  | bool a, bool b => a == b
  | int m, int n => m == n
  | float x, float y => x == y
  | text s, text t => s == t
  | bytes bs, bytes cs => bs == cs
  | list xs, list ys => sameList xs ys
  | set xs, set ys => sameList xs ys
  | map es, map fs => sameEntries es fs
  | other k s, other l t => k == l && s == t
  | _, _ => false

def sameList : List Value → List Value → Bool
  | [], [] => true
  | v :: vs, w :: ws => same v w && sameList vs ws
  | _, _ => false

def sameEntries : List (Value × Value) → List (Value × Value) → Bool
  | [], [] => true
  | (k, v) :: es, (l, w) :: fs => same k l && same v w && sameEntries es fs
  | _, _ => false

end

instance : BEq Value := ⟨same⟩

@[simp] theorem text_beq_text (s t : String) : (text s == text t) = (s == t) := by
  show same (text s) (text t) = _
  rw [same]

/-- The name of a value's kind in messages. -/
def kind : Value → String
  | null => "NoneType"
  | bool _ => "bool"
  | int _ => "int"
  | float _ => "float"
  | text _ => "str"
  | bytes _ => "bytes"
  | list _ => "list"
  | set _ => "set"
  | map _ => "dict"
  | other k _ => k

mutual

/-- A value written out so that its kind shows: texts are quoted. -/
def shown : Value → String
  | null => "None"
  | bool true => "True"
  | bool false => "False"
  | int n => toString n
  | float x => Number.floatText x
  | text s => Text.quote s
  | bytes bs => Text.quoteBytes bs
  | list xs => "[" ++ ", ".intercalate (shownList xs) ++ "]"
  | set [] => "set()"
  | set xs => "\x7b" ++ ", ".intercalate (shownList xs) ++ "\x7d"
  | map es => "\x7b" ++ ", ".intercalate (shownEntries es) ++ "\x7d"
  | other _ s => s

def shownList : List Value → List String
  | [] => []
  | v :: vs => shown v :: shownList vs

def shownEntries : List (Value × Value) → List String
  | [] => []
  | (k, v) :: es => (shown k ++ ": " ++ shown v) :: shownEntries es

end

/-- A value as text: a text stands for itself, all else is written out. -/
def display : Value → String
  | text s => s
  | v => v.shown

/-- Several values written out in round brackets. -/
def tuple : List Value → String
  | [v] => "(" ++ v.shown ++ ",)"
  | vs => "(" ++ ", ".intercalate (shownList vs) ++ ")"

/-- Empty values, zeros and `false` count as absent. -/
def isAbsent : Value → Bool
  | null => true
  | bool b => !b
  | int n => n = 0
  | float x => x == 0.0
  | text s => s = ""
  | bytes bs => bs.isEmpty
  | list xs | set xs => xs.isEmpty
  | map es => es.isEmpty
  | other _ _ => false

def ofOption (f : α → Value) : Option α → Value
  | some a => f a
  | none => null

/-- The number that a value counts as where truth counts as one. -/
def toInt? : Value → Option Int
  | int n => some n
  | bool b => some (if b then 1 else 0)
  | _ => none

/-- Whether a value counts as this number, be it an integer, a double or a truth. -/
def isNumber (n : Int) : Value → Bool
  | float x => Number.toRat? x = some n
  | v => v.toInt? = some n

end Value
end Socks5
