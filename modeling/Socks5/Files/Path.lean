import Socks5.Text.Split

/-! Paths as texts: doubled slashes and single dots fall away, double dots stay. Exactly two slashes at
the front are a root of their own. -/
namespace Socks5

structure Path where
  root : String := ""
  parts : List String := []
  deriving DecidableEq, Repr

namespace Path

def rootOf (s : List Char) : String :=
  match (s.takeWhile (· = '/')).length with
  | 0 => ""
  | 2 => "//"
  | _ => "/"

def ofString (s : String) : Path where
  root := rootOf s.toList
  parts := ((Text.split '/' s.toList).filter fun p => p ≠ [] ∧ p ≠ ['.']).map String.ofList

def text (p : Path) : String :=
  if p.root = "" ∧ p.parts = [] then "." else p.root ++ "/".intercalate p.parts

def isAbsolute (p : Path) : Bool := p.root ≠ ""

/-- A path as seen from another. -/
def append (p q : Path) : Path := if q.isAbsolute then q else { p with parts := p.parts ++ q.parts }

instance : Append Path := ⟨append⟩

def parent (p : Path) : Path := { p with parts := p.parts.dropLast }

end Path
end Socks5
