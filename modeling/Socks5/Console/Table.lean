import Socks5.Console.Text
import Socks5.Number.Rounded

/-! Tables with a title and a head. Columns are as wide as their widest cells, and narrower where the
console is too narrow for that: the widest columns give way first. -/
namespace Socks5.Console

/-- All texts may have markup, but for the title. -/
structure Table where
  title : String
  head : List String
  rows : List (List String)
  deriving Repr

/-! ## Widths -/

def total (ws : List Nat) : Nat := ws.foldl (· + ·) 0

/-- Line feeds and the separators of files, groups and records end a line. -/
def isLineEnd (c : Char) : Bool := c = '\n' || (0x1C ≤ c.toNat && c.toNat ≤ 0x1E)

/-- The columns that a text takes without being broken. -/
def naturalWidth (s : List Char) : Nat :=
  let ls := Text.split '\n' (s.map fun c => if isLineEnd c then '\n' else c)
  (ls.map Text.width).foldl max 0

/-- A cell has a blank on both sides. -/
def cellWidth (limit : Nat) (s : List Char) : Nat := min (naturalWidth s + 2) limit

def columnWidth (limit : Nat) (cells : List (List Char)) : Nat :=
  (cells.map (cellWidth limit)).foldl max 1

/-- Takes an excess off some widths in equal shares, but from none more than `most`. -/
def takeShares (excess most shares : Nat) : List (Nat × Bool) → List Nat
  | [] => []
  | (w, false) :: ws => w :: takeShares excess most shares ws
  | (w, true) :: ws =>
    let n := min most (Number.roundDiv excess shares)
    (w - n) :: takeShares (excess - n) most (shares - 1) ws

/-- Takes columns off the widest ones until the rest are as wide, or the excess is gone. -/
def levelWidest (limit : Nat) (ws : List Nat) : List Nat :=
  let widest := ws.foldl max 0
  let next := (ws.filter (· ≠ widest)).foldl max 0
  let excess := total ws - limit
  takeShares excess (min excess (widest - next)) (ws.count widest) (ws.map fun w => (w, w = widest))

def collapseFrom (limit : Nat) : Nat → List Nat → List Nat
  | 0, ws => ws
  | fuel + 1, ws => if total ws ≤ limit then ws else collapseFrom limit fuel (levelWidest limit ws)

/-- Each round makes another column one of the widest, or ends with the excess gone. -/
def collapse (limit : Nat) (ws : List Nat) : List Nat := collapseFrom limit (ws.length + limit) ws

/-- Between the columns and around them stand lines. -/
def columnWidths (width : Nat) (columns : List (List (List Char))) : List Nat :=
  let limit := width - (columns.length + 1)
  collapse limit (columns.map (columnWidth limit))

/-! ## Rows -/

/-- Horizontal lines: what they begin with, run on, are parted by and end with. -/
def border (l m r : Char) (line : Char) (ws : List Nat) : List Char :=
  l :: (List.intercalate [m] (ws.map fun w => List.replicate w line)) ++ [r]

def cellLines (width : Nat) (s : List Char) : List (List Char) :=
  (wrap .ellipsis (width - 2) s).map fun l => ' ' :: cropped (width - 2) l ++ [' ']

/-- The lines of a row; cells with fewer lines than others are filled up below. -/
def rowLines (edge : Char) (ws : List Nat) (cells : List (List Char)) : List (List Char) :=
  let columns := List.zipWith cellLines ws cells
  let height := (columns.map List.length).foldl max 1
  (List.range height).map fun i =>
    let parts := List.zipWith (fun w column => column.getD i (blanks w)) ws columns
    edge :: (List.intercalate [edge] parts) ++ [edge]

namespace Table

def cells (t : Table) : Except MarkupError (List (List (List Char))) :=
  (t.head :: t.rows).mapM (·.mapM plainText)

def columns (rows : List (List (List Char))) : List (List (List Char)) :=
  (List.range ((rows.head?.getD []).length)).map fun i => rows.map fun row => row.getD i []

def print (width : Nat) (t : Table) : Except MarkupError String := do
  let rows ← t.cells
  let ws := columnWidths width (columns rows)
  let full := total ws + ws.length + 1
  let title := (wrap .fold full t.title.toList).map (centre full)
  let head := (rows.take 1).flatMap (rowLines '┃' ws)
  let body := (rows.drop 1).flatMap (rowLines '│' ws)
  return unlines (title ++ [border '┏' '┳' '┓' '━' ws] ++ head ++ [border '┡' '╇' '┩' '━' ws] ++ body ++
    [border '└' '┴' '┘' '─' ws])

end Table
end Socks5.Console
