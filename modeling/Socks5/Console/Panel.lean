import Socks5.Console.Text

/-! Texts in a frame as wide as the console. -/
namespace Socks5.Console

def rule (n : Nat) : List Char := List.replicate n '─'

/-- The upper edge, with the title in the middle of it. -/
def panelTop (width : Nat) (title : String) : List Char :=
  let title := truncate .fold (width - 4) (' ' :: title.toList ++ [' '])
  let spare := width - 4 - Text.width title
  ['╭', '─'] ++ rule (spare / 2) ++ title ++ rule (spare - spare / 2) ++ ['─', '╮']

def panel (width : Nat) (title body : String) : Except MarkupError String :=
  (textLines (width - 4) body).map fun ls =>
    unlines ([panelTop width title] ++ ls.map (fun l => ['│', ' '] ++ pad (width - 4) l ++ [' ', '│']) ++
      [['╰'] ++ rule (width - 2) ++ ['╯']])

end Socks5.Console
