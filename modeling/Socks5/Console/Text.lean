import Socks5.Console.Markup
import Socks5.Console.Wrap

/-! Texts with markup as lines on a console. -/
namespace Socks5.Console

/-- What is shown of a text, broken at the width. -/
def textLines (width : Nat) (s : String) : Except MarkupError (List (List Char)) :=
  (plainText s).map (wrap .fold width)

/-- Lines joined for output, each with its end. -/
def unlines (ls : List (List Char)) : String :=
  String.ofList (ls.flatMap fun l => l ++ ['\n'])

/-- Writes a text with markup. -/
def print (width : Nat) (s : String) : Except MarkupError String := (textLines width s).map unlines

end Socks5.Console
