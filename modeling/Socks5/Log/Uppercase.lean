import Socks5.Text.Upper
import Socks5.Value

/-! Level names in capitals. -/
namespace Socks5.Log

/-- A level that is no text has no capitals. -/
structure NotText where
  kind : String
  deriving DecidableEq, Repr

def NotText.message (e : NotText) : String := s!"'{e.kind}' object has no attribute 'upper'"

def upperValue : Value → Except NotText Value
  | .text s => .ok (.text (Text.upper s))
  | v => .error ⟨v.kind⟩

/-- An entry's level is put into capitals; an entry without one stays as it is. -/
def uppercaseLevel (entry : List (String × Value)) : Except NotText (List (String × Value)) :=
  entry.mapM fun (k, v) => if k = "level" then (upperValue v).map (k, ·) else .ok (k, v)

end Socks5.Log
