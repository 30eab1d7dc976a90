import Socks5.Number.Literal
import Socks5.Text.Upper
import Socks5.Wire.Code

/-! Reply codes as people write them: by number or by name. -/
namespace Socks5.ReplyCode

/-- A number counts in any base that has a prefix, a name in any case. A number that is no code is
tried as a name like any other text. -/
def ofSpelling? (s : String) : Option ReplyCode :=
  ((Number.literal? s.toList).bind ofCode?).orElse fun _ => ofName? (Text.upper s)

def choices : String := ", ".intercalate (all.map name)

end Socks5.ReplyCode
