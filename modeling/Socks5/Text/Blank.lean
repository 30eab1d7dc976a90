import Socks5.Bytes

/-! Blank characters. Three sets are in use: the six of ASCII, the property of Unicode, and that
property with the four information separators. -/
namespace Socks5.Text

/-- The characters with the Unicode property of white space. -/
def isBlank (c : Char) : Bool :=
  Bytes.isAsciiBlank c || [0x85, 0xA0, 0x1680, 0x2028, 0x2029, 0x202F, 0x205F, 0x3000].contains c.toNat
    || (0x2000 ≤ c.toNat && c.toNat ≤ 0x200A)

/-- White space together with the separators of files, groups, records and units. -/
def isSpacing (c : Char) : Bool := isBlank c || (0x1C ≤ c.toNat && c.toNat ≤ 0x1F)

def trimBy (p : Char → Bool) (s : List Char) : List Char :=
  ((s.dropWhile p).reverse.dropWhile p).reverse

end Socks5.Text
