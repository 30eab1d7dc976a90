/-! Sets of characters given by ranges of code points. -/
namespace Socks5.Text

/-- Ranges of code points, both ends included. -/
abbrev Ranges := List (Nat × Nat)

def Ranges.holds (r : Ranges) (c : Char) : Bool :=
  r.any fun (lo, hi) => lo ≤ c.toNat && c.toNat ≤ hi

end Socks5.Text
