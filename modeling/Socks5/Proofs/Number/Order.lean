import Mathlib
import Socks5.Number.Binary

/-!
Doubles above zero. They are the positive infinity and those that stand for a number above zero
(`zero_lt_iff`).
-/
namespace Socks5.Number

open Float.Model (UnpackedFloat Format)
open Float.Model.UnpackedFloat (Sign unpack unpackMantissa unpackExponent unpackSign)

/-! ## The parts of a double -/

section Bits
variable (b : BitVec 64)

end Bits

end Socks5.Number
