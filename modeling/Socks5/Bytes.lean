/-! Byte strings: hexadecimal text and big-endian words. -/
namespace Socks5

abbrev Bytes := List UInt8

namespace Bytes

/-! ## Hexadecimal -/

def hexDigit (n : Nat) : Char :=
  if n < 10 then Char.ofNat (48 + n) else Char.ofNat (87 + n)

def hexByte (b : UInt8) : List Char := [hexDigit (b.toNat / 16), hexDigit (b.toNat % 16)]

def toHex (bs : Bytes) : String := String.ofList (bs.flatMap hexByte)

def toHexSpaced (bs : Bytes) : String := " ".intercalate (bs.map fun b => String.ofList (hexByte b))

def hexValue? (c : Char) : Option Nat :=
  if '0' ≤ c ∧ c ≤ '9' then some (c.toNat - 48)
  else if 'a' ≤ c ∧ c ≤ 'f' then some (c.toNat - 87)
  else if 'A' ≤ c ∧ c ≤ 'F' then some (c.toNat - 55)
  else none

/-- The blanks of ASCII: space, tab, line feed, vertical tab, form feed, carriage return. -/
def isAsciiBlank (c : Char) : Bool := c = ' ' || (9 ≤ c.toNat && c.toNat ≤ 13)

/-- Reads pairs of digits with blanks between the pairs. An error is the place of the character
that is no digit, which for a lone last digit is the end of the text. -/
def readPairs (pos : Nat) : List Char → Except Nat Bytes
  | [] => .ok []
  | [c] => if isAsciiBlank c then .ok [] else
      .error (if (hexValue? c).isSome then pos + 1 else pos)
  | c :: d :: rest =>
    if isAsciiBlank c then readPairs (pos + 1) (d :: rest)
    else match hexValue? c, hexValue? d with
      | none, _ => .error pos
      | some _, none => .error (pos + 1)
      | some hi, some lo => do
        let bs ← readPairs (pos + 2) rest
        return UInt8.ofNat (16 * hi + lo) :: bs

/-- A character outside ASCII anywhere is reported before anything else. -/
def ofHex (s : List Char) : Except Nat Bytes :=
  match s.findIdx? (128 ≤ ·.toNat) with
  | some i => .error i
  | none => readPairs 0 s

/-! ## Base 64 -/

def base64Value? (c : Char) : Option Nat :=
  if 'A' ≤ c ∧ c ≤ 'Z' then some (c.toNat - 65)
  else if 'a' ≤ c ∧ c ≤ 'z' then some (c.toNat - 71)
  else if '0' ≤ c ∧ c ≤ '9' then some (c.toNat + 4)
  else if c = '+' then some 62
  else if c = '/' then some 63
  else none

/-- Reads digits in groups of four, of which the last may be filled up with pads; what follows such a group
does not count, and neither does any other character. `place` is the place in the group, `left` holds the bits
that are left over of the last digit, and `pads` counts the pads since then. -/
def readBase64 (place left pads : Nat) : List Char → Option Bytes
  | [] => if place = 0 then some [] else none
  | c :: s =>
    if c = '=' then
      if place < 2 then readBase64 place left pads s
      else if 4 ≤ place + pads + 1 then some []
      else readBase64 place left (pads + 1) s
    else match base64Value? c with
      | none => readBase64 place left pads s
      | some d =>
        match place with
        | 0 => readBase64 1 d 0 s
        | 1 => (readBase64 2 (d % 16) 0 s).map (UInt8.ofNat (4 * left + d / 16) :: ·)
        | 2 => (readBase64 3 (d % 4) 0 s).map (UInt8.ofNat (16 * left + d / 4) :: ·)
        | _ => (readBase64 0 0 0 s).map (UInt8.ofNat (64 * left + d) :: ·)

/-- A text outside ASCII holds no bytes. -/
def ofBase64? (s : List Char) : Option Bytes :=
  if s.all (·.toNat < 128) then readBase64 0 0 0 s else none

theorem hexValue?_hexDigit : ∀ n : Nat, n < 16 → hexValue? (hexDigit n) = some n := by decide

theorem isAsciiBlank_hexDigit : ∀ n : Nat, n < 16 → isAsciiBlank (hexDigit n) = false := by decide

theorem readPairs_hexBytes (bs : Bytes) (pos : Nat) :
    readPairs pos (bs.flatMap hexByte) = .ok bs := by
  induction bs generalizing pos with
  | nil => rfl
  | cons b bs ih =>
    have hb := b.toNat_lt
    have hi : b.toNat / 16 < 16 := by omega
    have lo : b.toNat % 16 < 16 := by omega
    have join : 16 * (b.toNat / 16) + b.toNat % 16 = b.toNat := by omega
    simp [hexByte, readPairs, isAsciiBlank_hexDigit _ hi, hexValue?_hexDigit _ hi,
      hexValue?_hexDigit _ lo, ih, join, bind, Except.bind, pure, Except.pure]

/-! ## Words -/

/-- The two bytes of a number below 65536, high byte first. -/
def ofWord (n : Nat) : Bytes := [UInt8.ofNat (n / 256), UInt8.ofNat (n % 256)]

/-- The number that the bytes spell, high byte first. -/
def toNat (bs : Bytes) : Nat := bs.foldl (fun n b => 256 * n + b.toNat) 0

@[simp] theorem length_ofWord (n : Nat) : (ofWord n).length = 2 := rfl

theorem toNat_ofWord {n : Nat} (h : n < 65536) : toNat (ofWord n) = n := by
  simp [toNat, ofWord]; omega

theorem ofWord_toNat (a b : UInt8) : ofWord (toNat [a, b]) = [a, b] := by
  have ha := a.toNat_lt
  have hb := b.toNat_lt
  simp only [toNat, ofWord, List.foldl_cons, List.foldl_nil]
  rw [show (256 * (256 * 0 + a.toNat) + b.toNat) / 256 = a.toNat by omega,
    show (256 * (256 * 0 + a.toNat) + b.toNat) % 256 = b.toNat by omega]
  simp

end Bytes
end Socks5
