import Socks5.Bytes

/-! UTF-8 read from bytes that may be ill-formed: each longest piece that begins a well-formed
character and breaks off is read as one replacement character. -/
namespace Socks5.Text

def replacement : Char := Char.ofNat 0xFFFD

/-- For a first byte: how many bytes follow, the bits it brings, and the bounds of the second byte.
The bounds leave out overlong forms, surrogates and what lies beyond the last code point. -/
def leadByte? (b : Nat) : Option (Nat × Nat × Nat × Nat) :=
  if 0xC2 ≤ b ∧ b ≤ 0xDF then some (1, b - 0xC0, 0x80, 0xBF)
  else if b = 0xE0 then some (2, 0, 0xA0, 0xBF)
  else if b = 0xED then some (2, 0xD, 0x80, 0x9F)
  else if 0xE1 ≤ b ∧ b ≤ 0xEF then some (2, b - 0xE0, 0x80, 0xBF)
  else if b = 0xF0 then some (3, 0, 0x90, 0xBF)
  else if 0xF1 ≤ b ∧ b ≤ 0xF3 then some (3, b - 0xF0, 0x80, 0xBF)
  else if b = 0xF4 then some (3, 4, 0x80, 0x8F)
  else none

/-- What the reader holds inside a character: the bytes to come, the bits so far, and the bounds of
the next byte. -/
structure Partial where
  more : Nat
  bits : Nat
  low : Nat
  high : Nat
  deriving DecidableEq, Repr

def beginChar (b : Nat) : List Char × Option Partial :=
  if b < 0x80 then ([Char.ofNat b], none)
  else match leadByte? b with
    | some (more, bits, low, high) => ([], some ⟨more, bits, low, high⟩)
    | none => ([replacement], none)

def decodeFrom (state : Option Partial) : Bytes → List Char
  | [] => if state.isSome then [replacement] else []
  | b :: rest =>
    match state with
    | none =>
      let (out, next) := beginChar b.toNat
      out ++ decodeFrom next rest
    | some p =>
      if p.low ≤ b.toNat ∧ b.toNat ≤ p.high then
        let bits := p.bits * 64 + (b.toNat - 0x80)
        if p.more = 1 then Char.ofNat bits :: decodeFrom none rest
        else decodeFrom (some ⟨p.more - 1, bits, 0x80, 0xBF⟩) rest
      else
        let (out, next) := beginChar b.toNat
        replacement :: out ++ decodeFrom next rest

def decodeUtf8 (bs : Bytes) : String := String.ofList (decodeFrom none bs)

/-- The text of bytes that are well-formed. -/
def ofUtf8? (bs : Bytes) : Option String := String.fromUTF8? ⟨bs.toArray⟩

end Socks5.Text
