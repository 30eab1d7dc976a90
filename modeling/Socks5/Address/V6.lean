import Socks5.Address.V4

/-! IPv6 addresses. The text has no leading zeros, and `::` for the longest run of two or more zero
groups, the first such run if there are several. Reading also takes a dotted quad for the last two
groups and a scope behind a percent sign. -/
namespace Socks5

structure IPv6 where
  groups : List UInt16
  scope : Option String := none
  length_eq : groups.length = 8
  deriving DecidableEq, Repr

namespace IPv6

/-! ## Bytes -/

def groupBytes (g : UInt16) : Bytes := Bytes.ofWord g.toNat

def bytes (x : IPv6) : Bytes := x.groups.flatMap groupBytes

/-- The address of sixteen bytes, high byte first; bytes that are missing count as zero. -/
def ofBytes (bs : Bytes) : IPv6 where
  groups := (List.range 8).map fun i =>
    UInt16.ofNat (Bytes.toNat [bs.getD (2 * i) 0, bs.getD (2 * i + 1) 0])
  length_eq := by simp

def ofNat (n : Nat) : IPv6 where
  groups := (List.range 8).map fun i => UInt16.ofNat (n >>> (16 * (7 - i)))
  length_eq := by simp

/-! ## Writing -/

def groupText (g : UInt16) : List Char := Nat.toDigits 16 g.toNat

/-- The length of the run of zeros that a list begins with. -/
def zeroRun : List UInt16 → Nat
  | [] => 0
  | g :: gs => if g = 0 then zeroRun gs + 1 else 0

/-- Start and length of the longest run of zeros, the first of several. -/
def longestRun : List UInt16 → Nat × Nat
  | [] => (0, 0)
  | g :: gs =>
    let (start, length) := longestRun gs
    if length ≤ zeroRun (g :: gs) then (0, zeroRun (g :: gs)) else (start + 1, length)

def joinGroups (gs : List UInt16) : List Char := Text.join ':' (gs.map groupText)

def groupsText (gs : List UInt16) : List Char :=
  let (start, length) := longestRun gs
  if length ≤ 1 then joinGroups gs
  else joinGroups (gs.take start) ++ ':' :: ':' :: joinGroups (gs.drop (start + length))

def text (x : IPv6) : List Char :=
  groupsText x.groups ++ match x.scope with
    | some s => '%' :: s.toList
    | none => []

/-! ## Reading -/

def hexDigits? (s : List Char) : Option Nat :=
  s.foldlM (fun n c => (Bytes.hexValue? c).map (16 * n + ·)) 0

def group? (s : List Char) : Option UInt16 :=
  if s ≠ [] ∧ s.length ≤ 4 then (hexDigits? s).map UInt16.ofNat else none

/-- Groups parted by colons, the last two of which may be a dotted quad. -/
def groupList? : List (List Char) → Option (List UInt16)
  | [] => some []
  | [s] =>
    if s.contains '.' then (IPv4.parse? s).map fun x =>
      [UInt16.ofNat (Bytes.toNat [x.a, x.b]), UInt16.ofNat (Bytes.toNat [x.c, x.d])]
    else (group? s).map ([·])
  | s :: rest => do return (← group? s) :: (← groupList? rest)

/-- The groups on one side of `::`, where there may be none. -/
def side? (s : List Char) : Option (List UInt16) :=
  if s = [] then some [] else groupList? (Text.split ':' s)

/-- What stands before and after the first `::`. -/
def cutDouble : List Char → Option (List Char × List Char)
  | ':' :: ':' :: s => some ([], s)
  | c :: s => (cutDouble s).map fun (before, after) => (c :: before, after)
  | [] => none

def groups? (s : List Char) : Option (List UInt16) :=
  match cutDouble s with
  | none => groupList? (Text.split ':' s)
  | some (before, after) => do
    let hi ← if before.contains '.' then none else side? before
    let lo ← side? after
    if hi.length + lo.length ≤ 7 then
      some (hi ++ List.replicate (8 - hi.length - lo.length) 0 ++ lo)
    else none

def parse? (s : List Char) : Option IPv6 := do
  let (body, scope) := Text.cut '%' s
  let gs ← groups? body
  match scope with
  | none => if h : gs.length = 8 then some ⟨gs, none, h⟩ else none
  | some z =>
    if h : z ≠ [] ∧ '%' ∉ z ∧ '/' ∉ z ∧ gs.length = 8 then some ⟨gs, some (String.ofList z), h.2.2.2⟩
    else none

end IPv6
end Socks5
