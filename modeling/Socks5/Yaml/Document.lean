import Socks5.Yaml.Node

/-! The value that a document stands for. Documents hold data only: a tag that is none of the
language's own is refused. -/
namespace Socks5.Yaml

/-! ## Scalars -/

def padded (width n : Nat) : String :=
  let s := toString n
  String.ofList (List.replicate (width - s.length) '0') ++ s

def Timestamp.shown (t : Kind.Timestamp) : Value :=
  let date := s!"{t.year}, {t.month}, {t.day}"
  match t.clock with
  | none => .other "datetime.date" s!"datetime.date({date})"
  | some (h, m, s) => .other "datetime.datetime" s!"datetime.datetime({date}, {h}, {m}, {s})"

def scalarValue (k : Kind) (text : String) : Except ReadError Value :=
  let s := text.toList
  match k with
  | .null => .ok .null
  | .bool => (Kind.boolOf s).map .bool |>.mapError .scalar
  | .int => (Kind.integerOf s).map .int |>.mapError .scalar
  | .float => (Kind.floatOf s).map .float |>.mapError .scalar
  | .text => .ok (.text text)
  | .timestamp => (Kind.timestampOf s).map Timestamp.shown |>.mapError .scalar
  | .binary => match Bytes.ofBase64? s with
    | some bs => .ok (.bytes bs)
    | none => .error .malformed
  | _ => .error .malformed

/-! ## Merging -/

/-- The entries of a mapping with those of the mappings that it takes over in front, so that its own
win. -/
def merged? : Nat → List (Node × Node) → Option (List (Node × Node))
  | 0, _ => none
  | fuel + 1, es => do
    let taken ← es.mapM fun (k, v) => match k with
      | .scalar tag _ =>
        if tag ≠ Kind.merge.tag then some []
        else match v with
          | .mapping _ es => merged? fuel es
          | .sequence _ xs => do
            let parts ← xs.mapM fun x => match x with
              | .mapping _ es => merged? fuel es
              | _ => none
            return parts.reverse.flatten
          | _ => none
      | _ => some []
    let own := es.filterMap fun (k, v) => match k with
      | .scalar tag text =>
        if tag = Kind.merge.tag then none
        else if tag = Kind.default.tag then some (.scalar textTag text, v)
        else some (k, v)
      | _ => some (k, v)
    return taken.flatten ++ own

/-! ## Values -/

/-- Keys that count as the same: numbers by their value, and truth as a number. -/
def sameKey (a b : Value) : Bool :=
  match a.toInt?, b.toInt?, a, b with
  | some m, some n, _, _ => m = n
  | some m, none, _, .float y => Number.toRat? y = some m
  | none, some n, .float x, _ => Number.toRat? x = some n
  | none, none, .float x, .float y => x == y
  | _, _, a, b => a == b

/-- Puts an entry in; of entries with one key the last counts, in the place of the first. -/
def putKey (k v : Value) : List (Value × Value) → List (Value × Value)
  | [] => [(k, v)]
  | (k', v') :: es => if sameKey k' k then (k', v) :: es else (k', v') :: putKey k v es

/-- How deep mappings may take over others. -/
def mergeDepth : Nat := 1000

/-- The entry of a mapping that has just one. -/
def single? : Node → Option (Node × Node)
  | .mapping _ [e] => some e
  | _ => none

/-- An error, and how deep in a document it is. -/
structure Met where
  depth : Nat
  error : ReadError
  deriving DecidableEq, Repr

/-- Both results, or the error that is met first: a document is read from the top down, level by level. -/
def together (a : Except Met α) (b : Except Met β) : Except Met (α × β) :=
  match a, b with
  | .ok a, .ok b => .ok (a, b)
  | .error e, .ok _ => .error e
  | .ok _, .error e => .error e
  | .error e, .error f => .error (if f.depth < e.depth then f else e)

mutual

/-- The value of a node that stands in something at this depth. What a collection holds is looked at one level
further down, however deep that is, and so is whether its node can be one at all. -/
def value (depth : Nat) : Nat → Node → Except Met Value
  | 0, _ => .error ⟨depth, .malformed⟩
  | fuel + 1, n =>
    let refused (k? : Option Kind) : Met := ⟨if k?.any Kind.isCollection then depth + 1 else depth, .malformed⟩
    match n with
    | .within => .ok (.other "dict" "\x7b...\x7d")
    | .scalar tag text => match Kind.ofTag? tag with
      | some k => if k.isCollection then .error (refused k) else (scalarValue k text).mapError (⟨depth, ·⟩)
      | none => .error (refused none)
    | .sequence tag xs => match Kind.ofTag? tag with
      | some .sequence => (items (depth + 1) fuel xs).map .list
      | some .pairs | some .orderedMap => (pairs (depth + 1) fuel xs).map fun n =>
          .list (List.replicate n (.other "tuple" ""))
      | k? => .error (refused k?)
    | .mapping tag es => match Kind.ofTag? tag, merged? mergeDepth es with
      | some .mapping, some es => (entries (depth + 1) fuel [] es).map .map
      | some .set, some es => (entries (depth + 1) fuel [] es).map fun es => .set (es.map Prod.fst)
      | k?, _ => .error (refused k?)
termination_by structural fuel => fuel

def items (depth : Nat) : Nat → List Node → Except Met (List Value)
  | 0, _ => .error ⟨depth, .malformed⟩
  | _ + 1, [] => .ok []
  | fuel + 1, n :: ns => (together (value depth fuel n) (items depth fuel ns)).map fun (v, vs) => v :: vs

/-- How many pairs there are, each a mapping with one entry. -/
def pairs (depth : Nat) : Nat → List Node → Except Met Nat
  | 0, _ => .error ⟨depth, .malformed⟩
  | _ + 1, [] => .ok 0
  | fuel + 1, n :: ns =>
    match single? n with
    | none => .error ⟨depth, .malformed⟩
    | some (k, v) =>
      (together (together (value depth fuel k) (value depth fuel v)) (pairs depth fuel ns)).map fun (_, n) => n + 1

/-- The entries of a mapping, behind those that were seen. No collection can be a key. -/
def entries (depth : Nat) : Nat → List (Value × Value) → List (Node × Node) → Except Met (List (Value × Value))
  | 0, _, _ => .error ⟨depth, .malformed⟩
  | _ + 1, seen, [] => .ok seen
  | fuel + 1, seen, (.scalar tag text, v) :: es =>
    let entry := together (value depth fuel (.scalar tag text)) (value depth fuel v)
    let seen := match entry with
      | .ok (k, v) => putKey k v seen
      | .error _ => seen
    (together entry (entries depth fuel seen es)).map Prod.snd
  | _ + 1, _, _ => .error ⟨depth, .malformed⟩

end

/-- The value of a text's only document. -/
def read (s : String) : Except ReadError Value := do
  match ← required (Reading.document? (← tokens s.toList)) with
  | none => return .null
  | some n => (value 0 (2 * s.length + mergeDepth) n).mapError Met.error

end Socks5.Yaml
