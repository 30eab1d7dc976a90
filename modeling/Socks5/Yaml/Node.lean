import Socks5.Yaml.Tag
import Socks5.Yaml.Token

/-! Documents as trees, before it is known what the scalars stand for. -/
namespace Socks5.Yaml

inductive Node where
  | scalar (tag text : String)
  | sequence (tag : String) (items : List Node)
  | mapping (tag : String) (entries : List (Node × Node))
  /-- An alias inside of the node that it stands for. -/
  | within
  deriving Inhabited, Repr

def sequenceTag : String := Kind.space ++ "seq"

def mappingTag : String := Kind.space ++ "map"

def textTag : String := Kind.space ++ "str"

def Kind.tag (k : Kind) : String :=
  Kind.space ++ ((named.find? fun e => e.2 = k).map Prod.fst).getD "str"

/-- What is at hand while a document is read: the tokens to come, the tag handles, and the anchors,
which stand for nothing as long as their node is being read. -/
structure Reading where
  tokens : List Token
  handles : List (String × String) := []
  anchors : List (String × Option Node) := []

namespace Reading

def usualHandles : List (String × String) := [("!", "!"), ("!!", Kind.space)]

def rest (r : Reading) : Reading := { r with tokens := r.tokens.tail }

def sees (t : Token) (r : Reading) : Bool := r.tokens.head? = some t

def seesAny (ts : List Token) (r : Reading) : Bool := r.tokens.head?.any ts.contains

def setAnchor (name : Option String) (n : Option Node) (r : Reading) : Reading :=
  match name with
  | some a => { r with anchors := (a, n) :: r.anchors }
  | none => r

/-- Anchor and tag of a node, in any order. -/
def properties (r : Reading) : Option String × Option (Option String × String) × Reading :=
  match r.tokens with
  | .anchor a :: .tag h s :: ts => (some a, some (h, s), { r with tokens := ts })
  | .tag h s :: .anchor a :: ts => (some a, some (h, s), { r with tokens := ts })
  | .anchor a :: ts => (some a, none, { r with tokens := ts })
  | .tag h s :: ts => (none, some (h, s), { r with tokens := ts })
  | _ => (none, none, r)

/-- The full tag; a handle has to be known. -/
def fullTag? (tag : Option (Option String × String)) (r : Reading) : Option (Option String) :=
  match tag with
  | none => some none
  | some (none, s) => some (some s)
  | some (some h, s) => (r.handles.lookup h).map fun start => some (start ++ s)

def scalarTag (tag : Option String) (text : String) (isPlain : Bool) : String :=
  match tag with
  | none => if isPlain then (Kind.ofPlain text.toList).tag else textTag
  | some "!" => (Kind.ofPlain text.toList).tag
  | some t => t

def collectionTag (usual : String) : Option String → String
  | none | some "!" => usual
  | some t => t

def empty : Node := .scalar Kind.null.tag ""

def document : List Token := [.documentStart, .documentEnd]

mutual

/-- A node. A list of items may stand at the indentation of the key that it belongs to, with no
token that opens it; a block may not stand inside of a flow collection. -/
def node? (block bare : Bool) : Nat → Reading → Option (Node × Reading)
  | 0, _ => none
  | fuel + 1, r =>
    match r.tokens with
    | .alias a :: _ => (r.anchors.lookup a).map fun n => (n.getD .within, r.rest)
    | _ => do
      let (anchor, tag, r) := r.properties
      let tag ← r.fullTag? tag
      if anchor.any fun a => (r.anchors.lookup a).isSome then none
      let opened := r.setAnchor anchor none
      let (n, r) ← match r.tokens with
        | .scalar s isPlain :: _ => some (Node.scalar (scalarTag tag s isPlain) s, opened.rest)
        | .flowSequenceStart :: _ => do
          let (xs, r) ← flowItems? true fuel opened.rest
          pure (Node.sequence (collectionTag sequenceTag tag) xs, r)
        | .flowMappingStart :: _ => do
          let (es, r) ← flowEntries? true fuel opened.rest
          pure (Node.mapping (collectionTag mappingTag tag) es, r)
        | .sequenceStart :: _ => do
          if !block then none
          let (xs, r) ← items? fuel opened.rest
          if !r.sees .blockEnd then none
          pure (Node.sequence (collectionTag sequenceTag tag) xs, r.rest)
        | .mappingStart :: _ => do
          if !block then none
          let (es, r) ← entries? fuel opened.rest
          if !r.sees .blockEnd then none
          pure (Node.mapping (collectionTag mappingTag tag) es, r.rest)
        | t =>
          if bare ∧ t.head? = some .item then do
            let (xs, r) ← items? fuel opened
            pure (Node.sequence (collectionTag sequenceTag tag) xs, r)
          else if anchor.isSome ∨ tag.isSome then
            some (.scalar (scalarTag tag "" (tag.isNone || tag = some "!")) "", opened)
          else none
      return (n, r.setAnchor anchor (some n))

/-- The items of a block. -/
def items? : Nat → Reading → Option (List Node × Reading)
  | 0, _ => none
  | fuel + 1, r => do
    if !r.sees .item then return ([], r)
    let r := r.rest
    let (x, r) ← if r.seesAny [.item, .key, .value, .blockEnd] then some (empty, r)
      else node? true false fuel r
    let (xs, r) ← items? fuel r
    return (x :: xs, r)

/-- The entries of a block. -/
def entries? : Nat → Reading → Option (List (Node × Node) × Reading)
  | 0, _ => none
  | fuel + 1, r => do
    if !r.sees .key then return ([], r)
    let absent (r : Reading) : Bool := r.seesAny [.key, .value, .blockEnd]
    let r := r.rest
    let (k, r) ← if absent r then some (empty, r) else node? true true fuel r
    let (v, r) ←
      if r.sees .value then
        if absent r.rest then some (empty, r.rest) else node? true true fuel r.rest
      else some (empty, r)
    let (es, r) ← entries? fuel r
    return ((k, v) :: es, r)

/-- The items of a flow sequence; an entry on its own is a mapping. -/
def flowItems? (first : Bool) : Nat → Reading → Option (List Node × Reading)
  | 0, _ => none
  | fuel + 1, r => do
    if r.sees .flowSequenceEnd then return ([], r.rest)
    let r ← if first then some r else if r.sees .comma then some r.rest else none
    if r.sees .key then
      let absent (r : Reading) : Bool := r.seesAny [.comma, .flowSequenceEnd]
      let r := r.rest
      let (k, r) ← if absent r ∨ r.sees .value then some (empty, r) else node? false false fuel r
      let (v, r) ←
        if r.sees .value then
          if absent r.rest then some (empty, r.rest) else node? false false fuel r.rest
        else some (empty, r)
      let (xs, r) ← flowItems? false fuel r
      return (.mapping mappingTag [(k, v)] :: xs, r)
    else if r.sees .flowSequenceEnd then return ([], r.rest)
    else
      let (x, r) ← node? false false fuel r
      let (xs, r) ← flowItems? false fuel r
      return (x :: xs, r)

/-- The entries of a flow mapping; a node on its own is a key. -/
def flowEntries? (first : Bool) : Nat → Reading → Option (List (Node × Node) × Reading)
  | 0, _ => none
  | fuel + 1, r => do
    if r.sees .flowMappingEnd then return ([], r.rest)
    let r ← if first then some r else if r.sees .comma then some r.rest else none
    if r.sees .key then
      let absent (r : Reading) : Bool := r.seesAny [.comma, .flowMappingEnd]
      let r := r.rest
      let (k, r) ← if absent r ∨ r.sees .value then some (empty, r) else node? false false fuel r
      let (v, r) ←
        if r.sees .value then
          if absent r.rest then some (empty, r.rest) else node? false false fuel r.rest
        else some (empty, r)
      let (es, r) ← flowEntries? false fuel r
      return ((k, v) :: es, r)
    else if r.sees .flowMappingEnd then return ([], r.rest)
    else
      let (k, r) ← node? false false fuel r
      let (es, r) ← flowEntries? false fuel r
      return ((k, empty) :: es, r)

end

/-! ## Documents -/

/-- The directives before a document. A version may be given once, a handle too. -/
def directives? (version : Bool) (handles : List (String × String)) : List Token →
    Option (List (String × String) × List Token)
  | .versionDirective major _ :: ts =>
    if version ∨ major ≠ 1 then none else directives? true handles ts
  | .tagDirective h s :: ts =>
    if (handles.lookup h).isSome then none else directives? version (handles ++ [(h, s)]) ts
  | .otherDirective :: ts => directives? version handles ts
  | ts => some (handles ++ usualHandles, ts)

def startsDocument : List Token → Bool
  | .versionDirective _ _ :: _ | .tagDirective _ _ :: _ | .otherDirective :: _
  | .documentStart :: _ => true
  | _ => false

/-- The content of a document and what follows it. -/
def content? (handles : List (String × String)) (ts : List Token) : Option (Node × List Token) := do
  let (n, r) ← node? true false (4 * ts.length + 4) { tokens := ts, handles }
  return (n, r.tokens)

/-- The only document of a stream, if it has one. -/
def document? (ts : List Token) : Option (Option Node) := do
  if ts = [] then return none
  let (n, ts) ←
    if startsDocument ts then do
      let (handles, ts) ← directives? false [] ts
      if ts.head? ≠ some .documentStart then none
      let ts := ts.tail
      if ts = [] ∨ startsDocument ts ∨ ts.head? = some .documentEnd then pure (empty, ts)
      else content? handles ts
    else content? usualHandles ts
  if ts.dropWhile (· = .documentEnd) = [] then some (some n) else none

end Reading
end Socks5.Yaml
