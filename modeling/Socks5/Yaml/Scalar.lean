import Socks5.Number.Literal
import Socks5.Yaml.Cursor
import Socks5.Yaml.Tag

/-! The scalars of a document: plain, between quotes, and in blocks. -/
namespace Socks5.Yaml

/-- Line breaks with spaces around them; the breaks are kept. -/
def breaksBetween (blank : Char → Bool) : Nat → Cursor → List Char × Cursor
  | 0, c => ([], c)
  | fuel + 1, c =>
    let c := c.skipWhile blank
    match c.lineBreak with
    | ([], _) => ([], c)
    | (b, c) =>
      let (bs, c) := breaksBetween blank fuel c
      (b ++ bs, c)

/-- What a line break and the empty lines behind it stand for: one break alone is a space. -/
def foldBreaks (first more : List Char) : List Char :=
  if first ≠ ['\n'] then first ++ more else if more = [] then [' '] else more

/-! ## Plain scalars -/

/-- The characters that flow collections are written with. -/
def flowMarks : List Char := [',', '[', ']', Char.ofNat 0x7B, Char.ofNat 0x7D]

def endsPlain (inFlow : Bool) : List Char → Bool
  | [] => true
  | c :: r =>
    isWideGap (some c)
      || (c = ':' && (isWideGap r.head? || (inFlow && flowMarks.contains (r.headD ' '))))
      || (inFlow && (c = '?' || flowMarks.contains c))

def plainRun (inFlow : Bool) : List Char → List Char
  | [] => []
  | c :: r => if endsPlain inFlow (c :: r) then [] else c :: plainRun inFlow r

/-- The spaces or breaks behind a piece of a plain scalar, and whether there was a break. Nothing
stands for the end of the scalar. -/
def plainGap (c : Cursor) : Option (List Char) × Bool × Cursor :=
  let (spaces, c) := c.span (· = ' ')
  match c.lineBreak with
  | ([], _) => (if spaces = [] then none else some spaces, false, c)
  | (b, c) =>
    if c.atDocumentMark then (none, true, c)
    else go b c.rest.length [] c
where
  go (first : List Char) : Nat → List Char → Cursor → Option (List Char) × Bool × Cursor
    | 0, more, c => (some (foldBreaks first more), true, c)
    | fuel + 1, more, c =>
      let c := c.skipSpaces
      match c.lineBreak with
      | ([], _) => (some (foldBreaks first more), true, c)
      | (b, c) => if c.atDocumentMark then (none, true, c) else go first fuel (more ++ b) c

/-- A plain scalar, and whether a line break follows its last piece. -/
def plainFrom (inFlow : Bool) (indent : Int) : Nat → List Char → Cursor → List Char × Bool × Cursor
  | 0, _, c => ([], false, c)
  | fuel + 1, gap, c =>
    let piece := if c.peek = some '#' then [] else plainRun inFlow c.rest
    if piece = [] then ([], false, c)
    else
      let (next, broke, c) := plainGap (c.skip piece.length)
      match next with
      | none => (gap ++ piece, broke, c)
      | some next =>
        if c.peek = some '#' ∨ (!inFlow ∧ (c.column : Int) < indent) then (gap ++ piece, broke, c)
        else
          let (more, broke', c) := plainFrom inFlow indent fuel next c
          (gap ++ piece ++ more, if more = [] then broke else broke', c)

def plain (inFlow : Bool) (indent : Int) (c : Cursor) : List Char × Bool × Cursor :=
  plainFrom inFlow indent (c.rest.length + 1) [] c

/-! ## Quoted scalars -/

def escapes : List (Char × Nat) :=
  [('0', 0), ('a', 7), ('b', 8), ('t', 9), ('\t', 9), ('n', 0x0A), ('v', 0x0B), ('f', 0x0C),
   ('r', 0x0D), ('e', 0x1B), (' ', 0x20), ('"', 0x22), ('\\', 0x5C), ('/', 0x2F), ('N', 0x85),
   ('_', 0xA0), ('L', 0x2028), ('P', 0x2029)]

/-- Whether a mark of a document stands at the start of one of the next lines that are empty. -/
def marksWithin : Nat → Cursor → Bool
  | 0, _ => false
  | fuel + 1, c =>
    c.atDocumentMark ||
      match (c.skipWhile fun c => c = ' ' || c = '\t').lineBreak with
      | ([], _) => false
      | (_, c) => marksWithin fuel c

def numericEscapes : List (Char × Nat) := [('x', 2), ('u', 4), ('U', 8)]

/-- What follows a backslash. The number of half a surrogate pair, which no text here can hold, gives the
replacement character; a number beyond the last character is of no use. -/
def escape (c : Cursor) : Except ReadError (List Char × Cursor) := do
  let x ← required c.peek
  match escapes.lookup x, numericEscapes.lookup x with
  | some n, _ => return ([Char.ofNat n], c.next)
  | none, some width =>
    let c := c.next
    let ds ← required ((c.rest.take width).mapM Bytes.hexValue?)
    if ds.length < width then throw .malformed
    let n := Number.ofDigits 16 ds
    if 0x10FFFF < n then throw (.scalar (.noCharacter n))
    return ([if n.isValidChar then Char.ofNat n else Char.ofNat 0xFFFD], c.skip width)
  | none, none =>
    match c.lineBreak with
    | ([], _) => throw .malformed
    | (_, c) =>
      if marksWithin (c.rest.length + 1) c then throw .malformed
      return breaksBetween (fun c => c = ' ' || c = '\t') (c.rest.length + 1) c

/-- Spaces inside of quotes: they stay, but around a line break they are folded. -/
def quotedGap? (c : Cursor) : Option (List Char × Cursor) := do
  let blank (c : Char) : Bool := c = ' ' || c = '\t'
  let (spaces, c) := c.span blank
  if c.rest = [] then none
  match c.lineBreak with
  | ([], _) => some (spaces, c)
  | (b, c) =>
    if marksWithin (c.rest.length + 1) c then none
    let (more, c) := breaksBetween blank (c.rest.length + 1) c
    some (foldBreaks b more, c)

def isQuotedBody (c : Char) : Bool :=
  !(c = '\'' || c = '"' || c = '\\' || isWideGap (some c))

def quotedFrom (quote : Char) : Nat → Cursor → Except ReadError (List Char × Cursor)
  | 0, _ => .error .malformed
  | fuel + 1, c => do
    let double := quote = '"'
    let x ← required c.peek
    if x = quote then
      if !double ∧ c.peekAt 1 = some '\'' then
        let (s, c) ← quotedFrom quote fuel (c.skip 2)
        return ('\'' :: s, c)
      else return ([], c.next)
    else
      let (piece, c) ←
        if isQuotedBody x then .ok (c.span isQuotedBody)
        else if isWideGap (some x) then required (quotedGap? c)
        else if double ∧ x = '\\' then escape c.next
        else .ok ([x], c.next)
      let (s, c) ← quotedFrom quote fuel c
      return (piece ++ s, c)

/-- A scalar between quotes; the cursor stands on the first. -/
def quoted (c : Cursor) : Except ReadError (List Char × Cursor) := do
  quotedFrom (← required c.peek) (c.rest.length + 1) c.next

/-! ## Block scalars -/

/-- What is done with the line breaks at the end of a block scalar. -/
inductive Chomping where
  | clip
  | strip
  | keep
  deriving DecidableEq, Repr

def chomping? (c : Option Char) : Option Chomping :=
  match c with
  | some '+' => some .keep
  | some '-' => some .strip
  | _ => none

/-- The signs behind the mark of a block scalar, in any order: chomping, and an indentation. -/
def blockHeader? (c : Cursor) : Option ((Chomping × Option Nat) × Cursor) := do
  let chomping (c : Cursor) : Option Chomping × Cursor :=
    match chomping? c.peek with
    | some h => (some h, c.next)
    | none => (none, c)
  let digit (c : Cursor) : Option (Option Nat × Cursor) :=
    match c.peek with
    | some d =>
      if d = '0' then none
      else if d.isDigit then some (some (d.toNat - 48), c.next)
      else some (none, c)
    | none => some (none, c)
  let (first, c) := chomping c
  let (increment, c) ← digit c
  let (second, c) := if first.isSome ∨ increment.isNone then (none, c) else chomping c
  if isGap c.peek then
    let c ← c.endOfLine?
    some (((first <|> second).getD .clip, increment), c)
  else none

/-- The empty lines before a block scalar, and the deepest indentation among them and its first
line. -/
def blockIndentation : Nat → Nat → Cursor → List Char × Nat × Cursor
  | 0, deepest, c => ([], deepest, c)
  | fuel + 1, deepest, c =>
    let c := c.skipSpaces
    let deepest := max deepest c.column
    match c.lineBreak with
    | ([], _) => ([], deepest, c)
    | (b, c) =>
      let (bs, deepest, c) := blockIndentation fuel deepest c
      (b ++ bs, deepest, c)

def skipIndent (indent : Nat) (c : Cursor) : Cursor :=
  c.skip ((c.rest.take (indent - c.column)).takeWhile (· = ' ')).length

/-- Empty lines, each of at most the indentation. -/
def blockBreaks (indent : Nat) : Nat → Cursor → List Char × Cursor
  | 0, c => ([], c)
  | fuel + 1, c =>
    let c := skipIndent indent c
    match c.lineBreak with
    | ([], _) => ([], c)
    | (b, c) =>
      let (bs, c) := blockBreaks indent fuel c
      (b ++ bs, c)

def isBlankStart (c : Cursor) : Bool := c.peek = some ' ' || c.peek = some '\t'

/-- The lines of a block scalar: the text before the last break, that break, and the breaks behind
it. -/
def blockLines (folded : Bool) (indent : Nat) : Nat → List Char → Cursor →
    List Char × List Char × List Char × Cursor
  | 0, before, c => ([], [], before, c)
  | fuel + 1, before, c =>
    let solid := !isBlankStart c
    let (line, c) := c.span (!isBreak ·)
    let (b, c) := c.lineBreak
    let (bs, c) := blockBreaks indent (c.rest.length + 1) c
    if c.column = indent ∧ c.rest ≠ [] then
      let joint :=
        if folded ∧ b = ['\n'] ∧ solid ∧ !isBlankStart c then (if bs = [] then [' '] else []) else b
      let (text, last, breaks, c) := blockLines folded indent fuel bs c
      (before ++ line ++ joint ++ text, last, breaks, c)
    else (before ++ line, b, bs, c)

/-- A block scalar behind its mark. -/
def block? (folded : Bool) (parent : Int) (c : Cursor) : Option (List Char × Cursor) := do
  let ((chomping, increment), c) ← blockHeader? c
  let least := (max (parent + 1) 1).toNat
  let (before, indent, c) := match increment with
    | none =>
      let (bs, deepest, c) := blockIndentation (c.rest.length + 1) 0 c
      (bs, max least deepest, c)
    | some n =>
      let indent := least + n - 1
      let (bs, c) := blockBreaks indent (c.rest.length + 1) c
      (bs, indent, c)
  let (text, last, breaks, c) :=
    if c.column = indent ∧ c.rest ≠ [] then blockLines folded indent (c.rest.length + 1) before c
    else ([], [], before, c)
  match chomping with
  | .strip => some (text, c)
  | .clip => some (text ++ last, c)
  | .keep => some (text ++ last ++ breaks, c)

end Socks5.Yaml
