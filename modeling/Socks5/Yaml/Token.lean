import Socks5.Text.Utf8
import Socks5.Yaml.Scalar

/-! The tokens of a document. Indentation shows as tokens that open and close blocks. A token that
turns out to be the key of an entry is only known as one when its colon comes; until then its place is
kept, so that a token can be put in front of it. -/
namespace Socks5.Yaml

inductive Token where
  | versionDirective (major minor : Nat)
  | tagDirective (handle start : String)
  | otherDirective
  | documentStart
  | documentEnd
  | sequenceStart
  | mappingStart
  | blockEnd
  | flowSequenceStart
  | flowSequenceEnd
  | flowMappingStart
  | flowMappingEnd
  | item
  | comma
  | key
  | value
  | alias (name : String)
  | anchor (name : String)
  | tag (handle : Option String) (suffix : String)
  | scalar (text : String) (isPlain : Bool)
  deriving DecidableEq, Repr

/-- A token that may be a key: its place among the tokens, and where in the text it begins. It has to
be one where nothing else could stand. -/
structure KeyPlace where
  token : Nat
  required : Bool
  index : Nat
  line : Nat
  column : Nat
  deriving DecidableEq, Repr

structure Lexer where
  cursor : Cursor
  tokens : Array Token := #[]
  /-- The place of a possible key in the current collection, and in those around it. -/
  place : Option KeyPlace := none
  outer : List (Option KeyPlace) := []
  indent : Int := -1
  indents : List Int := []
  /-- A key may begin here. -/
  keyAllowed : Bool := true
  deriving Repr

namespace Lexer

def inFlow (s : Lexer) : Bool := s.outer ≠ []

def emit (t : Token) (s : Lexer) : Lexer := { s with tokens := s.tokens.push t }

def advance (n : Nat) (s : Lexer) : Lexer := { s with cursor := s.cursor.skip n }

/-! ## Places of keys -/

/-- A key ends on the line on which it begins, and is not too long. -/
def isStale (c : Cursor) (k : KeyPlace) : Bool := k.line ≠ c.line || 1024 < c.index - k.index

def dropStale (s : Lexer) : Option Lexer :=
  let fresh (k : Option KeyPlace) : Option KeyPlace := k.filter (!isStale s.cursor ·)
  if (s.place :: s.outer).any (·.any fun k => k.required && isStale s.cursor k) then none
  else some { s with place := fresh s.place, outer := s.outer.map fresh }

def dropPlace (s : Lexer) : Option Lexer :=
  if s.place.any (·.required) then none else some { s with place := none }

def savePlace (s : Lexer) : Option Lexer :=
  let c := s.cursor
  if s.keyAllowed then do
    let s ← s.dropPlace
    let required := !s.inFlow && s.indent = c.column
    some { s with place := some ⟨s.tokens.size, required, c.index, c.line, c.column⟩ }
  else some s

/-! ## Indentation -/

/-- Closes the blocks that are deeper than the column. -/
def unwind (column : Int) (s : Lexer) : Lexer := if s.inFlow then s else go s.indents s
where
  go : List Int → Lexer → Lexer
    | [], s => s
    | i :: is, s =>
      if column < s.indent then go is { s.emit .blockEnd with indent := i, indents := is } else s

/-- Opens a block at the column, unless one is open there. -/
def openBlock (column : Nat) (start : Token) (s : Lexer) : Lexer :=
  if s.indent < column then
    { s.emit start with indents := s.indent :: s.indents, indent := column }
  else s

/-! ## Single tokens -/

/-- A token of so many characters behind which a key may or may not begin. -/
def mark (t : Token) (length : Nat) (keyAllowed : Bool) (s : Lexer) : Lexer :=
  (s.emit t).advance length |> fun s => { s with keyAllowed }

def documentMark (t : Token) (s : Lexer) : Option Lexer := do
  let s ← (s.unwind (-1)).dropPlace
  return s.mark t 3 false

def openFlow (t : Token) (s : Lexer) : Option Lexer := do
  let s ← s.savePlace
  return { s.mark t 1 true with outer := s.place :: s.outer, place := none }

def closeFlow (t : Token) (s : Lexer) : Option Lexer := do
  let s ← s.dropPlace
  match s.outer with
  | k :: ks => some { s.mark t 1 false with place := k, outer := ks }
  | [] => none

def flowComma (s : Lexer) : Option Lexer := do return (← s.dropPlace).mark .comma 1 true

/-- A sign that stands for an entry of its own, and opens a block of entries if none is open. -/
def blockSign (start t : Token) (keyAllowed : Bool) (s : Lexer) : Option Lexer := do
  if !s.inFlow ∧ !s.keyAllowed then none
  let s := if s.inFlow then s else s.openBlock s.cursor.column start
  return (← s.dropPlace).mark t 1 keyAllowed

/-- A colon makes a key of what stands before it, or begins a value without one. -/
def colon (s : Lexer) : Option Lexer :=
  match s.place with
  | some k =>
    let tokens := s.tokens.insertIdx! k.token .key
    let s := { s with tokens, place := none }
    let s : Lexer := if !s.inFlow ∧ s.indent < (k.column : Int) then
        { s with
          tokens := s.tokens.insertIdx! k.token .mappingStart
          indents := s.indent :: s.indents
          indent := k.column }
      else s
    some (s.mark .value 1 false)
  | none => s.blockSign .mappingStart .value (!s.inFlow)

/-! ## Names, tags and directives -/

def isUri (c : Char) : Bool :=
  c.isAlphanum || ("-;/?:@&=+$,_.!~*'()[]%".toList).contains c

/-- A text with percent escapes for bytes. -/
def unescape? : Nat → List Char → Option Bytes
  | 0, _ => none
  | _, [] => some []
  | fuel + 1, '%' :: s =>
    match s with
    | a :: b :: r => do
      let n := 16 * (← Bytes.hexValue? a) + (← Bytes.hexValue? b)
      return UInt8.ofNat n :: (← unescape? fuel r)
    | _ => none
  | fuel + 1, c :: s => do return UInt8.ofNat c.toNat :: (← unescape? fuel s)

def uri? (c : Cursor) : Option (String × Cursor) := do
  let (s, c) := c.span isUri
  if s = [] then none
  let bs ← unescape? (s.length + 1) s
  return (← Text.ofUtf8? bs, c)

/-- A handle between exclamation marks, or a single mark. -/
def handle? (c : Cursor) : Option (String × Cursor) := do
  if c.peek ≠ some '!' then none
  let (word, d) := c.next.span isWord
  if d.peek = some '!' then some ("!" ++ String.ofList word ++ "!", d.next)
  else if word = [] ∧ c.peekAt 1 = some ' ' then some ("!", c.next)
  else none

def name? (c : Cursor) : Option (String × Cursor) := do
  let (word, c) := c.next.span isWord
  if word ≠ [] ∧ (isWideGap c.peek ∨ (c.peek.any ("?:,]%@`\x7d".toList).contains)) then
    some (String.ofList word, c)
  else none

def tag? (c : Cursor) : Option (Token × Cursor) := do
  let (t, c) ←
    if c.peekAt 1 = some '<' then do
      let (suffix, c) ← uri? (c.skip 2)
      if c.peek ≠ some '>' then none
      pure (Token.tag none suffix, c.next)
    else if isWideGap (c.peekAt 1) then pure (Token.tag none "!", c.next)
    else do
      let ahead := c.next.rest.takeWhile fun x => !isGap (some x)
      let (handle, c) ← if ahead.contains '!' then handle? c else some ("!", c.next)
      let (suffix, c) ← uri? c
      pure (Token.tag (some handle) suffix, c)
  if isGap c.peek then some (t, c) else none

def number? (c : Cursor) : Option (Nat × Cursor) := do
  let (ds, c) := c.span Char.isDigit
  if ds = [] then none else some (Number.ofDigits 10 (ds.map fun d => d.toNat - 48), c)

def directive? (c : Cursor) : Option (Token × Cursor) := do
  let (name, c) := c.next.span isWord
  if name = [] ∨ !isGap c.peek then none
  let (t, c) ←
    if name = "YAML".toList then do
      let (major, c) ← number? c.skipSpaces
      if c.peek ≠ some '.' then none
      let (minor, c) ← number? c.next
      if isGap c.peek then pure (Token.versionDirective major minor, c) else none
    else if name = "TAG".toList then do
      let (handle, c) ← handle? c.skipSpaces
      if c.peek ≠ some ' ' then none
      let (start, c) ← uri? c.skipSpaces
      if isGap c.peek then pure (Token.tagDirective handle start, c) else none
    else pure (Token.otherDirective, c.skipWhile (!isBreak ·))
  let c ← c.endOfLine?
  return (t, c)

/-! ## Reading on -/

/-- A token that may be a key. -/
def atom (read : Cursor → Option (Token × Cursor)) (s : Lexer) : Option Lexer := do
  let s ← s.savePlace
  let (t, c) ← read s.cursor
  return { s.emit t with cursor := c, keyAllowed := false }

def directive (s : Lexer) : Option Lexer := do
  let s ← (s.unwind (-1)).dropPlace
  let (t, c) ← directive? s.cursor
  return { s.emit t with cursor := c, keyAllowed := false }

def quotedScalar (s : Lexer) : Except ReadError Lexer := do
  let s ← required s.savePlace
  let (text, c) ← quoted s.cursor
  return { s.emit (.scalar (String.ofList text) false) with cursor := c, keyAllowed := false }

def blockScalar (folded : Bool) (s : Lexer) : Option Lexer := do
  let s ← s.dropPlace
  let (text, c) ← block? folded s.indent s.cursor.next
  return { s.emit (.scalar (String.ofList text) false) with cursor := c, keyAllowed := true }

def plainScalar (s : Lexer) : Option Lexer := do
  let s ← s.savePlace
  let (text, broke, c) := plain s.inFlow (s.indent + 1) s.cursor
  return { s.emit (.scalar (String.ofList text) true) with cursor := c, keyAllowed := broke }

/-- Whether a plain scalar can begin here. -/
def beginsPlain (s : Lexer) (c : Char) : Bool :=
  let next := !isWideGap (s.cursor.peekAt 1)
  if c = '-' then next
  else if c = '?' || c = ':' then next && !s.inFlow
  else !isWideGap (some c) && !("#&*!|>'\"%@`".toList ++ flowMarks).contains c

/-- Skips spaces, comments and line breaks to the next token. -/
def toToken : Nat → Lexer → Lexer
  | 0, s => s
  | fuel + 1, s =>
    let c := s.cursor.skipSpaces
    let c := if c.peek = some '#' then c.skipWhile (!isBreak ·) else c
    match c.lineBreak with
    | ([], _) => { s with cursor := c }
    | (_, c) => toToken fuel { s with cursor := c, keyAllowed := s.keyAllowed || !s.inFlow }

/-- The next token, unless it is a scalar between quotes; nothing for what can begin none. -/
def unquoted? (c : Char) (s : Lexer) : Option Lexer :=
  let atStart := s.cursor.column = 0
  let separate := isWideGap (s.cursor.peekAt 1)
  if c = '%' ∧ atStart then s.directive
  else if c = '-' ∧ atStart ∧ s.cursor.atMark ['-', '-', '-'] then s.documentMark .documentStart
  else if c = '.' ∧ atStart ∧ s.cursor.atMark ['.', '.', '.'] then s.documentMark .documentEnd
  else if c = '[' then s.openFlow .flowSequenceStart
  else if c.toNat = 0x7B then s.openFlow .flowMappingStart
  else if c = ']' then s.closeFlow .flowSequenceEnd
  else if c.toNat = 0x7D then s.closeFlow .flowMappingEnd
  else if c = ',' then s.flowComma
  else if c = '-' ∧ separate then s.blockSign .sequenceStart .item true
  else if c = '?' ∧ (s.inFlow ∨ separate) then s.blockSign .mappingStart .key (!s.inFlow)
  else if c = ':' ∧ (s.inFlow ∨ separate) then s.colon
  else if c = '*' then s.atom fun c => (name? c).map fun (n, c) => (.alias n, c)
  else if c = '&' then s.atom fun c => (name? c).map fun (n, c) => (.anchor n, c)
  else if c = '!' then s.atom tag?
  else if c = '|' ∧ !s.inFlow then s.blockScalar false
  else if c = '>' ∧ !s.inFlow then s.blockScalar true
  else if s.beginsPlain c then s.plainScalar
  else none

def token (c : Char) (s : Lexer) : Except ReadError Lexer :=
  if c = '\'' ∨ c = '"' then s.quotedScalar else required (s.unquoted? c)

def run : Nat → Lexer → Except ReadError (Array Token)
  | 0, _ => .error .malformed
  | fuel + 1, s => do
    let s ← required (s.toToken (s.cursor.rest.length + 1)).dropStale
    let s := s.unwind s.cursor.column
    match s.cursor.peek with
    | none => return (← required (s.unwind (-1)).dropPlace).tokens
    | some c => run fuel (← s.token c)

end Lexer

/-- The characters that a document may hold. -/
def isAllowed (c : Char) : Bool :=
  let n := c.toNat
  n = 9 || n = 0x0A || n = 0x0D || (0x20 ≤ n && n ≤ 0x7E) || n = 0x85 || (0xA0 ≤ n && n ≤ 0xFFFD)
    || 0x10000 ≤ n

/-- All tokens of a text, if it is made of tokens. They are looked at before it is known whether they make a document,
so that a scalar of no use is met before tokens in front of it that are out of place. -/
def tokens (s : List Char) : Except ReadError (List Token) :=
  if s.all isAllowed then
    let s := if s.head?.any (·.toNat = 0xFEFF) then s.tail else s
    (Lexer.run (s.length + 2) { cursor := { rest := s } }).map Array.toList
  else .error .malformed

end Socks5.Yaml
