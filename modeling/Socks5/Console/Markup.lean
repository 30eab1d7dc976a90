import Socks5.Console.Emoji

/-! Markup in texts for a console. Square brackets around a word open a style or, with a slash, close
it; a console without colours shows only the text. -/
namespace Socks5.Console

inductive MarkupError where
  | notOpen (tag : String) (position : Nat)
  | nothingOpen (position : Nat)
  deriving DecidableEq, Repr

def MarkupError.message : MarkupError → String
  | notOpen tag position => s!"closing tag '{tag}' at position {position} doesn't match any open tag"
  | nothingOpen position => s!"closing tag '[/]' at position {position} has nothing to close"

/-! ## Pieces -/

/-- A part of a text with markup, at the position where it begins. -/
inductive Piece where
  | plain (s : List Char)
  | tag (position : Nat) (s : List Char)
  deriving DecidableEq, Repr

def isTagStart (c : Char) : Bool := ('a' ≤ c && c ≤ 'z') || c = '#' || c = '/' || c = '@'

/-- The rest of a tag behind its first character: up to the closing bracket, with no opening one. -/
def tagRest? : List Char → Option (List Char × List Char)
  | [] => none
  | c :: s =>
    if c = ']' then some ([], s)
    else if c = '[' then none
    else (tagRest? s).map fun (t, r) => (c :: t, r)

/-- A tag behind its opening bracket. -/
def tag? : List Char → Option (List Char × List Char)
  | [] => none
  | c :: s => if isTagStart c then (tagRest? s).map fun (t, r) => (c :: t, r) else none

theorem length_of_tagRest? {s t r : List Char} (h : tagRest? s = some (t, r)) :
    r.length < s.length := by
  induction s generalizing t with
  | nil => simp [tagRest?] at h
  | cons c s ih =>
    simp only [tagRest?] at h
    split at h
    · cases h; simp
    split at h
    · cases h
    · obtain ⟨⟨n, r⟩, hr, he⟩ := Option.map_eq_some_iff.1 h
      cases he
      have := ih hr
      simp only [List.length_cons] at this ⊢; omega

theorem length_of_tag? {s t r : List Char} (h : tag? s = some (t, r)) : r.length < s.length := by
  cases s with
  | nil => simp [tag?] at h
  | cons c s =>
    simp only [tag?] at h
    split at h
    · obtain ⟨⟨n, r⟩, hr, he⟩ := Option.map_eq_some_iff.1 h
      cases he
      have := length_of_tagRest? hr
      simp only [List.length_cons] at this ⊢; omega
    · cases h

def backslashes (n : Nat) : List Char := List.replicate n '\\'

/-- Backslashes in front of a tag stand for half as many; one left over takes the tag's meaning. The
position is that of the bracket. -/
def tagPieces (position slashes : Nat) (t : List Char) : List Piece :=
  let half := if slashes < 2 then [] else [.plain (backslashes (slashes / 2))]
  half ++ if slashes % 2 = 1 then [.plain ('[' :: t ++ [']'])]
    else [.tag position t]

/-- The pieces of a text. `before` is what was read since the last tag, without the backslashes that
were read last, which are counted by `slashes`. -/
def piecesFrom (position : Nat) (before : List Char) (slashes : Nat) : List Char → List Piece
  | [] => if before = [] ∧ slashes = 0 then [] else [.plain (before ++ backslashes slashes)]
  | c :: s =>
    if c = '\\' then piecesFrom (position + 1) before (slashes + 1) s
    else if c = '[' then
      match h : tag? s with
      | some (t, r) =>
        have := length_of_tag? h
        (if before = [] then [] else [.plain before]) ++ tagPieces position slashes t ++
          piecesFrom (position + t.length + 2) [] 0 r
      | none => piecesFrom (position + 1) (before ++ backslashes slashes ++ [c]) 0 s
    else piecesFrom (position + 1) (before ++ backslashes slashes ++ [c]) 0 s
termination_by s => s.length
decreasing_by all_goals simp only [List.length_cons]; omega

def pieces (s : List Char) : List Piece := piecesFrom 0 [] 0 s

/-! ## Styles -/

/-- Short names of styles. -/
def styleAliases : List (String × String) :=
  [("b", "bold"), ("d", "dim"), ("i", "italic"), ("u", "underline"), ("uu", "underline2"),
   ("r", "reverse"), ("c", "conceal"), ("s", "strike"), ("o", "overline")]

def trimmed (s : List Char) : List Char := Text.trimBy Text.isSpacing s

/-- The name that a style goes by, whatever the case and the short form. -/
def styleName (s : List Char) : String :=
  let s := String.ofList ((trimmed s).map Char.toLower)
  (styleAliases.lookup s).getD s

/-- What stands in a tag before an equals sign. -/
def tagName (t : List Char) : List Char := t.takeWhile (· ≠ '=')

/-- The text without its last style of that name. -/
def closeStyle? (name : String) : List String → Option (List String)
  | [] => none
  | s :: ss => if s = name then some ss else (closeStyle? name ss).map (s :: ·)

/-! ## The text -/

/-- An opening bracket may have a backslash where it opens no tag. -/
def unescape : List Char → List Char
  | '\\' :: '[' :: s => '[' :: unescape s
  | c :: s => c :: unescape s
  | [] => []

/-- Bell, backspace, vertical tab, form feed and carriage return are never shown. -/
def isShown (c : Char) : Bool := !([7, 8, 11, 12, 13].contains c.toNat)

def shown (s : List Char) : List Char := (withPictures (unescape s)).filter isShown

/-- The text of the pieces, inside the styles that are open. Any tag that closes none opens a style, whatever that
is: the arguments of a handler (`@`) and the numbers of a colour, which may be no arguments or no numbers, are not
looked at. -/
def plainFrom (stack : List String) : List Piece → Except MarkupError (List Char)
  | [] => .ok []
  | .plain s :: ps => (plainFrom stack ps).map (shown s ++ ·)
  | .tag position t :: ps =>
    match tagName t with
    | '/' :: name =>
      if trimmed name = [] then
        match stack with
        | _ :: stack => plainFrom stack ps
        | [] => .error (.nothingOpen position)
      else
        match closeStyle? (styleName name) stack with
        | some stack => plainFrom stack ps
        | none => .error (.notOpen (String.ofList ('[' :: t ++ [']'])) position)
    | name => plainFrom (styleName name :: stack) ps

/-- What a console without colours shows of a text with markup. -/
def plainText (s : String) : Except MarkupError (List Char) := plainFrom [] (pieces s.toList)

end Socks5.Console
