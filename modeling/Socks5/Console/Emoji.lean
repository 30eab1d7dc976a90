import Socks5.Text.Blank

/-! Names of pictures between colons, which stand for the pictures. -/
namespace Socks5.Console

/-- Some of the pictures, by name. The full list is far longer; a name that is not in this part of it is left as it
is written. -/
def pictures : List (String × List Nat) := [
  ("100", [0x1F4AF]), ("1234", [0x1F522]), ("a", [0x1F170]), ("ab", [0x1F18E]), ("abc", [0x1F524]),
  ("abcd", [0x1F521]), ("b", [0x1F171]), ("bed", [0x1F6CF]), ("bee", [0x1F41D]), ("boom", [0x1F4A5]),
  ("bug", [0x1F41B]), ("cat", [0x1F431]), ("cd", [0x1F4BF]), ("de", [0x1F1E9, 0x1F1EA]),
  ("dog", [0x1F436]), ("fire", [0x1F525]), ("heart", [0x2764]), ("id", [0x1F194]), ("key", [0x1F511]),
  ("lock", [0x1F512]), ("new", [0x1F195]), ("o", [0x2B55]), ("ok", [0x1F197]), ("rocket", [0x1F680]),
  ("smile", [0x1F604]), ("smiley", [0x1F603]), ("socks", [0x1F9E6]), ("sparkles", [0x2728]),
  ("star", [0x2B50]), ("tada", [0x1F389]), ("thumbs_up", [0x1F44D]), ("up", [0x1F199]),
  ("vampire", [0x1F9DB]), ("warning", [0x26A0]), ("x", [0x274C]), ("zap", [0x26A1])]

def picture? (name : List Char) : Option (List Char) :=
  (pictures.lookup (String.ofList (name.map Char.toLower))).map (·.map Char.ofNat)

/-- The name up to the next colon, in which there may be no blank, and what follows. -/
def colonName? : List Char → Option (List Char × List Char)
  | [] => none
  | c :: s =>
    if c = ':' then some ([], s)
    else if Text.isSpacing c then none
    else (colonName? s).map fun (name, rest) => (c :: name, rest)

theorem length_of_colonName? {s name rest : List Char} (h : colonName? s = some (name, rest)) :
    rest.length < s.length := by
  induction s generalizing name with
  | nil => simp [colonName?] at h
  | cons c s ih =>
    simp only [colonName?] at h
    split at h
    · cases h; simp
    split at h
    · cases h
    · obtain ⟨⟨n, r⟩, hr, he⟩ := Option.map_eq_some_iff.1 h
      cases he
      have := ih hr
      simp only [List.length_cons] at this ⊢; omega

/-- Puts pictures in the places of their names; what names none is left, with both of its colons. -/
def withPictures : List Char → List Char
  | [] => []
  | c :: s =>
    if c = ':' then
      match h : colonName? s with
      | some (name, rest) =>
        have := length_of_colonName? h
        (picture? name).getD (':' :: name ++ [':']) ++ withPictures rest
      | none => c :: withPictures s
    else c :: withPictures s
termination_by s => s.length
decreasing_by all_goals simp only [List.length_cons]; omega

end Socks5.Console
