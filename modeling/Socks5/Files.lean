import Socks5.Fault
import Socks5.Files.Path

/-! Files and directories, and a place among them from which relative paths are seen. -/
namespace Socks5

/-- Files hold texts. One whose bytes are not UTF-8, which cannot be read as a text, is left out here. -/
inductive File where
  | text (content : String)
  | directory
  deriving DecidableEq, Repr

structure Files where
  working : List String
  entries : List (List String × File) := []
  deriving DecidableEq, Repr

namespace Files

/-- The top is always there. -/
def at? (place : List String) (fs : Files) : Option File :=
  if place = [] then some .directory else fs.entries.lookup place

def isDirectoryAt (place : List String) (fs : Files) : Bool := fs.at? place = some .directory

/-- Follows a path; all but its last part have to be directories. -/
def walk (fs : Files) : List String → List String → Except FaultKind (List String)
  | place, [] => .ok place
  | place, p :: ps =>
    match fs.at? place with
    | some .directory => walk fs (if p = ".." then place.dropLast else place ++ [p]) ps
    | some (.text _) => .error .notDirectory
    | none => .error .fileNotFound

def place (p : Path) (fs : Files) : Except FaultKind (List String) :=
  fs.walk (if p.isAbsolute then [] else fs.working) p.parts

/-- What is at a path, if anything. -/
def find? (p : Path) (fs : Files) : Option File :=
  match fs.place p with
  | .ok place => fs.at? place
  | .error _ => none

def isThere (p : Path) (fs : Files) : Bool := (fs.find? p).isSome

def isDirectory (p : Path) (fs : Files) : Bool := fs.find? p = some .directory

/-! ## Faults -/

def errno : FaultKind → Int × String
  | .fileNotFound => (2, "No such file or directory")
  | .fileExists => (17, "File exists")
  | .notDirectory => (20, "Not a directory")
  | .isDirectory => (21, "Is a directory")
  | k => (5, k.name)

def fault (k : FaultKind) (p : String) : Fault :=
  ⟨k, [.int (errno k).1, .text (errno k).2, .text p]⟩

/-! ## Reading and writing -/

def read (p : Path) (fs : Files) : Except Fault String :=
  match fs.place p with
  | .error k => .error (fault k p.text)
  | .ok place =>
    match fs.at? place with
    | some (.text s) => .ok s
    | some .directory => .error (fault .isDirectory p.text)
    | none => .error (fault .fileNotFound p.text)

def set (place : List String) (f : File) (fs : Files) : Files :=
  { fs with entries := (place, f) :: fs.entries.filter (·.1 ≠ place) }

/-- The directory of the file has to be there. -/
def write (p : Path) (s : String) (fs : Files) : Except Fault Files :=
  match fs.place p with
  | .error k => .error (fault k p.text)
  | .ok place =>
    if fs.isDirectoryAt place then .error (fault .isDirectory p.text)
    else if fs.isDirectoryAt place.dropLast then .ok (fs.set place (.text s))
    else .error (fault .fileNotFound p.text)

/-- Writes behind what the file holds, if it is there. -/
def append (p : Path) (s : String) (fs : Files) : Except Fault Files :=
  fs.write p ((fs.read p).toOption.getD "" ++ s)

/-- Makes one directory; one that is there already will do. -/
def makeDirectory (p : Path) (fs : Files) : Except Fault Files :=
  match fs.place p with
  | .error k => .error (fault k p.text)
  | .ok place =>
    match fs.at? place with
    | some .directory => .ok fs
    | some (.text _) => .error (fault .fileExists p.text)
    | none => .ok (fs.set place .directory)

/-- Makes a directory, and first what it is in where that is missing. -/
def makeDirectories (p : Path) (fs : Files) : Except Fault Files :=
  match makeDirectory p fs with
  | .ok fs => .ok fs
  | .error f =>
    if _h : f.kind = .fileNotFound ∧ p.parts ≠ [] then do
      makeDirectory p (← makeDirectories p.parent fs)
    else .error f
termination_by p.parts.length
decreasing_by
  have := List.length_pos_iff.2 _h.2
  simp [Path.parent]; omega

theorem lookup_filter_ne {α β : Type} [BEq α] [LawfulBEq α] [DecidableEq α] {k k' : α} (h : k ≠ k')
    (l : List (α × β)) : (l.filter fun e => !decide (e.1 = k')).lookup k = l.lookup k := by
  induction l with
  | nil => rfl
  | cons e l ih =>
    obtain ⟨a, b⟩ := e
    by_cases ha : a = k'
    · subst ha
      have : (k == a) = false := by simp [h]
      simp [List.lookup_cons, ih, this]
    · simp [List.lookup_cons, ha, ih]

theorem at?_set_self {place : List String} (h : place ≠ []) (f : File) (fs : Files) :
    (fs.set place f).at? place = some f := by simp [at?, set, h]

theorem at?_set_ne {place other : List String} (h : other ≠ place) (f : File) (fs : Files) :
    (fs.set place f).at? other = fs.at? other := by
  have : (other == place) = false := by simp [h]
  simp [at?, set, List.lookup_cons, this, lookup_filter_ne h]

end Files
end Socks5
