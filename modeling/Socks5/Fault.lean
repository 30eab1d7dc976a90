import Socks5.Value
import Socks5.Wire.Code

/-! Errors that come from outside: from the operating system, from a resolver, or from code that the
server was handed. -/
namespace Socks5

inductive FaultKind where
  | os | blocking | childProcess | connection | brokenPipe | aborted | refused | reset
  | fileExists | fileNotFound | interrupted | isDirectory | notDirectory | permission
  | processLookup | timeout | addressInfo | hostInfo
  | value | unicode | runtime | lookup | endOfFile | type
  /-- An error that no handler of ordinary errors takes. -/
  | base
  deriving DecidableEq, Repr

namespace FaultKind

def name : FaultKind → String
  | os => "OSError"
  | blocking => "BlockingIOError"
  | childProcess => "ChildProcessError"
  | connection => "ConnectionError"
  | brokenPipe => "BrokenPipeError"
  | aborted => "ConnectionAbortedError"
  | refused => "ConnectionRefusedError"
  | reset => "ConnectionResetError"
  | fileExists => "FileExistsError"
  | fileNotFound => "FileNotFoundError"
  | interrupted => "InterruptedError"
  | isDirectory => "IsADirectoryError"
  | notDirectory => "NotADirectoryError"
  | permission => "PermissionError"
  | processLookup => "ProcessLookupError"
  | timeout => "TimeoutError"
  | addressInfo => "gaierror"
  | hostInfo => "herror"
  | value => "ValueError"
  | unicode => "UnicodeError"
  | runtime => "RuntimeError"
  | lookup => "LookupError"
  | endOfFile => "EOFError"
  | type => "TypeError"
  | base => "BaseException"

def all : List FaultKind :=
  [os, blocking, childProcess, connection, brokenPipe, aborted, refused, reset, fileExists,
   fileNotFound, interrupted, isDirectory, notDirectory, permission, processLookup, timeout,
   addressInfo, hostInfo, value, unicode, runtime, lookup, endOfFile, type, base]

def ofName? (s : String) : Option FaultKind := all.find? (·.name = s)

/-- The errors of the operating system, those of the resolver among them. -/
def isSystem : FaultKind → Bool
  | value | unicode | runtime | lookup | endOfFile | type | base => false
  | _ => true

def isValue : FaultKind → Bool
  | value | unicode => true
  | _ => false

/-- The kind that an error number of the system stands for. -/
def ofErrno? : Int → Option FaultKind
  | 1 | 13 => some permission
  | 2 => some fileNotFound
  | 3 => some processLookup
  | 4 => some interrupted
  | 10 => some childProcess
  | 11 | 114 | 115 => some blocking
  | 17 => some fileExists
  | 20 => some notDirectory
  | 21 => some isDirectory
  | 32 | 108 => some brokenPipe
  | 103 => some aborted
  | 104 => some reset
  | 110 => some timeout
  | 111 => some refused
  | _ => none

end FaultKind

structure Fault where
  kind : FaultKind
  args : List Value := []
  deriving Repr, BEq

namespace Fault

/-- A system error of no special kind takes the kind of its number. -/
def make (kind : FaultKind) (args : List Value) : Fault :=
  match kind, args with
  | .os, n :: _ :: rest =>
    ⟨if rest.length ≤ 3 then ((n.toInt?).bind FaultKind.ofErrno?).getD .os else .os, args⟩
  | _, _ => ⟨kind, args⟩

/-- The error number, which a system error has if it was given a text too. Nothing keeps it from being
something else than a number. -/
def errno? (f : Fault) : Option Value :=
  match f.args with
  | n :: _ :: rest => if f.kind.isSystem ∧ rest.length ≤ 3 then some n else none
  | _ => none

def hasErrno (n : Int) (f : Fault) : Bool := f.errno?.any (·.isNumber n)

/-- The files that a system error names, of which the second comes last. -/
def filesText : List Value → String
  | [] | .null :: _ => ""
  | [file, _, .null] => s!": {file.shown}"
  | [file, _, second] => s!": {file.shown} -> {second.shown}"
  | file :: _ => s!": {file.shown}"

/-- The arguments behind number and text that name files. An error of a call that would have to wait may
count there what it has written. -/
def files (f : Fault) : List Value :=
  match f.kind, f.args.drop 2 with
  | .blocking, n :: more => if n.toInt?.isSome then [] else n :: more
  | _, vs => vs

/-- A system error of two to five arguments has a number, a text and perhaps files. -/
def message (f : Fault) : String :=
  match f.args with
  | [] => ""
  | [v] => v.display
  | n :: s :: rest =>
    if f.kind.isSystem ∧ rest.length ≤ 3 then s!"[Errno {n.display}] {s.display}{filesText f.files}"
    else Value.tuple f.args

/-- The message, or the name of the kind where the message is empty. -/
def summary (f : Fault) : String := if f.message = "" then f.kind.name else f.message

def networkUnreachable : Int := 101

def hostUnreachable : Int := 113

/-- The reply that tells a client how the dial to its target failed. -/
def replyCode (f : Fault) : ReplyCode :=
  match f.kind with
  | .refused => .connectionRefused
  | .timeout => .ttlExpired
  | .addressInfo => .hostUnreachable
  | _ =>
    if f.hasErrno networkUnreachable then .networkUnreachable
    else if f.hasErrno hostUnreachable then .hostUnreachable
    else .generalFailure

theorem replyCode_ne_success (f : Fault) : f.replyCode ≠ .success := by
  unfold replyCode; split <;> try decide
  split; · decide
  split <;> decide

end Fault
end Socks5
