import Socks5.CommandLine.Job

/-! The command that writes a configuration with default settings. -/
namespace Socks5.CommandLine

def yesWords : List String := ["y", "yes"]

def noWords : List String := ["n", "no", ""]

/-- A word without the blanks around it, in small letters. -/
def plainWord (s : String) : String :=
  String.ofList (Text.trimBy Text.isSpacing (s.toList.map Char.toLower))

/-- Asks until an answer is given. Without any more input there is none. -/
def askFrom (question : String) : List String → Desk → Option Bool × Desk
  | [], d => (none, { d with output := d.output ++ question, input := [] })
  | l :: ls, d =>
    let d := { d with output := d.output ++ question, input := ls }
    let w := plainWord l
    if yesWords.contains w then (some true, d)
    else if noWords.contains w then (some false, d)
    else askFrom question ls { d with output := d.output ++ "Error: invalid input\n" }

def ask (question : String) : Job Bool := do
  let (answer, d) := askFrom question (← get).input (← get)
  set d
  match answer with
  | some b => return b
  | none => Job.escape .unanswered

/-- A file that is there is only replaced on demand. -/
def init (t : Terminal) (output : String) (force : Bool) : Job Unit := do
  let path := Path.ofString output
  if (← get).files.isThere path && !force then
    unless ← ask s!"Configuration file {output} already exists. Overwrite? [y/N]: " do
      Job.escape .declined
  let settings ← Job.lift .settings (Settings.make t.env none none)
  let files ← Job.lift .fault (settings.sheet.save path (← get).files)
  modify fun d => { d with files }
  Job.say t s!"[green]Configuration file created: {output}[/green]"
  Job.say t "[dim]Set server.relay before running 'simplesocks serve'.[/dim]"

end Socks5.CommandLine
