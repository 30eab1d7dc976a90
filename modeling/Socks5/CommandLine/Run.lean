import Socks5.CommandLine.Decode
import Socks5.CommandLine.Init
import Socks5.CommandLine.Invocation
import Socks5.CommandLine.Serve

/-! The program from its words to its end. -/
namespace Socks5.CommandLine

def versionText : String := "simplesocks version 1.0.0"

def perform (t : Terminal) (scene : Scene) : Invocation → Job Unit
  | .version => Job.say t versionText
  | .init output force => init t output force
  | .decode data => decode t data
  | .reply code => reply t code
  | .serve config host port relay => serve t scene config { host, port, relay }

/-- Runs the program; one that is not stopped ends well. -/
def run (t : Terminal) (scene : Scene) (words : List String) (d : Desk) : Stop × Desk :=
  let job : Job Unit := do perform t scene (← Job.lift .usage (Invocation.ofWords words))
  match (job.run).run d with
  | (.ok (), d) => (.exit 0, d)
  | (.error stop, d) => (stop, d)

end Socks5.CommandLine
