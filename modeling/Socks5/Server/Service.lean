import Socks5.Server.Basic
import Socks5.Server.Listener

/-! A server as a whole: the sockets that it listens on, and the clients that came. -/
namespace Socks5

structure Service where
  listener : Listener
  server : Server

namespace Service

/-- A service that has done nothing yet. -/
def fresh (config : ServerConfig) : Service := ⟨{ config }, { config }⟩

inductive Step where
  | client (i : Server.Input)
  | start (o : Opening)
  | stop
  | serve (o : Opening)
  deriving Repr

def withListener (s : Service) (r : Except Fault Unit × Listener) : Except Fault Unit × Service :=
  (r.1, { s with listener := r.2 })

/-- What a step comes to. Whether anyone listens does not matter to the clients that are there. -/
def perform (w : Surroundings) (s : Service) : Step → Except Fault Unit × Service
  | .client i => (.ok (), { s with server := s.server.step w i })
  | .start o => s.withListener (s.listener.start o)
  | .stop => s.withListener (.ok (), s.listener.stop)
  | .serve o => s.withListener (s.listener.serve o)

def step (w : Surroundings) (s : Service) (i : Step) : Service := (s.perform w i).2

def runAll (w : Surroundings) (s : Service) (steps : List Step) : Service := steps.foldl (step w) s

/-- What was done and noted so far is left to others to keep. -/
def forgetful (s : Service) : Service :=
  { listener := { s.listener with acts := [], log := [] }, server := { s.server with history := [] } }

end Service
end Socks5
