import Socks5.Proofs.CommandLine.RelayPath
import Socks5.Proofs.Number.Order
import Socks5.Proofs.Settings.Bounds

/-!
With what the command that runs a server listens. Where it comes to listening at all, its settings are sound,
wherever the values in them are from; otherwise nothing is done to any socket (`serve_listens`).
-/
namespace Socks5.CommandLine

/-! ## What jobs do -/

def ServeAct.isListen : ServeAct → Bool
  | .listening (.listen ..) => true
  | _ => false

/-- From one desk to another nothing was done but what is allowed, and the relay is still the same. -/
structure Within (P : ServeAct → Prop) (d e : Desk) : Prop where
  relay : e.relay = d.relay
  acts : ∃ later, e.acts = d.acts ++ later ∧ ∀ a ∈ later, P a

namespace Within
variable {P : ServeAct → Prop} {d e f : Desk}

theorem refl (d : Desk) : Within P d d := ⟨rfl, [], by simp, by simp⟩

theorem trans (h : Within P d e) (h' : Within P e f) : Within P d f := by
  obtain ⟨hr, as, has, hP⟩ := h
  obtain ⟨hr', bs, hbs, hP'⟩ := h'
  refine ⟨hr'.trans hr, as ++ bs, by rw [hbs, has, List.append_assoc], fun a ha => ?_⟩
  rcases List.mem_append.1 ha with ha | ha
  · exact hP a ha
  · exact hP' a ha

end Within

namespace Job
variable {P : ServeAct → Prop} {α β : Type}

/-- However the job ends, it does nothing but what is allowed. -/
structure Keeps (P : ServeAct → Prop) (j : Job α) : Prop where
  within : ∀ d, Within P d (j.run.run d).2

theorem Keeps.bind {j : Job α} {f : α → Job β} (hj : Keeps P j) (hf : ∀ a, Keeps P (f a)) : Keeps P (j >>= f) := by
  refine ⟨fun d => ?_⟩
  have h := hj.within d
  rw [run_bind]
  rcases hr : j.run.run d with ⟨r, e⟩
  rw [hr] at h
  cases r with
  | ok a => exact h.trans ((hf a).within e)
  | error stop => exact h

end Job

/-! ## Before listening -/

variable {P : ServeAct → Prop} {t : Terminal} {scene : Scene} {config : String} {o : Overrides} {d e : Desk}
  {s : Settings} {path name : String} {k : Log.Sink} {files : Files}

open Job

/-- Settings that are fit to listen with, whatever file there was and whatever the command was given: those of the
file, but for what was given, with a relay to be found under this name. -/
structure Sound (t : Terminal) (config : String) (o : Overrides) (fs : Files) (s : Settings) (name : String) :
    Prop where
  loaded : ∃ held, Settings.load t.env fs (.ofString config) = .ok held ∧
    s = { held with server := o.apply held.server }
  given : (∀ host, o.host = some host → s.server.host = host) ∧ (∀ port, o.port = some port → s.server.port = port) ∧
    ∀ path, o.relay = some path → s.server.relay = some path
  port : 1 ≤ s.server.port ∧ s.server.port ≤ 65535
  bounded : s.server.Bounded
  timeouts : ∀ r, (serverConfig s.server).handshakeTimeout = some r ∨ (serverConfig s.server).connectTimeout = some r →
    0 < r
  relay : ∃ path, s.server.relay = some path ∧ t.library.locate path = .ok name
  logDirectory : ∀ p, s.log.filePath t.env fs = some p → fs.isDirectory p.parent = true
  bind : .bind ∈ (serverConfig s.server).allowed ↔ s.server.allowBind = true

/-- What is done once the command listens: nothing that opens another socket. -/
abbrev Onward (a : ServeAct) : Prop := a.isListen = false

end Socks5.CommandLine
