import Socks5.Channel.Stream

/-! What a handshake needs of a connection: to read an exact count of bytes, and to write all of a
byte string. -/
namespace Socks5

class Duplex (χ : Type) where
  readExact : Nat → χ → Attempt Bytes × χ
  writeAll : Bytes → χ → Except Failure Unit × χ

instance : Duplex Channel.Memory := ⟨Channel.Memory.readExact, Channel.Memory.writeAll⟩

instance : Duplex Channel.Stream := ⟨Channel.Stream.readExact, Channel.Stream.writeAll⟩

end Socks5
