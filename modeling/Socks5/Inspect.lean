import Socks5.Endpoint.Handshake

/-! A captured handshake read to its end. -/
namespace Socks5

/-- Negotiates and reads the request, and answers neither. The result is whether the request is
valid; there is none where the offer was refused. -/
def inspect (captured : Bytes) : Progress Channel.Memory (Option Bool) :=
  let s : Session Channel.Memory := { channel := { unread := captured } }
  s.acceptAuthentication.andThen fun accepted s =>
    if accepted then s.readRequest.andThen fun valid s => .returned (some valid) s
    else .returned none s

end Socks5
