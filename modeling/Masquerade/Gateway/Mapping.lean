import Masquerade.Gateway.Answer
import Masquerade.Gateway.Nic
import Masquerade.Kernel.Call

/-!
# Mappings

A mapping carries the datagrams of one flow through a socket of the host.  It has
no state of the conversation; replies are told apart only by their numbers.
-/

set_option autoImplicit false

namespace Masquerade

open Packet

structure Mapping where
  owner : NicId
  guestMac : Mac
  socket : SocketId
  /-- The number of the next reply. -/
  identification : UInt16
  /-- Whether the guest sends to the gateway, and the name server gets it. -/
  isForNameServer : Bool
  /-- Where the datagrams of the guest really go. -/
  target : Endpoint
  deriving DecidableEq, Repr

namespace Mapping

/-- The most bytes of payload in a frame: 1500 less a header. -/
def mostPayload : Nat := 1480

def mostReceived : Nat := 65535

def replyFrames (mapping : Mapping) (flow : Flow) (payload : Bytes) :
    Except WireError (List Bytes) :=
  match udpDatagram flow.outside.address flow.guest.address
      (.between flow.outside.port flow.guest.port) payload with
  | .error error => .error error
  | .ok datagram =>
    fragment (Answer.frameTo mapping.guestMac EthernetHeader.ipv4)
      (.between flow.outside.address flow.guest.address Transport.udp.protocol
        mapping.identification Answer.hops) datagram mostPayload

end Mapping

end Masquerade
