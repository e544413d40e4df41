import Masquerade.NameService
import Masquerade.Subnet

/-!
# Settings

All that is needed to set up one simulated network, and what is derived from it:
the size of both tables and the endpoints of the peers.
-/

set_option autoImplicit false

namespace Masquerade

open Text (NumeralForm)

/-- The addresses that each host name stands for, as texts in order. -/
abbrev HostBook := List (String × List String)

structure Settings where
  subnet : Subnet := .standard
  /-- Other gateways on the same simulated network, as `host:port`. -/
  peers : List String := []
  /-- The port of the relay; without it a relay for peers gets any port. -/
  relayPort : Option UInt16 := none
  nameServicePath : String := NameService.standardPath
  tcpCapacity : Nat := 100
  udpCapacity : Nat := 100
  /-- How many rounds unacknowledged bytes wait before they are sent again. -/
  retransmitRounds : Nat := 100

namespace Settings

def gatewayMac : Mac := ⟨0x60, 0x50, 0x40, 0x30, 0x20, 0x10⟩

def capacities (settings : Settings) : Except SetupError (Nat × Nat) :=
  if settings.tcpCapacity = 0 then .error (.zeroCapacity .tcp)
  else if settings.udpCapacity = 0 then .error (.zeroCapacity .udp)
  else .ok (settings.tcpCapacity, settings.udpCapacity)

/-- The addresses of a host; a name with a NUL is no host name. -/
def lookUp (book : HostBook) (host : List Char) : Option (List String) :=
  if host.contains (Char.ofNat 0) then none else book.lookup (String.ofList host)

/-- The endpoint of a peer: the text itself where it is an endpoint, and
otherwise the first short address of the host before the last colon. -/
def resolvePeer (book : HostBook) (peer : String) : Except SetupError Endpoint :=
  match Address.endpoint? peer.toList with
  | some endpoint => .ok endpoint
  | none =>
    if Address.isLongEndpoint peer.toList then .error (.noIpv4Peer peer)
    else
      match Text.cutLast ':' peer.toList with
      | none => .error (.unresolvablePeer peer)
      | some (host, port) =>
        match NumeralForm.port.readSigned port, lookUp book host with
        | some port, some addresses =>
          match addresses.findSome? (fun address => Address.ipv4? address.toList) with
          | some address => .ok ⟨address, UInt16.ofNat port⟩
          | none => .error (.noIpv4Peer peer)
        | _, _ => .error (.unresolvablePeer peer)

def resolvePeers (settings : Settings) (book : HostBook) : Except SetupError (List Endpoint) :=
  settings.peers.mapM (resolvePeer book)

end Settings

end Masquerade
