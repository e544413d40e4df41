import Masquerade.Gateway.Basic

/-!
# Setting up

A simulated network from its settings, the host's names and the host's name
service file.  Only here can the gateway fail; it then leaves no socket open.
-/

set_option autoImplicit false

namespace Masquerade.World

def openRelay (port : Option UInt16) (peers : List Endpoint) (kernel : Kernel) :
    Except SetupError (Option Relay) × Kernel :=
  if port.isNone && peers.isEmpty then (.ok none, kernel)
  else
    let port := port.getD 0
    match kernel.openBound port with
    | (.error cause, kernel) => (.error (.relayBind port cause), kernel)
    | (.ok socket, kernel) => (.ok (some ⟨socket, peers⟩), (kernel.localPort socket).2)

/-- The world of a new network, or why there is none; and what became of the
kernel in either case. -/
def setUp (settings : Settings) (book : HostBook) (nameServiceFile : Option Bytes)
    (kernel : Kernel) : Except SetupError Gateway × Kernel :=
  match settings.capacities, settings.resolvePeers book with
  | .error error, _ => (.error error, kernel)
  | .ok _, .error error => (.error error, kernel)
  | .ok (tcpCapacity, udpCapacity), .ok peers =>
    match openRelay settings.relayPort peers kernel with
    | (.error error, kernel) => (.error error, kernel)
    | (.ok relay, kernel) =>
      (.ok {
        subnet := settings.subnet
        retransmitRounds := settings.retransmitRounds
        nameService := NameService.load nameServiceFile
        clock := 0
        streams := .empty tcpCapacity
        mappings := .empty udpCapacity
        mailbox := .empty
        nics := []
        relay }, kernel)

end Masquerade.World
