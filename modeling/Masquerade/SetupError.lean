import Masquerade.Checksum
import Masquerade.Kernel.Errno

/-!
# Setup errors

Why a simulated network cannot be set up.  Once it is set up, nothing that a
guest or the kernel does is an error of the gateway.
-/

set_option autoImplicit false

namespace Masquerade

inductive SetupError
  /-- The text is not an address and a length between which a slash stands. -/
  | malformedSubnet (text : String)
  /-- The length lies outside the range of 1 to 24. -/
  | subnetLength (length : Nat)
  | zeroCapacity (transport : Transport)
  | unresolvablePeer (peer : String)
  /-- The peer is known, but under no short address. -/
  | noIpv4Peer (peer : String)
  | relayBind (port : UInt16) (cause : Errno)
  deriving DecidableEq, Repr

namespace SetupError

def quoted (text : String) : String := "`" ++ text ++ "`"

def message : SetupError → String
  | .malformedSubnet text => "invalid network prefix " ++ quoted text ++ ", expected a.b.c.d/len"
  | .subnetLength length =>
    "network prefix length " ++ String.ofList (Text.decimal length) ++ " out of range (1..=24)"
  | .zeroCapacity .tcp => "TCP capacity must be at least 1"
  | .zeroCapacity .udp => "UDP capacity must be at least 1"
  | .unresolvablePeer peer => "cannot resolve peer " ++ quoted peer
  | .noIpv4Peer peer => "peer " ++ quoted peer ++ " has no IPv4 address"
  | .relayBind port _ =>
    "cannot bind relay socket on port " ++ String.ofList (Text.decimal port.toNat)

end SetupError

end Masquerade
