import Masquerade.Proofs.Gateway.Turns
import Masquerade.Proofs.Session.OutsideToGuest
import Masquerade.Proofs.Session.Replies

/-!
# Flows are kept apart

Whatever is done on a network, and however the host answers, the streams and mappings of
a network have nothing to do with each other: a frame touches what carries its own flow,
and a turn is the business of one place.
-/

set_option autoImplicit false

namespace Masquerade.Session

open World (Confines Retains RoundServes Spares)

end Masquerade.Session
