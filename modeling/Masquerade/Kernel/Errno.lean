/-!
# Error numbers

The reasons that the kernel gives for a failed call, each under its symbolic
name.  Three of them are expected in normal operation.
-/

set_option autoImplicit false

namespace Masquerade

structure Errno where
  name : String
  deriving DecidableEq, Repr

namespace Errno

/-- Nothing to do at the moment. -/
def again : Errno := ⟨"EAGAIN"⟩

def interrupted : Errno := ⟨"EINTR"⟩

def inProgress : Errno := ⟨"EINPROGRESS"⟩

end Errno

end Masquerade
