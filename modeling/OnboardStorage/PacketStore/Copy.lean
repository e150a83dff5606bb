import OnboardStorage.PacketStore.Admission
import OnboardStorage.Window

/-!
# Copying a time window into an empty store

The packets of a window are admitted one by one into the destination, under
its capacity rule and with their own tags.  A packet that does not fit is
counted and passed over.  A source whose tags descend, or which holds an empty
message, stops the copy; the packets admitted before that stay in the
destination.
-/

namespace OnboardStorage

/-- Counts of a copy. -/
structure CopyOutcome where
  /-- Packets the destination still holds. -/
  copied : Nat
  /-- Packets that made room for later ones. -/
  evicted : Nat
  /-- Packets that did not fit. -/
  rejected : Nat
  deriving DecidableEq, Repr

namespace PacketStore

/-- Packets that a scan from the oldest on finds in the window; the scan ends
at the first tag past the window. -/
def selected (store : PacketStore) (window : Window) : List Packet :=
  (store.packets.takeWhile fun packet => !window.isPast packet.timeTag).filter
    fun packet => window.contains packet.timeTag

/-- Admit packets in turn, passing over those that do not fit.  The counts of
admitted, evicted and passed-over packets start at those given. -/
def acceptEach (store : PacketStore) (admitted evicted rejected : Nat) :
    List Packet → PacketStore × Except Rejection CopyOutcome
  | [] => (store, .ok ⟨admitted - evicted, evicted, rejected⟩)
  | packet :: rest =>
      match store.accept packet with
      | (grown, .ok dropped) =>
          grown.acceptEach (admitted + 1) (evicted + dropped) rejected rest
      | (left, .error .storeFull) | (left, .error (.exceedsCapacity _ _)) =>
          left.acceptEach admitted evicted (rejected + 1) rest
      | (left, .error _) => (left, .error .copyFailed)

/-- Copy the packets of `window` from `source` into `destination`; answers the
destination afterwards and the counts, or why the copy did not take place. -/
def copyWindow (source destination : PacketStore) (window : Window) :
    PacketStore × Except Rejection CopyOutcome :=
  if !destination.isEmpty then (destination, .error .destinationNotEmpty)
  else match source.oldestTag?, source.newestTag? with
    | some oldest, some newest =>
        match window.fault? with
        | some cause => (destination, .error cause)
        | none =>
            if window.overlaps oldest newest then
              destination.acceptEach 0 0 0 (source.selected window)
            else (destination, .error .windowMissesPackets)
    | _, _ => (destination, .error .copyFailed)

end PacketStore

end OnboardStorage
