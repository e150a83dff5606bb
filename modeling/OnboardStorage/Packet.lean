import OnboardStorage.Clock

/-!
# Stored packets

A packet is a telemetry message with the tag it was stamped with.  The size of
a message is all that counts against the capacity of a store.
-/

namespace OnboardStorage

/-- A message and the time it was stamped with. -/
structure Packet where
  timeTag : TimeTag
  data : List UInt8
  deriving DecidableEq, Repr

/-- Bytes of the message. -/
def Packet.size (packet : Packet) : Nat :=
  packet.data.length

/-- Bytes of all messages together. -/
def Packet.totalSize (packets : List Packet) : Nat :=
  packets.foldr (fun packet bytes => packet.size + bytes) 0

@[simp]
theorem Packet.totalSize_nil : Packet.totalSize [] = 0 :=
  rfl

@[simp]
theorem Packet.totalSize_cons (packet : Packet) (packets : List Packet) :
    Packet.totalSize (packet :: packets) =
      packet.size + Packet.totalSize packets :=
  rfl

@[simp]
theorem Packet.totalSize_append (first second : List Packet) :
    Packet.totalSize (first ++ second) =
      Packet.totalSize first + Packet.totalSize second := by
  induction first with
  | nil => simp
  | cons packet packets ih => simp [ih, Nat.add_assoc]

theorem Packet.totalSize_take_add_drop (count : Nat) (packets : List Packet) :
    Packet.totalSize (packets.take count) + Packet.totalSize (packets.drop count) =
      Packet.totalSize packets := by
  rw [← Packet.totalSize_append, List.take_append_drop]

end OnboardStorage
