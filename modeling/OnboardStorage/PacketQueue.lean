import OnboardStorage.Packet

/-!
# Packet queues

A packet queue keeps packets oldest first.  New packets join at one end and old
ones leave at the other, and neither takes longer the more packets there are:
the packets are kept in two parts, each of which begins at its own end of the
queue, beside their byte count and the newest of them.  How packets are spread
over the parts cannot be seen, so two queues of the same packets are equal.

Nothing here assumes that tags ascend or that messages are not empty: a queue
may hold what a damaged snapshot held.
-/

namespace OnboardStorage

/-! ## Leaving packets -/

namespace Packet

/-- How many packets leave at the front of a list.  Whether a packet leaves may
depend on the bytes of it and all packets behind it, `bytes` for the first. -/
def leaving (leaves : Nat → Packet → Bool) : List Packet → Nat → Nat
  | [], _ => 0
  | packet :: rest, bytes =>
      if leaves bytes packet then leaving leaves rest (bytes - packet.size) + 1 else 0

/-- What is left of a list of packets, its bytes, and how many left. -/
structure Remainder where
  packets : List Packet
  bytes : Nat
  left : Nat

/-- Let packets leave at the front of a list, after `left` others. -/
def letLeave (leaves : Nat → Packet → Bool) :
    List Packet → Nat → Nat → Remainder
  | [], bytes, left => ⟨[], bytes, left⟩
  | packet :: rest, bytes, left =>
      if leaves bytes packet then
        letLeave leaves rest (bytes - packet.size) (left + 1)
      else ⟨packet :: rest, bytes, left⟩

theorem letLeave_eq (leaves : Nat → Packet → Bool) (packets : List Packet)
    (bytes left : Nat) :
    letLeave leaves packets bytes left =
      ⟨packets.drop (leaving leaves packets bytes),
        bytes - totalSize (packets.take (leaving leaves packets bytes)),
        left + leaving leaves packets bytes⟩ := by
  induction packets generalizing bytes left with
  | nil => simp [letLeave, leaving]
  | cons packet rest ih =>
      by_cases h : leaves bytes packet
      · simp only [letLeave, leaving, if_pos h, ih, List.drop_succ_cons,
          List.take_succ_cons, totalSize_cons, Nat.sub_sub, Nat.add_assoc,
          Nat.add_comm 1]
      · simp [letLeave, leaving, h]

theorem leaving_le_length (leaves : Nat → Packet → Bool) (packets : List Packet)
    (bytes : Nat) : leaving leaves packets bytes ≤ packets.length := by
  induction packets generalizing bytes with
  | nil => simp [leaving]
  | cons packet rest ih =>
      have := ih (bytes - packet.size)
      simp only [leaving, List.length_cons]
      split <;> omega

/-- A rule that ignores the bytes lets packets leave while it holds. -/
theorem leaving_eq_length_takeWhile (leaves : Packet → Bool) (packets : List Packet)
    (bytes : Nat) :
    leaving (fun _ packet => leaves packet) packets bytes =
      (packets.takeWhile leaves).length := by
  induction packets generalizing bytes with
  | nil => rfl
  | cons packet rest ih =>
      by_cases h : leaves packet <;> simp [leaving, h, ih]

/-- Packets leave the second of two lists only once the first is used up. -/
theorem leaving_append (leaves : Nat → Packet → Bool)
    (first second : List Packet) (bytes : Nat) :
    leaving leaves (first ++ second) bytes =
      if leaving leaves first bytes = first.length then
        first.length + leaving leaves second (bytes - totalSize first)
      else leaving leaves first bytes := by
  induction first generalizing bytes with
  | nil => simp [leaving]
  | cons packet rest ih =>
      by_cases h : leaves bytes packet
      · simp only [List.cons_append, leaving, if_pos h, ih, totalSize_cons,
          List.length_cons, Nat.sub_sub, Nat.add_right_cancel_iff]
        split <;> omega
      · simp [leaving, h]

end Packet

/-! ## Parts -/

/-- Packets in two parts, the older ones oldest first and the newer ones newest
first; also their byte count and the newest of them. -/
structure PacketQueue.Parts where
  older : List Packet
  newer : List Packet
  bytes : Nat
  newest : Option Packet
  bytes_eq : bytes = Packet.totalSize (older ++ newer.reverse)
  newest_eq : newest = (older ++ newer.reverse).getLast?

namespace PacketQueue.Parts

/-- The packets of both parts, oldest first. -/
def packets (parts : Parts) : List Packet :=
  parts.older ++ parts.newer.reverse

/-- Parts that hold the same packets. -/
instance setoid : Setoid Parts where
  r := fun left right => left.packets = right.packets
  iseqv := ⟨fun _ => rfl, Eq.symm, Eq.trans⟩

/-- The parts of a list of packets, counted afresh. -/
def ofPackets (packets : List Packet) : Parts where
  older := packets
  newer := []
  bytes := Packet.totalSize packets
  newest := packets.getLast?
  bytes_eq := by simp
  newest_eq := by simp

/-- Add a packet as the newest. -/
def push (parts : Parts) (packet : Packet) : Parts where
  older := parts.older
  newer := packet :: parts.newer
  bytes := parts.bytes + packet.size
  newest := some packet
  bytes_eq := by
    simp [parts.bytes_eq, Nat.add_assoc]
  newest_eq := by simp

/-- The parts of what is left after the oldest `left` packets. -/
def dropped (parts : Parts) (left : Nat) (older newer : List Packet) (bytes : Nat)
    (packets_eq : older ++ newer.reverse = parts.packets.drop left)
    (bytes_eq : bytes = parts.bytes - Packet.totalSize (parts.packets.take left)) :
    Parts where
  older := older
  newer := newer
  bytes := bytes
  newest := if older.isEmpty && newer.isEmpty then none else parts.newest
  bytes_eq := by
    have hsum := Packet.totalSize_take_add_drop left parts.packets
    have hbytes : parts.bytes = Packet.totalSize parts.packets := parts.bytes_eq
    rw [bytes_eq, packets_eq, hbytes]
    omega
  newest_eq := by
    have hnewest : parts.newest = parts.packets.getLast? := parts.newest_eq
    have hempty : (older.isEmpty && newer.isEmpty) = true ↔
        parts.packets.drop left = [] := by
      rw [← packets_eq]
      simp
    rw [packets_eq, List.getLast?_drop, hnewest]
    simp only [hempty, List.drop_eq_nil_iff]

theorem packets_dropped (parts : Parts) (left : Nat) (older newer : List Packet)
    (bytes : Nat) (packets_eq : older ++ newer.reverse = parts.packets.drop left)
    (bytes_eq : bytes = parts.bytes - Packet.totalSize (parts.packets.take left)) :
    (parts.dropped left older newer bytes packets_eq bytes_eq).packets =
      parts.packets.drop left :=
  packets_eq

theorem left_eq_length_of_nil {parts : Parts} {leaves : Nat → Packet → Bool}
    (hnil : (Packet.letLeave leaves parts.older parts.bytes 0).packets = []) :
    Packet.leaving leaves parts.older parts.bytes = parts.older.length := by
  have hle := Packet.leaving_le_length leaves parts.older parts.bytes
  simp only [Packet.letLeave_eq, List.drop_eq_nil_iff] at hnil
  omega

/-- Let packets leave at the front; also answers how many left.  The newer part
is turned over once the older one is used up. -/
def release (leaves : Nat → Packet → Bool) (parts : Parts) : Parts × Nat :=
  let front := Packet.letLeave leaves parts.older parts.bytes 0
  if hfront : front.packets = [] then
    let back := Packet.letLeave leaves parts.newer.reverse front.bytes front.left
    (parts.dropped back.left back.packets [] back.bytes
      (by
        have hlength := left_eq_length_of_nil hfront
        simp only [back, front, Packet.letLeave_eq]
        simp [packets, List.drop_append, hlength])
      (by
        have hlength := left_eq_length_of_nil hfront
        simp only [back, front, Packet.letLeave_eq]
        simp [packets, List.take_append, hlength, Nat.sub_sub,
          List.take_of_length_le (Nat.le_add_right parts.older.length _)]), back.left)
  else
    (parts.dropped front.left front.packets parts.newer front.bytes
      (by
        have hlength := Packet.leaving_le_length leaves parts.older parts.bytes
        simp only [front, Packet.letLeave_eq]
        simp [packets, List.drop_append_of_le_length, hlength])
      (by
        have hlength := Packet.leaving_le_length leaves parts.older parts.bytes
        simp only [front, Packet.letLeave_eq]
        simp [packets, List.take_append_of_le_length, hlength]), front.left)

@[simp]
theorem packets_ofPackets (packets : List Packet) :
    (ofPackets packets).packets = packets := by
  simp [ofPackets, Parts.packets]

@[simp]
theorem packets_push (parts : Parts) (packet : Packet) :
    (parts.push packet).packets = parts.packets ++ [packet] := by
  simp [push, packets]

theorem released_eq (leaves : Nat → Packet → Bool) (parts : Parts) :
    (parts.release leaves).2 =
      Packet.leaving leaves parts.packets parts.bytes := by
  simp only [release, packets, Packet.leaving_append]
  split
  · rename_i hnil
    simp [left_eq_length_of_nil hnil, Packet.letLeave_eq]
  · rename_i hnil
    have hne : Packet.leaving leaves parts.older parts.bytes ≠ parts.older.length := by
      intro h
      simp [Packet.letLeave_eq, h] at hnil
    simp [hne, Packet.letLeave_eq]

theorem packets_release (leaves : Nat → Packet → Bool) (parts : Parts) :
    (parts.release leaves).1.packets =
      parts.packets.drop (Packet.leaving leaves parts.packets parts.bytes) := by
  have hdrop : (parts.release leaves).1.packets =
      parts.packets.drop (parts.release leaves).2 := by
    unfold release
    extract_lets front back
    split <;> simp only [packets_dropped]
  rw [hdrop, released_eq]

end PacketQueue.Parts

/-! ## Queues -/

/-- Packets, oldest first, with their byte count and the newest of them at
hand. -/
def PacketQueue :=
  Quotient PacketQueue.Parts.setoid

namespace PacketQueue

/-- Packets of the queue, oldest first. -/
def packets : PacketQueue → List Packet :=
  Quotient.lift Parts.packets fun _ _ h => h

/-- The queue of a list of packets, counted afresh. -/
def ofPackets (packets : List Packet) : PacketQueue :=
  Quotient.mk _ (Parts.ofPackets packets)

/-- The queue without packets. -/
def empty : PacketQueue :=
  ofPackets []

/-- Bytes of all packets of the queue. -/
def bytes : PacketQueue → Nat :=
  Quotient.lift Parts.bytes fun left right h =>
    left.bytes_eq.trans ((congrArg Packet.totalSize h).trans right.bytes_eq.symm)

/-- The newest packet of the queue. -/
def newest? : PacketQueue → Option Packet :=
  Quotient.lift Parts.newest fun left right h =>
    left.newest_eq.trans ((congrArg List.getLast? h).trans right.newest_eq.symm)

/-- Add a packet as the newest. -/
def push (queue : PacketQueue) (packet : Packet) : PacketQueue :=
  queue.lift (fun parts => Quotient.mk _ (parts.push packet)) fun left right h =>
    Quotient.sound <| show (left.push packet).packets = (right.push packet).packets by
      rw [Parts.packets_push, Parts.packets_push, show left.packets = right.packets from h]

/-- Let packets leave at the front; also answers how many left. -/
def release (leaves : Nat → Packet → Bool) (queue : PacketQueue) : PacketQueue × Nat :=
  queue.lift
    (fun parts =>
      let kept := parts.release leaves
      (Quotient.mk _ kept.1, kept.2))
    fun left right h => by
      have hpackets : left.packets = right.packets := h
      have hbytes : left.bytes = right.bytes := by
        exact left.bytes_eq.trans
          ((congrArg Packet.totalSize hpackets).trans right.bytes_eq.symm)
      refine Prod.ext (Quotient.sound ?_) ?_
      · show (left.release leaves).1.packets = (right.release leaves).1.packets
        rw [Parts.packets_release, Parts.packets_release, hpackets, hbytes]
      · show (left.release leaves).2 = (right.release leaves).2
        rw [Parts.released_eq, Parts.released_eq, hpackets, hbytes]

/-- Evict the oldest packets until at most `limit` bytes are stored; also answers
how many were evicted. -/
def evictTo (queue : PacketQueue) (limit : Nat) : PacketQueue × Nat :=
  queue.release fun bytes _ => limit < bytes

/-- Remove packets up to the first one tagged after `limit`; also answers how
many were removed. -/
def deleteUntil (queue : PacketQueue) (limit : TimeTag) : PacketQueue × Nat :=
  queue.release fun _ packet => packet.timeTag ≤ limit

/-- How many of the oldest packets have to go before at most `limit` bytes are
left; `bytes` is what all of them occupy. -/
def excess (limit : Nat) (packets : List Packet) (bytes : Nat) : Nat :=
  Packet.leaving (fun bytes _ => limit < bytes) packets bytes

/-! ### Queues as lists of packets -/

@[simp]
theorem packets_ofPackets (packets : List Packet) :
    (ofPackets packets).packets = packets :=
  Parts.packets_ofPackets packets

@[simp]
theorem packets_empty : empty.packets = [] :=
  rfl

@[simp]
theorem packets_push (queue : PacketQueue) (packet : Packet) :
    (queue.push packet).packets = queue.packets ++ [packet] := by
  induction queue using Quotient.ind with
  | _ parts => exact parts.packets_push packet

theorem bytes_eq (queue : PacketQueue) :
    queue.bytes = Packet.totalSize queue.packets := by
  induction queue using Quotient.ind with
  | _ parts => exact parts.bytes_eq

theorem newest?_eq (queue : PacketQueue) :
    queue.newest? = queue.packets.getLast? := by
  induction queue using Quotient.ind with
  | _ parts => exact parts.newest_eq

/-- Queues of the same packets are equal. -/
theorem ext_packets {left right : PacketQueue} (h : left.packets = right.packets) :
    left = right := by
  induction left using Quotient.ind with
  | _ left =>
      induction right using Quotient.ind with
      | _ right => exact Quotient.sound h

@[simp]
theorem ofPackets_packets (queue : PacketQueue) :
    ofPackets queue.packets = queue :=
  ext_packets (packets_ofPackets _)

instance : DecidableEq PacketQueue := fun left right =>
  decidable_of_iff (left.packets = right.packets)
    ⟨ext_packets, congrArg PacketQueue.packets⟩

theorem packets_release (leaves : Nat → Packet → Bool) (queue : PacketQueue) :
    (queue.release leaves).1.packets =
      queue.packets.drop (Packet.leaving leaves queue.packets queue.bytes) := by
  induction queue using Quotient.ind with
  | _ parts => exact parts.packets_release leaves

theorem released_eq (leaves : Nat → Packet → Bool) (queue : PacketQueue) :
    (queue.release leaves).2 = Packet.leaving leaves queue.packets queue.bytes := by
  induction queue using Quotient.ind with
  | _ parts => exact parts.released_eq leaves

/-! ### Eviction -/

theorem packets_evictTo (queue : PacketQueue) (limit : Nat) :
    (queue.evictTo limit).1.packets =
      queue.packets.drop (excess limit queue.packets queue.bytes) :=
  queue.packets_release _

theorem evicted_eq (queue : PacketQueue) (limit : Nat) :
    (queue.evictTo limit).2 = excess limit queue.packets queue.bytes :=
  queue.released_eq _

/-- Nothing is evicted from packets that fit. -/
theorem excess_eq_zero {limit bytes : Nat} (packets : List Packet)
    (hfits : bytes ≤ limit) : excess limit packets bytes = 0 := by
  cases packets <;> simp [excess, Packet.leaving, hfits]

/-- What is left after eviction fits the limit. -/
theorem totalSize_drop_excess_le (limit : Nat) (packets : List Packet) :
    Packet.totalSize (packets.drop (excess limit packets (Packet.totalSize packets))) ≤
      limit := by
  induction packets with
  | nil => simp
  | cons packet rest ih =>
      by_cases hover : limit < packet.size + Packet.totalSize rest
      · simpa [excess, Packet.leaving, hover] using ih
      · simp only [excess, Packet.leaving, Packet.totalSize_cons, hover, decide_false,
          Bool.false_eq_true, if_false, List.drop_zero]
        omega

/-- Eviction is minimal: leaving one more packet in place would not fit. -/
theorem lt_totalSize_drop_of_lt_excess (limit : Nat) (packets : List Packet)
    (count : Nat) (hcount : count < excess limit packets (Packet.totalSize packets)) :
    limit < Packet.totalSize (packets.drop count) := by
  induction packets generalizing count with
  | nil => simp [excess, Packet.leaving] at hcount
  | cons packet rest ih =>
      by_cases hover : limit < packet.size + Packet.totalSize rest
      · cases count with
        | zero => simpa using hover
        | succ count =>
            exact ih count (by simpa [excess, Packet.leaving, hover] using hcount)
      · simp [excess, Packet.leaving, hover] at hcount

/-! ### Deletion up to a tag -/

theorem packets_deleteUntil (queue : PacketQueue) (limit : TimeTag) :
    (queue.deleteUntil limit).1.packets =
      queue.packets.dropWhile fun packet => packet.timeTag ≤ limit := by
  rw [deleteUntil, packets_release, Packet.leaving_eq_length_takeWhile]
  induction queue.packets with
  | nil => rfl
  | cons packet rest ih =>
      by_cases h : packet.timeTag ≤ limit <;> simp [h, ih]

end PacketQueue

end OnboardStorage
