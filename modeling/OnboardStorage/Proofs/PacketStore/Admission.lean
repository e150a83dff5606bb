import OnboardStorage.PacketStore.Admission
import OnboardStorage.Proofs.Check

/-!
# What admission, resizing and deletion do to a store

Each of the three is described once, through the list of packets and nothing
else: how many of the oldest packets go, that what is left satisfies the rule
they went for, and that fewer would not have been enough.  Later modules rely
on these descriptions alone.
-/

namespace OnboardStorage.PacketStore

/-- A packet is taken exactly when no rule stands against it. -/
theorem refusal?_eq_none_iff {store : PacketStore} {packet : Packet} :
    store.refusal? packet = none ↔
      packet.data ≠ [] ∧
      (∀ newest ∈ store.newestTag?, newest ≤ packet.timeTag) ∧
      packet.size ≤ store.capacity.toNat ∧
      (store.kind = .bounded →
        store.storedBytes + packet.size ≤ store.capacity.toNat) := by
  have ordered : store.newestTag?.filter (packet.timeTag < ·) = none ↔
      ∀ newest ∈ store.newestTag?, newest ≤ packet.timeTag := by
    cases store.newestTag? with
    | none => simp
    | some newest => simp [Option.filter, UInt32.not_lt]
  unfold refusal?
  rw [refusing_eq_none_iff, List.isEmpty_iff, ← ordered]
  cases store.newestTag?.filter (packet.timeTag < ·) with
  | some newest => simp
  | none => simp [refusing_eq_none_iff]

/-- What taking `packet` makes of a store: nothing but the content changes, and
as few packets as possible go. -/
structure Takes (store : PacketStore) (packet : Packet) (grown : PacketStore)
    (evicted : Nat) : Prop where
  settings : grown = { store with content := grown.content }
  packets : grown.packets = store.packets.drop evicted ++ [packet]
  evicted_le : evicted ≤ store.packets.length
  fits : Packet.totalSize grown.packets ≤ store.capacity.toNat
  needed : ∀ fewer < evicted,
    store.capacity.toNat < Packet.totalSize (store.packets.drop fewer ++ [packet])
  nonempty : packet.data ≠ []
  ordered : ∀ newest ∈ store.newestTag?, newest ≤ packet.timeTag

/-- A store that takes a packet is the same store with the packet behind those that
stay. -/
theorem Takes.grown_eq {store grown : PacketStore} {packet : Packet} {evicted : Nat}
    (taken : store.Takes packet grown evicted) :
    grown = { store with
      content := .ofPackets (store.packets.drop evicted ++ [packet]) } := by
  have content_eq : grown.content =
      .ofPackets (store.packets.drop evicted ++ [packet]) := by
    rw [← taken.packets]
    exact (PacketQueue.ofPackets_packets grown.content).symm
  rw [← content_eq]
  exact taken.settings

/-- A refusal leaves the store as it was. -/
theorem accept_eq_error_iff {store left : PacketStore} {packet : Packet}
    {refusal : Refusal} :
    store.accept packet = (left, .error refusal) ↔
      left = store ∧ store.refusal? packet = some refusal := by
  unfold accept
  cases store.refusal? packet <;> simp [eq_comm]

theorem takes_of_accept_eq_ok {store grown : PacketStore} {packet : Packet}
    {evicted : Nat} (accepted : store.accept packet = (grown, .ok evicted)) :
    store.Takes packet grown evicted := by
  unfold accept at accepted
  split at accepted
  · cases accepted
  · rename_i free
    obtain ⟨nonempty, ordered, room, -⟩ := refusal?_eq_none_iff.mp free
    cases accepted
    have bytes_eq : store.content.bytes = Packet.totalSize store.packets :=
      store.storedBytes_eq
    have packets_eq :
        (store.content.evictTo (store.capacity.toNat - packet.size)).1.packets =
          store.packets.drop
            (store.content.evictTo (store.capacity.toNat - packet.size)).2 := by
      rw [PacketQueue.packets_evictTo, PacketQueue.evicted_eq]
      rfl
    have evicted_eq :
        (store.content.evictTo (store.capacity.toNat - packet.size)).2 =
          PacketQueue.excess (store.capacity.toNat - packet.size) store.packets
            (Packet.totalSize store.packets) := by
      rw [PacketQueue.evicted_eq, bytes_eq]
      rfl
    refine ⟨rfl, ?_, ?_, ?_, ?_, nonempty, ordered⟩
    · simp only [PacketStore.packets, PacketQueue.packets_push] at packets_eq ⊢
      rw [packets_eq]
    · rw [evicted_eq]
      exact Packet.leaving_le_length _ _ _
    · have left := PacketQueue.totalSize_drop_excess_le
        (store.capacity.toNat - packet.size) store.packets
      rw [← evicted_eq] at left
      simp only [PacketStore.packets, PacketQueue.packets_push] at packets_eq left ⊢
      rw [packets_eq, Packet.totalSize_append, Packet.totalSize_cons,
        Packet.totalSize_nil]
      omega
    · intro fewer less
      rw [evicted_eq] at less
      have overfull := PacketQueue.lt_totalSize_drop_of_lt_excess _ _ _ less
      rw [Packet.totalSize_append, Packet.totalSize_cons, Packet.totalSize_nil]
      omega

/-- A packet that no rule stands against is taken, by a bounded store without giving
anything up. -/
theorem exists_takes_of_free {store : PacketStore} {packet : Packet}
    (free : store.refusal? packet = none) :
    ∃ grown evicted, store.accept packet = (grown, .ok evicted) ∧
      store.Takes packet grown evicted ∧ (store.kind = .bounded → evicted = 0) := by
  rcases accepted : store.accept packet with ⟨grown, refusal | evicted⟩
  · rw [(accept_eq_error_iff.mp accepted).2] at free
    cases free
  · refine ⟨grown, evicted, rfl, takes_of_accept_eq_ok accepted, ?_⟩
    intro bounded
    rw [accept, free] at accepted
    cases accepted
    exact evictTo_of_bounded bounded free

/-- What a new capacity makes of a store. -/
structure Shrinks (store : PacketStore) (capacity : UInt32) (kept : PacketStore)
    (evicted : Nat) : Prop where
  settings : kept = { store with capacity := capacity, content := kept.content }
  packets : kept.packets = store.packets.drop evicted
  evicted_le : evicted ≤ store.packets.length
  fits : Packet.totalSize kept.packets ≤ capacity.toNat
  needed : ∀ fewer < evicted,
    capacity.toNat < Packet.totalSize (store.packets.drop fewer)

theorem shrinks_resize (store : PacketStore) (capacity : UInt32) :
    store.Shrinks capacity (store.resize capacity).1 (store.resize capacity).2 := by
  have bytes_eq : store.content.bytes = Packet.totalSize store.packets :=
    store.storedBytes_eq
  have evicted_eq : (store.resize capacity).2 =
      PacketQueue.excess capacity.toNat store.packets
        (Packet.totalSize store.packets) := by
    rw [resize, PacketQueue.evicted_eq, bytes_eq]
    rfl
  have packets_eq : (store.resize capacity).1.packets =
      store.packets.drop (store.resize capacity).2 := by
    rw [evicted_eq, ← bytes_eq]
    exact PacketQueue.packets_evictTo _ _
  refine ⟨rfl, packets_eq, ?_, ?_, ?_⟩
  · rw [evicted_eq]
    exact Packet.leaving_le_length _ _ _
  · rw [packets_eq, evicted_eq]
    exact PacketQueue.totalSize_drop_excess_le _ _
  · intro fewer less
    rw [evicted_eq] at less
    exact PacketQueue.lt_totalSize_drop_of_lt_excess _ _ _ less

theorem packets_deleteUntil (store : PacketStore) (limit : TimeTag) :
    (store.deleteUntil limit).1.packets =
      store.packets.dropWhile fun packet => packet.timeTag ≤ limit :=
  PacketQueue.packets_deleteUntil _ _

/-- Packets in time order have those up to a limit in front. -/
theorem exists_dropWhile_eq_drop {packets : List Packet} (limit : TimeTag)
    (ordered : packets.Pairwise fun older newer => older.timeTag ≤ newer.timeTag) :
    ∃ old ≤ packets.length,
      (packets.dropWhile fun packet => packet.timeTag ≤ limit) = packets.drop old ∧
      (∀ packet ∈ packets.drop old, limit < packet.timeTag) ∧
      ∀ fewer < old, ∃ packet ∈ packets.drop fewer, packet.timeTag ≤ limit := by
  induction packets with
  | nil => exact ⟨0, Nat.le_refl _, rfl, by simp, by simp⟩
  | cons packet rest ih =>
      obtain ⟨later, restOrdered⟩ := List.pairwise_cons.mp ordered
      by_cases isOld : packet.timeTag ≤ limit
      · obtain ⟨old, old_le, equal, recent, needed⟩ := ih restOrdered
        refine ⟨old + 1, Nat.succ_le_succ old_le, ?_, recent, ?_⟩
        · rw [List.dropWhile_cons_of_pos (by simpa using isOld), equal]
          rfl
        · intro fewer less
          cases fewer with
          | zero => exact ⟨packet, List.mem_cons_self, isOld⟩
          | succ count => exact needed count (Nat.lt_of_succ_lt_succ less)
      · have recent : limit < packet.timeTag := UInt32.not_le.mp isOld
        refine ⟨0, Nat.zero_le _, ?_, ?_, by simp⟩
        · rw [List.dropWhile_cons_of_neg (by simpa using recent)]
          rfl
        · intro held member
          rcases List.mem_cons.mp member with rfl | behind
          · exact recent
          · exact UInt32.lt_of_lt_of_le recent (later held behind)

/-- What deletion up to `limit` makes of a store in time order. -/
structure Trims (store : PacketStore) (limit : TimeTag) (kept : PacketStore)
    (deleted : Nat) : Prop where
  packets : kept.packets = store.packets.drop deleted
  deleted_le : deleted ≤ store.packets.length
  cleared : ∀ packet ∈ kept.packets, limit < packet.timeTag
  needed : ∀ fewer < deleted,
    ∃ packet ∈ store.packets.drop fewer, packet.timeTag ≤ limit

theorem trims_deleteUntil {store : PacketStore}
    (ordered : store.packets.Pairwise fun older newer => older.timeTag ≤ newer.timeTag)
    (limit : TimeTag) :
    ∃ deleted, store.Trims limit (store.deleteUntil limit).1 deleted := by
  obtain ⟨deleted, deleted_le, equal, cleared, needed⟩ :=
    exists_dropWhile_eq_drop limit ordered
  have packets_eq := (store.packets_deleteUntil limit).trans equal
  exact ⟨deleted, packets_eq, deleted_le, packets_eq ▸ cleared, needed⟩

end OnboardStorage.PacketStore
