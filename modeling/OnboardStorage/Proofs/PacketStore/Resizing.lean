import OnboardStorage.Proofs.PacketStore.Admission

/-!
# Changes of capacity in turn

What a store holds after several changes of capacity depends on the smallest of them
alone: a capacity that was larger in between has nothing to give back, and one that
was smaller has left nothing to give up.
-/

namespace OnboardStorage.PacketStore

/-- Packets that fit a new capacity all stay. -/
theorem packets_resize_of_le (store : PacketStore) {capacity : UInt32}
    (fits : Packet.totalSize store.packets ≤ capacity.toNat) :
    (store.resize capacity).1.packets = store.packets := by
  have shrinks := store.shrinks_resize capacity
  have none : (store.resize capacity).2 = 0 := by
    apply Nat.eq_zero_of_not_pos
    intro some
    have needed := shrinks.needed 0 some
    rw [List.drop_zero] at needed
    omega
  rw [shrinks.packets, none, List.drop_zero]

/-- A capacity that was larger in between makes no difference. -/
theorem packets_resize_resize (store : PacketStore) {small large : UInt32}
    (le : small.toNat ≤ large.toNat) :
    ((store.resize large).1.resize small).1.packets = (store.resize small).1.packets := by
  have first := store.shrinks_resize large
  have second := (store.resize large).1.shrinks_resize small
  have direct := store.shrinks_resize small
  have packets_eq := second.packets
  have fits := second.fits
  have needed := second.needed
  rw [first.packets, List.drop_drop] at packets_eq
  simp only [first.packets, List.drop_drop] at needed
  generalize (store.resize large).2 = begun at first packets_eq needed
  generalize ((store.resize large).1.resize small).2 = further at packets_eq needed
  have few : ¬ (store.resize small).2 < begun + further := by
    intro fewer
    have room := direct.fits
    rw [direct.packets] at room
    by_cases early : (store.resize small).2 < begun
    · have lacking := first.needed _ early
      omega
    · have lacking := needed ((store.resize small).2 - begun) (by omega)
      rw [Nat.add_sub_cancel' (Nat.not_lt.mp early)] at lacking
      omega
  have many : ¬ begun + further < (store.resize small).2 := by
    intro fewer
    have lacking := direct.needed _ fewer
    rw [packets_eq] at fits
    omega
  rw [packets_eq, direct.packets, Nat.le_antisymm (Nat.not_lt.mp few) (Nat.not_lt.mp many)]

/-- Two changes of capacity keep what the smaller of the two keeps. -/
theorem packets_resize_min (store : PacketStore) (first second : UInt32) :
    ((store.resize first).1.resize second).1.packets =
      (store.resize (min first second)).1.packets := by
  by_cases le : first ≤ second
  · have firstFits := (store.shrinks_resize first).fits
    have min_eq : min first second = first := if_pos le
    rw [min_eq]
    exact packets_resize_of_le _ (Nat.le_trans firstFits (UInt32.le_iff_toNat_le.mp le))
  · have min_eq : min first second = second := if_neg le
    rw [min_eq]
    exact packets_resize_resize _ (Nat.le_of_lt (UInt32.not_le.mp le))

/-- Of two changes of capacity the first leaves no trace that it would not leave if it
were made again. -/
theorem resize_resize_resize (store : PacketStore) (first second : UInt32) :
    (((store.resize first).1.resize second).1.resize first).1 =
      ((store.resize second).1.resize first).1 := by
  have least : min first (min second first) = min second first := by
    by_cases le : second ≤ first
    · have min_eq : min second first = second := if_pos le
      rw [min_eq]
      by_cases ge : first ≤ second
      · exact (if_pos ge).trans (UInt32.le_antisymm ge le)
      · exact if_neg ge
    · have min_eq : min second first = first := if_neg le
      rw [min_eq]
      exact if_pos (UInt32.le_refl first)
  have packets_eq : (((store.resize first).1.resize second).1.resize first).1.packets =
      ((store.resize second).1.resize first).1.packets := by
    rw [packets_resize_min, packets_resize_min, packets_resize_min, least]
  exact congrArg (fun content => { store with capacity := first, content := content })
    (PacketQueue.ext_packets packets_eq)

end OnboardStorage.PacketStore
