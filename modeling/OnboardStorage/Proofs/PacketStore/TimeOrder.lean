import OnboardStorage.PacketStore

/-!
# Packets in time order

Where the tags of a store do not descend, its first and its last packet stand for
all of them.  Nothing but the order is assumed, so these facts hold of a store
that is not sound as well.
-/

namespace OnboardStorage.PacketStore

variable {store : PacketStore}

theorem newestTag?_eq_none_iff : store.newestTag? = none ↔ store.packets = [] := by
  rw [newestTag?_eq, Option.map_eq_none_iff, List.getLast?_eq_none_iff]

theorem oldestTag?_eq_none_iff : store.oldestTag? = none ↔ store.packets = [] := by
  rw [oldestTag?, Option.map_eq_none_iff, List.head?_eq_none_iff]

theorem exists_oldest {tag : TimeTag} (oldest : store.oldestTag? = some tag) :
    ∃ packet ∈ store.packets, packet.timeTag = tag := by
  rw [oldestTag?, Option.map_eq_some_iff] at oldest
  rcases oldest with ⟨packet, isFirst, equal⟩
  exact ⟨packet, List.mem_of_head? isFirst, equal⟩

theorem exists_newest {tag : TimeTag} (newest : store.newestTag? = some tag) :
    ∃ packet ∈ store.packets, packet.timeTag = tag := by
  rw [newestTag?_eq, Option.map_eq_some_iff] at newest
  rcases newest with ⟨packet, isLast, equal⟩
  exact ⟨packet, List.mem_of_getLast? isLast, equal⟩

/-- The oldest packet has the first tag. -/
theorem oldest_le_tag
    (ordered : store.packets.Pairwise fun older newer => older.timeTag ≤ newer.timeTag)
    {oldest : TimeTag} (first : store.oldestTag? = some oldest) {packet : Packet}
    (member : packet ∈ store.packets) : oldest ≤ packet.timeTag := by
  rw [oldestTag?, Option.map_eq_some_iff] at first
  rcases first with ⟨front, isFirst, rfl⟩
  rcases List.head?_eq_some_iff.mp isFirst with ⟨rest, equal⟩
  rw [equal, List.pairwise_cons] at ordered
  rw [equal, List.mem_cons] at member
  rcases member with rfl | later
  · exact UInt32.le_refl _
  · exact ordered.1 packet later

/-- The newest packet has the last tag. -/
theorem tag_le_newest
    (ordered : store.packets.Pairwise fun older newer => older.timeTag ≤ newer.timeTag)
    {newest : TimeTag} (last : store.newestTag? = some newest) {packet : Packet}
    (member : packet ∈ store.packets) : packet.timeTag ≤ newest := by
  rw [newestTag?_eq, Option.map_eq_some_iff] at last
  rcases last with ⟨final, isLast, rfl⟩
  rcases List.getLast?_eq_some_iff.mp isLast with ⟨earlier, equal⟩
  rw [equal, List.pairwise_append] at ordered
  rw [equal, List.mem_append, List.mem_singleton] at member
  rcases member with early | rfl
  · exact ordered.2.2 packet early final (List.mem_singleton_self final)
  · exact UInt32.le_refl _

/-- The oldest tag of packets in time order is the least one. -/
theorem oldestTag?_eq_some_iff
    (ordered : store.packets.Pairwise fun older newer => older.timeTag ≤ newer.timeTag)
    {tag : TimeTag} :
    store.oldestTag? = some tag ↔
      (∃ packet ∈ store.packets, packet.timeTag = tag) ∧
        ∀ packet ∈ store.packets, tag ≤ packet.timeTag := by
  constructor
  · intro oldest
    exact ⟨exists_oldest oldest, fun packet member => oldest_le_tag ordered oldest member⟩
  · rintro ⟨⟨packet, member, rfl⟩, least⟩
    cases oldest : store.oldestTag? with
    | none =>
        rw [oldestTag?_eq_none_iff.mp oldest] at member
        cases member
    | some first =>
        rcases exists_oldest oldest with ⟨front, listed, rfl⟩
        exact congrArg some
          (UInt32.le_antisymm (oldest_le_tag ordered oldest member) (least front listed))

/-- The newest tag of packets in time order is the greatest one. -/
theorem newestTag?_eq_some_iff
    (ordered : store.packets.Pairwise fun older newer => older.timeTag ≤ newer.timeTag)
    {tag : TimeTag} :
    store.newestTag? = some tag ↔
      (∃ packet ∈ store.packets, packet.timeTag = tag) ∧
        ∀ packet ∈ store.packets, packet.timeTag ≤ tag := by
  constructor
  · intro newest
    exact ⟨exists_newest newest, fun packet member => tag_le_newest ordered newest member⟩
  · rintro ⟨⟨packet, member, rfl⟩, greatest⟩
    cases newest : store.newestTag? with
    | none =>
        rw [newestTag?_eq_none_iff.mp newest] at member
        cases member
    | some last =>
        rcases exists_newest newest with ⟨final, listed, rfl⟩
        exact congrArg some
          (UInt32.le_antisymm (greatest final listed) (tag_le_newest ordered newest member))

/-- All packets lie before a tag exactly when the newest one does. -/
theorem forall_tag_lt_iff
    (ordered : store.packets.Pairwise fun older newer => older.timeTag ≤ newer.timeTag)
    {newest tag : TimeTag} (last : store.newestTag? = some newest) :
    (∀ packet ∈ store.packets, packet.timeTag < tag) ↔ newest < tag := by
  constructor
  · intro before
    rcases exists_newest last with ⟨packet, member, rfl⟩
    exact before packet member
  · intro before packet member
    exact UInt32.lt_of_le_of_lt (tag_le_newest ordered last member) before

/-- All packets lie after a tag exactly when the oldest one does. -/
theorem forall_lt_tag_iff
    (ordered : store.packets.Pairwise fun older newer => older.timeTag ≤ newer.timeTag)
    {oldest tag : TimeTag} (first : store.oldestTag? = some oldest) :
    (∀ packet ∈ store.packets, tag < packet.timeTag) ↔ tag < oldest := by
  constructor
  · intro after
    rcases exists_oldest first with ⟨packet, member, rfl⟩
    exact after packet member
  · intro after packet member
    exact UInt32.lt_of_lt_of_le after (oldest_le_tag ordered first member)

end OnboardStorage.PacketStore
