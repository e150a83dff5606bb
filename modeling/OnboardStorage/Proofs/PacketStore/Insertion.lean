import OnboardStorage.Proofs.PacketStore.Resizing
import OnboardStorage.Proofs.Precedence

/-!
# Filing a packet into any store

Nothing is assumed of a store here: its content may exceed its capacity, its tags may
descend, and it may hold empty messages, as a snapshot that has not been checked may
describe.  A packet that is filed is answered by the first ground that stands against
it, and then the store stays as it was.  Any other packet becomes the newest one, and
the store gives up as few of its oldest packets as will bring it within its capacity,
however far it exceeded that before.
-/

namespace OnboardStorage.PacketStore

/-! ## Grounds against a packet -/

/-- What stands against a packet for want of room. -/
def roomGrounds (store : PacketStore) (packet : Packet) : List (Ground Refusal) :=
  [⟨store.capacity.toNat < packet.data.length,
      .exceedsCapacity packet.data.length store.capacity.toNat⟩,
    ⟨store.kind = .bounded ∧
        store.capacity.toNat < Packet.totalSize store.packets + packet.data.length,
      .storeFull⟩]

/-- What stands against taking a packet, whether or not storage is enabled.  The tag is
compared with that of the last packet alone. -/
def refusalGrounds (store : PacketStore) (packet : Packet) : List (Ground Refusal) :=
  ⟨packet.data = [], .emptyMessage⟩ ::
    (store.packets.getLast?.toList.map fun newest =>
      ⟨packet.timeTag < newest.timeTag,
        .outOfOrder packet.timeTag newest.timeTag⟩) ++
    store.roomGrounds packet

/-- What a packet is answered with when it is not stored. -/
def insertionGrounds (store : PacketStore) (packet : Packet) :
    List (Ground (Except Refusal Insertion)) :=
  ⟨store.storageEnabled = false, .ok .storageDisabled⟩ ::
    (store.refusalGrounds packet).map (Ground.map .error)

/-- The rules are tried in the order of the grounds. -/
theorem decides_refusal? (store : PacketStore) (packet : Packet) :
    Decides (store.refusalGrounds packet) (store.refusal? packet) := by
  have room : Decides (store.roomGrounds packet)
      (if store.capacity.toNat < packet.size then
        some (.exceedsCapacity packet.size store.capacity.toNat)
      else if store.kind = .bounded ∧
          store.capacity.toNat < store.storedBytes + packet.size then some .storeFull
      else none) := by
    rw [storedBytes_eq]
    apply Decides.refusing
    · exact Iff.rfl
    · intro _
      exact .refusal Iff.rfl
  apply Decides.refusing
  · exact List.isEmpty_iff.symm
  intro _
  rw [newestTag?_eq]
  cases store.packets.getLast? with
  | none => exact room
  | some newest =>
      by_cases late : packet.timeTag < newest.timeTag
      · simp only [Option.map_some, Option.filter, late]
        exact .here late
      · simp only [Option.map_some, Option.filter, late]
        exact .later late room

/-! ## Filing -/

theorem file_of_enabled {store : PacketStore} {packet : Packet}
    (enabled : store.storageEnabled = true) :
    store.file packet =
      ((store.accept packet).1, (store.accept packet).2.map .stored) :=
  if_pos enabled

/-- With storage enabled a packet is refused on the first ground, and then the store
stays as it was.  Without one it is taken, by a bounded store without giving anything
up. -/
theorem exists_decision_file {store : PacketStore}
    (enabled : store.storageEnabled = true) (packet : Packet) :
    ∃ decision, Decides (store.refusalGrounds packet) decision ∧
      match decision with
      | some refusal => store.file packet = (store, .error refusal)
      | none => ∃ grown evicted,
          store.file packet = (grown, .ok (.stored evicted)) ∧
          store.Takes packet grown evicted ∧ (store.kind = .bounded → evicted = 0) := by
  refine ⟨_, store.decides_refusal? packet, ?_⟩
  rw [file_of_enabled enabled]
  cases refused : store.refusal? packet with
  | some refusal =>
      rw [accept_eq_error_iff.mpr ⟨rfl, refused⟩]
      rfl
  | none =>
      rcases exists_takes_of_free refused with ⟨grown, evicted, accepted, taken, unmoved⟩
      rw [accepted]
      exact ⟨grown, evicted, rfl, taken, unmoved⟩

/-- What storing `packet` makes of a store: as few of the oldest packets as possible
go, and the rest fits beside the new one. -/
structure Stores (store : PacketStore) (packet : Packet) (grown : PacketStore)
    (evicted : Nat) : Prop where
  taken : store.Takes packet grown evicted
  unmoved : store.kind = .bounded → evicted = 0
  counted : grown.storedBytes = Packet.totalSize grown.packets
  within : grown.storedBytes ≤ grown.capacity.toNat

/-- A packet is answered by the first ground, and the store stays as it was; without
one it is stored. -/
theorem exists_decision_stores (store : PacketStore) (packet : Packet) :
    ∃ decision, Decides (store.insertionGrounds packet) decision ∧
      match decision with
      | some answer => store.file packet = (store, answer)
      | none => ∃ grown evicted,
          store.file packet = (grown, .ok (.stored evicted)) ∧
          store.Stores packet grown evicted := by
  cases enabled : store.storageEnabled with
  | false =>
      refine ⟨_, .here enabled, ?_⟩
      simp [file, enabled]
  | true =>
      have passes : ¬ store.storageEnabled = false := by simp [enabled]
      rcases exists_decision_file enabled packet with ⟨decision, decides, outcome⟩
      refine ⟨_, .later passes (decides.map Except.error), ?_⟩
      cases decision with
      | some refusal => exact outcome
      | none =>
          rcases outcome with ⟨grown, evicted, filed, taken, unmoved⟩
          have fits := taken.fits
          refine ⟨grown, evicted, filed, taken, unmoved, grown.storedBytes_eq, ?_⟩
          rw [grown.storedBytes_eq, taken.settings]
          exact fits

/-- Whatever a store holds, filing a packet and changing the capacity give up no more
than the rule demands.  A packet is answered by the first ground that stands against
it, and the store stays as it was; without one it is stored, and then the content
fits.  A change of capacity drops the fewest packets that make the rest fit, so that
two changes in turn keep what the smaller capacity keeps. -/
theorem least_is_given_up (store : PacketStore) :
    (∀ packet, ∃ decision, Decides (store.insertionGrounds packet) decision ∧
      match decision with
      | some answer => store.file packet = (store, answer)
      | none => ∃ grown evicted,
          store.file packet = (grown, .ok (.stored evicted)) ∧
          store.Stores packet grown evicted) ∧
    (∀ capacity, ∃ kept dropped, store.resize capacity = (kept, dropped) ∧
      store.Shrinks capacity kept dropped ∧
      kept.storedBytes = Packet.totalSize kept.packets ∧
      kept.storedBytes ≤ kept.capacity.toNat) ∧
    ∀ first second,
      ((store.resize first).1.resize second).1.packets =
        (store.resize (min first second)).1.packets := by
  constructor
  · exact store.exists_decision_stores
  constructor
  · intro capacity
    have shrinks := store.shrinks_resize capacity
    refine ⟨_, _, rfl, shrinks, storedBytes_eq _, ?_⟩
    rw [storedBytes_eq]
    exact shrinks.fits
  · exact store.packets_resize_min

end OnboardStorage.PacketStore
