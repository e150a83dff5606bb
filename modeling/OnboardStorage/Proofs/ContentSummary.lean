import OnboardStorage.Proofs.Soundness.Run

/-!
# Content summaries are exact

A percentage is computed in 64 bits and reported in 16.  Of a content that is counted
in 57 bits nothing is lost on the way: the product does not wrap, and the report is the
whole percentage or, where that is larger, the largest value there is.

In a sound store the content fits the capacity.  There a percentage is at most 100, so
none is cut off, and the tags that are reported are the least and the greatest of all
packets, because they stand at the ends of an ordered content.
-/

namespace OnboardStorage

/-! ## Percentages -/

/-- What fits the capacity of a store is few enough to be counted. -/
theorem lt_of_le_capacity {bytes : Nat} {capacity : UInt32}
    (fits : bytes ≤ capacity.toNat) : bytes < Nat.pow 2 57 := by
  have bound : Nat.pow 2 57 = 144115188075855872 := rfl
  have word := capacity.toNat_lt
  omega

/-- The product of a percentage does not wrap. -/
theorem toNat_hundredfold {bytes : Nat} (counted : bytes < Nat.pow 2 57) :
    (bytes.toUInt64 * 100).toNat = 100 * bytes := by
  have bound : Nat.pow 2 57 = 144115188075855872 := rfl
  have size : UInt64.size = 18446744073709551616 := rfl
  have word : bytes.toUInt64.toNat = bytes := UInt64.toNat_ofNat_of_lt' (by omega)
  have hundred : (100 : UInt64).toNat = 100 := rfl
  rw [UInt64.toNat_mul, word, hundred, Nat.mod_eq_of_lt (by omega), Nat.mul_comm]

/-- A percentage is the whole one or the largest value that can be reported; without
capacity it is zero. -/
theorem toNat_percentage {bytes : Nat} (counted : bytes < Nat.pow 2 57) (capacity : UInt32) :
    (percentage bytes capacity).toNat =
      if capacity = 0 then 0 else min 65535 (100 * bytes / capacity.toNat) := by
  have quotient : (bytes.toUInt64 * 100 / capacity.toUInt64).toNat =
      100 * bytes / capacity.toNat := by
    rw [UInt64.toNat_div, toNat_hundredfold counted, UInt32.toNat_toUInt64]
  have most : (65535 : UInt64).toNat = 65535 := rfl
  unfold percentage
  split
  · rfl
  · dsimp only
    split
    · rename_i small
      rw [UInt64.le_iff_toNat_le, quotient, most] at small
      rw [UInt64.toNat_toUInt16, quotient]
      omega
    · rename_i large
      rw [UInt64.le_iff_toNat_le, quotient, most] at large
      have capped : (65535 : UInt16).toNat = 65535 := rfl
      omega

/-- Fewer bytes are no larger a share. -/
theorem percentage_le_percentage {few many : Nat} (fewer : few ≤ many)
    (counted : many < Nat.pow 2 57) (capacity : UInt32) :
    percentage few capacity ≤ percentage many capacity := by
  have shares : 100 * few / capacity.toNat ≤ 100 * many / capacity.toNat :=
    Nat.div_le_div_right (Nat.mul_le_mul_left 100 fewer)
  rw [UInt16.le_iff_toNat_le, toNat_percentage (by omega), toNat_percentage counted]
  split <;> omega

/-- What fits a capacity is at most a hundred percent of it. -/
theorem hundredfold_div_le {bytes capacity : Nat} (fits : bytes ≤ capacity) :
    100 * bytes / capacity ≤ 100 := by
  apply Nat.div_le_of_le_mul
  rw [Nat.mul_comm capacity]
  exact Nat.mul_le_mul_left 100 fits

/-- What fits a capacity is a hundred percent of it only where it fills it. -/
theorem hundredfold_div_eq_iff {bytes capacity : Nat} (positive : 0 < capacity)
    (fits : bytes ≤ capacity) : 100 * bytes / capacity = 100 ↔ bytes = capacity := by
  constructor
  · intro full
    have filled := Nat.div_mul_le_self (100 * bytes) capacity
    rw [full] at filled
    omega
  · rintro rfl
    exact Nat.mul_div_cancel 100 positive

/-! ## Packets at or after a tag -/

namespace Packet

theorem totalSize_le_of_sublist {few many : List Packet} (sublist : few.Sublist many) :
    totalSize few ≤ totalSize many := by
  induction sublist with
  | slnil => exact Nat.le_refl _
  | cons packet sublist ih =>
      rw [totalSize_cons]
      omega
  | cons_cons packet sublist ih =>
      rw [totalSize_cons, totalSize_cons]
      omega

/-- Bytes of the packets at or after a tag. -/
def bytesFrom (start : TimeTag) (packets : List Packet) : Nat :=
  totalSize (packets.filter fun packet => start ≤ packet.timeTag)

variable {start later : TimeTag} {packets : List Packet}

theorem bytesFrom_le (start : TimeTag) (packets : List Packet) :
    bytesFrom start packets ≤ totalSize packets :=
  totalSize_le_of_sublist List.filter_sublist

/-- From a later tag there is no more. -/
theorem bytesFrom_le_bytesFrom (rises : start ≤ later) (packets : List Packet) :
    bytesFrom later packets ≤ bytesFrom start packets := by
  have again : (packets.filter fun packet => later ≤ packet.timeTag) =
      (packets.filter fun packet => start ≤ packet.timeTag).filter
        fun packet => later ≤ packet.timeTag := by
    rw [List.filter_filter]
    apply List.filter_congr
    intro packet _
    by_cases after : later ≤ packet.timeTag
    · simp [after, UInt32.le_trans rises after]
    · simp [after]
  rw [bytesFrom, again]
  exact totalSize_le_of_sublist List.filter_sublist

theorem bytesFrom_eq_totalSize (all : ∀ packet ∈ packets, start ≤ packet.timeTag) :
    bytesFrom start packets = totalSize packets := by
  rw [bytesFrom, List.filter_eq_self.mpr]
  intro packet member
  exact decide_eq_true (all packet member)

theorem bytesFrom_eq_zero (none : ∀ packet ∈ packets, packet.timeTag < start) :
    bytesFrom start packets = 0 := by
  rw [bytesFrom, List.filter_eq_nil_iff.mpr]
  · rfl
  · intro packet member
    simpa using none packet member

end Packet

/-! ## Summaries -/

namespace PacketStore

variable {store : PacketStore}

/-- A summary reports exactly what a store holds. -/
structure SummaryIsExact (store : PacketStore) (id : StoreId) : Prop where
  oldest : ∀ tag, (store.summary id).oldestTag = some tag ↔
    (∃ packet ∈ store.packets, packet.timeTag = tag) ∧
      ∀ packet ∈ store.packets, tag ≤ packet.timeTag
  newest : ∀ tag, (store.summary id).newestTag = some tag ↔
    (∃ packet ∈ store.packets, packet.timeTag = tag) ∧
      ∀ packet ∈ store.packets, packet.timeTag ≤ tag
  no_oldest : (store.summary id).oldestTag = none ↔ store.packets = []
  no_newest : (store.summary id).newestTag = none ↔ store.packets = []
  filled : (store.summary id).filledPercentage.toNat =
    100 * store.storedBytes / store.capacity.toNat
  filled_le : (store.summary id).filledPercentage ≤ 100
  filled_iff : (store.summary id).filledPercentage = 100 ↔
    store.storedBytes = store.capacity.toNat
  pending : (store.summary id).openRetrievalFilledPercentage.toNat =
    100 * Packet.bytesFrom store.openRetrievalStart store.packets / store.capacity.toNat
  pending_le : (store.summary id).openRetrievalFilledPercentage ≤
    (store.summary id).filledPercentage
  /-- Open retrieval has yet to send everything. -/
  pending_all : ∀ oldest ∈ (store.summary id).oldestTag,
    store.openRetrievalStart ≤ oldest →
      (store.summary id).openRetrievalFilledPercentage =
        (store.summary id).filledPercentage
  /-- Open retrieval has nothing left to send. -/
  pending_none : ∀ newest ∈ (store.summary id).newestTag,
    newest < store.openRetrievalStart →
      (store.summary id).openRetrievalFilledPercentage = 0
  pending_falls : ∀ start later : TimeTag, start ≤ later →
    ({ store with openRetrievalStart := later }.summary id).openRetrievalFilledPercentage ≤
      ({ store with openRetrievalStart := start }.summary id).openRetrievalFilledPercentage
  filled_unwrapped : (store.storedBytes.toUInt64 * 100).toNat = 100 * store.storedBytes
  pending_unwrapped : (store.pendingBytes.toUInt64 * 100).toNat = 100 * store.pendingBytes

theorem pendingBytes_eq (store : PacketStore) :
    store.pendingBytes = Packet.bytesFrom store.openRetrievalStart store.packets :=
  rfl

theorem pendingBytes_le (store : PacketStore) : store.pendingBytes ≤ store.storedBytes := by
  rw [pendingBytes_eq, storedBytes_eq]
  exact Packet.bytesFrom_le _ _

/-- A percentage of what fits the capacity is not cut off. -/
theorem Sound.toNat_percentage {config : Config} (sound : store.Sound config) {bytes : Nat}
    (few : bytes ≤ store.storedBytes) :
    (percentage bytes store.capacity).toNat = 100 * bytes / store.capacity.toNat := by
  have fits : store.storedBytes ≤ store.capacity.toNat := store.storedBytes_eq ▸ sound.fits
  have small := hundredfold_div_le (Nat.le_trans few fits)
  have positive : store.capacity ≠ 0 := fun zero => UInt32.lt_irrefl 0 (zero ▸ sound.capacity_pos)
  rw [OnboardStorage.toNat_percentage (lt_of_le_capacity (Nat.le_trans few fits)),
    if_neg positive]
  omega

theorem Sound.summaryIsExact {config : Config} (sound : store.Sound config) (id : StoreId) :
    store.SummaryIsExact id := by
  have fits : store.storedBytes ≤ store.capacity.toNat := store.storedBytes_eq ▸ sound.fits
  have counted := lt_of_le_capacity fits
  have filled : (store.summary id).filledPercentage.toNat =
      100 * store.storedBytes / store.capacity.toNat :=
    sound.toNat_percentage (Nat.le_refl store.storedBytes)
  have some_le (start : TimeTag) :
      Packet.bytesFrom start store.packets ≤ store.storedBytes := by
    rw [storedBytes_eq]
    exact Packet.bytesFrom_le start store.packets
  have pending : (store.summary id).openRetrievalFilledPercentage =
      percentage (Packet.bytesFrom store.openRetrievalStart store.packets) store.capacity :=
    rfl
  exact {
    oldest := fun tag => oldestTag?_eq_some_iff sound.ordered
    newest := fun tag => newestTag?_eq_some_iff sound.ordered
    no_oldest := oldestTag?_eq_none_iff
    no_newest := newestTag?_eq_none_iff
    filled := filled
    filled_le := by
      rw [UInt16.le_iff_toNat_le, filled]
      exact hundredfold_div_le fits
    filled_iff := by
      rw [← UInt16.toNat_inj, filled]
      exact hundredfold_div_eq_iff sound.capacity_pos fits
    pending := sound.toNat_percentage (some_le store.openRetrievalStart)
    pending_le := percentage_le_percentage (some_le store.openRetrievalStart) counted _
    pending_all := by
      intro oldest first before
      have all : ∀ packet ∈ store.packets, store.openRetrievalStart ≤ packet.timeTag :=
        fun packet member => UInt32.le_trans before (oldest_le_tag sound.ordered first member)
      rw [pending, Packet.bytesFrom_eq_totalSize all, ← storedBytes_eq]
      rfl
    pending_none := by
      intro newest last behind
      have none : ∀ packet ∈ store.packets, packet.timeTag < store.openRetrievalStart :=
        fun packet member =>
          UInt32.lt_of_le_of_lt (tag_le_newest sound.ordered last member) behind
      rw [pending, Packet.bytesFrom_eq_zero none, ← UInt16.toNat_inj,
        sound.toNat_percentage (Nat.zero_le _), Nat.mul_zero, Nat.zero_div]
      rfl
    pending_falls := by
      intro start later rises
      have start_le := some_le start
      exact percentage_le_percentage (Packet.bytesFrom_le_bytesFrom rises store.packets)
        (by omega) store.capacity
    filled_unwrapped := toNat_hundredfold counted
    pending_unwrapped := toNat_hundredfold (Nat.lt_of_le_of_lt store.pendingBytes_le counted) }

end PacketStore

namespace Service

/-- Summaries are exact.  In every state of every run they report the least and the
greatest tag of each store and, in whole percent of its capacity, all of its content
and the part that open retrieval has yet to send.  Of any store at all, sound or not,
they report these percentages up to the largest value there is, and zero where the
store has no capacity. -/
theorem content_summary_is_exact {config : Config} (valid : config.check = .ok ())
    (clock : Clock) :
    (∃ fresh notices, start config clock = .ok (fresh, notices) ∧
      ∀ (operations : List Operation) (id : StoreId) (store : PacketStore),
        (fresh.run operations).1.registry.get? id = some store → store.SummaryIsExact id) ∧
    ∀ (store : PacketStore) (id : StoreId), store.storedBytes < Nat.pow 2 57 →
      (store.summary id).filledPercentage.toNat =
        (if store.capacity = 0 then 0
          else min 65535 (100 * store.storedBytes / store.capacity.toNat)) ∧
      (store.summary id).openRetrievalFilledPercentage.toNat =
        (if store.capacity = 0 then 0
          else min 65535 (100 *
            Packet.bytesFrom store.openRetrievalStart store.packets /
              store.capacity.toNat)) := by
  constructor
  · rcases exists_start_eq_ok valid clock with ⟨router, started⟩
    refine ⟨_, _, started, ?_⟩
    intro operations id store found
    exact (((sound_of_start_eq_ok started).run operations).stores found).summaryIsExact id
  · intro store id counted
    constructor
    · exact toNat_percentage counted store.capacity
    · exact toNat_percentage (Nat.lt_of_le_of_lt store.pendingBytes_le counted)
        store.capacity

/-- A store of 30 bytes that holds 15, of which 10 are still to be sent, and a store
of one byte into which a snapshot has put three. -/
theorem half_full_store_is_summarized :
    let id : StoreId := ⟨"log", by decide, by decide⟩
    let config := { Config.standard with routes := [⟨3, id⟩] }
    let operations : List Operation :=
      [.execute (.createStores [⟨id, 30, .circular, 1⟩]), .execute (.enableStorage []),
        .report 3 [1, 2, 3, 4, 5], .setClock 9, .report 3 [1, 2, 3, 4, 5, 6, 7, 8, 9, 10],
        .execute (.changeOpenRetrievalStart 8 [id])]
    let overfull : PacketStore :=
      { PacketStore.create 1 .bounded 1 with content := .ofPackets [⟨1, [1, 2, 3]⟩] }
    config.check = .ok () ∧
    (∃ fresh notices store, start config ⟨7⟩ = .ok (fresh, notices) ∧
      (fresh.run operations).1.registry.get? id = some store ∧ store.SummaryIsExact id ∧
      (store.summary id).filledPercentage = 50 ∧
      (store.summary id).openRetrievalFilledPercentage = 33) ∧
    overfull.storedBytes < Nat.pow 2 57 ∧ (overfull.summary id).filledPercentage.toNat = 300 := by
  intro id config operations overfull
  have exact := content_summary_is_exact (rfl : config.check = .ok ()) ⟨7⟩
  rcases exact with ⟨⟨fresh, notices, started, reached⟩, any⟩
  refine ⟨rfl, ?_, ?_⟩
  · have fresh_eq : start config ⟨7⟩ =
        .ok (⟨config, Registry.empty 4, ⟨OrderedMap.empty.insert 3 id⟩, ⟨7⟩⟩,
          [.routing 3 id]) := rfl
    rw [fresh_eq] at started
    cases started
    have shown : ((run ⟨config, Registry.empty 4, ⟨OrderedMap.empty.insert 3 id⟩, ⟨7⟩⟩
        operations).1.registry.get? id).map (fun store =>
          ((store.summary id).filledPercentage,
            (store.summary id).openRetrievalFilledPercentage)) = some (50, 33) := by
      decide +kernel
    rcases Option.map_eq_some_iff.mp shown with ⟨store, found, values⟩
    rcases Prod.mk.inj values with ⟨filled, pending⟩
    exact ⟨_, _, store, fresh_eq, found, reached operations id store found, filled, pending⟩
  · have counted : overfull.storedBytes < Nat.pow 2 57 := by decide +kernel
    exact ⟨counted, (any overfull id counted).1.trans (by decide +kernel)⟩

end Service

end OnboardStorage
