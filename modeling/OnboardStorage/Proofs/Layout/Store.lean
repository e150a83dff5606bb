import OnboardStorage.Layout.Store
import OnboardStorage.Proofs.Layout.Record

/-!
# Stores and snapshots are read back

Every store is read back as it was written, sound or not.  The byte count of
its content is counted afresh and comes out the same, because a content is no
more than its packets.  In a snapshot a store is held back until its identifier
is found, which asks of its numbers that they are in range; numbers of 32 bits
always are.
-/

namespace OnboardStorage

open Datum

/-! ## Parts of stores -/

@[simp]
theorem StoreId.ofDatum?_toDatum (id : StoreId) : ofDatum? id.toDatum = some id := by
  rw [toDatum, ofDatum?, text?, Option.bind_some, ofText_text]
  rfl

@[simp]
theorem StoreKind.ofDatum?_toDatum (origin : Origin) (kind : StoreKind) :
    ofDatum? origin kind.toDatum = some kind := by
  cases kind <;> rfl

@[simp]
theorem OpenRetrieval.ofDatum?_toDatum (origin : Origin) (state : OpenRetrieval) :
    ofDatum? origin state.toDatum = some state := by
  cases state <;> rfl

@[simp]
theorem Packet.ofDatum?_toDatum (origin : Origin) (packet : Packet) :
    ofDatum? origin packet.toDatum = some packet := by
  have data : (Datum.list (packet.data.map fun byte => ofNat byte.toNat)).listOf? word8? =
      some packet.data := listOf?_map fun byte _ => word8?_ofNat byte
  have different : ([("time_tag", ofNat packet.timeTag.toNat),
      ("data", .list (packet.data.map fun byte => ofNat byte.toNat))].map
        Prod.fst).Nodup := by
    simp
  rw [toDatum, ofDatum?, fields?_record different]
  simp (disch := decide) [lookup_cons_of_ne, required, data]

@[simp]
theorem TimeRange.ofDatum?_toDatum (origin : Origin) (range : TimeRange) :
    ofDatum? origin range.toDatum = some range := by
  have different : ([("start", ofNat range.start.toNat),
      ("end", ofNat range.stop.toNat)].map Prod.fst).Nodup := by
    simp
  rw [toDatum, ofDatum?, fields?_record different]
  simp (disch := decide) [lookup_cons_of_ne, required]

theorem TimeRange.toDatum_ne_null (range : TimeRange) : range.toDatum ≠ .null := by
  intro equal
  cases equal

namespace PacketStore

theorem nodup_toFields (store : PacketStore) :
    (store.toFields.map Prod.fst).Nodup := by
  show layout.Nodup
  decide

/-- Every store is read back from its written form. -/
@[simp]
theorem ofDatum?_toDatum (origin : Origin) (store : PacketStore) :
    ofDatum? origin store.toDatum = some store := by
  have range : optional (TimeRange.ofDatum? origin)
      (some (ofOption TimeRange.toDatum store.timeRangeRetrieval)) =
        some store.timeRangeRetrieval :=
    optional_ofOption TimeRange.toDatum_ne_null (TimeRange.ofDatum?_toDatum origin) _
  have content : (Datum.list (store.packets.map Packet.toDatum)).listOf?
      (Packet.ofDatum? origin) = some store.packets :=
    listOf?_map fun packet _ => packet.ofDatum?_toDatum origin
  have counted : PacketQueue.ofPackets store.packets = store.content :=
    PacketQueue.ofPackets_packets store.content
  rw [toDatum, ofDatum?, fields?_record store.nodup_toFields]
  simp (disch := decide) only [toFields, List.lookup_cons_self, lookup_cons_of_ne,
    required, flag?, Option.pure_def, Option.bind_eq_bind, Option.bind_some,
    word8?_ofNat, word16?_ofNat, word32?_ofNat, StoreKind.ofDatum?_toDatum,
    OpenRetrieval.ofDatum?_toDatum, range, content, counted]

end PacketStore

/-! ## Numbers that can be held back -/

theorem DoublePrecision.two_pow_keptDigits_lt_bound : Nat.pow 2 keptDigits < bound := by
  decide +kernel

theorem DoublePrecision.inRangeTwice_of_lt {number : Nat}
    (small : number < Nat.pow 2 keptDigits) : inRangeTwice number 0 = true := by
  have fits : number < UInt64.size := Nat.lt_trans small (by decide)
  have leading_eq : leading number 0 = (number, 0) := by
    rw [leading, if_pos fits]
  have below : nearest number * nearest (Nat.pow 10 0) < bound := by
    show nearest number * nearest 1 < bound
    rw [nearest_eq_self small, nearest_eq_self (by decide), Nat.mul_one]
    exact Nat.lt_trans small two_pow_keptDigits_lt_bound
  unfold inRangeTwice
  rw [leading_eq]
  split
  · rfl
  · rfl
  · rename_i digits power _ equal
    obtain ⟨rfl, zero⟩ := Prod.mk.inj equal
    cases zero
    rw [decide_eq_true below]
    rfl

namespace Datum

/-- Words of 32 bits can be held back. -/
theorem isHoldable_word {number : Nat} (small : number < UInt32.size) :
    (ofNat number).isHoldable = true :=
  DoublePrecision.inRangeTwice_of_lt (Nat.lt_trans small (by decide))

theorem areHoldable_map {α : Type} {write : α → Datum} {values : List α}
    (each : ∀ value ∈ values, (write value).isHoldable = true) :
    areHoldable (values.map write) = true := by
  induction values with
  | nil => rfl
  | cons value rest ih =>
      have others := ih fun other member => each other (List.mem_cons_of_mem _ member)
      rw [List.map_cons, areHoldable, each value List.mem_cons_self, others]
      rfl

end Datum

theorem Packet.isHoldable_toDatum (packet : Packet) :
    packet.toDatum.isHoldable = true := by
  have data : areHoldable (packet.data.map fun byte => ofNat byte.toNat) = true :=
    areHoldable_map fun byte _ => isHoldable_word (Nat.lt_trans byte.toNat_lt (by decide))
  simp [toDatum, isHoldable, fieldsAreHoldable, data,
    isHoldable_word packet.timeTag.toNat_lt]

theorem TimeRange.isHoldable_toDatum (range : TimeRange) :
    range.toDatum.isHoldable = true := by
  simp [toDatum, isHoldable, fieldsAreHoldable, isHoldable_word range.start.toNat_lt,
    isHoldable_word range.stop.toNat_lt]

theorem PacketStore.isHoldable_toDatum (store : PacketStore) :
    store.toDatum.isHoldable = true := by
  have content : areHoldable (store.packets.map Packet.toDatum) = true :=
    areHoldable_map fun packet _ => packet.isHoldable_toDatum
  have range : (ofOption TimeRange.toDatum store.timeRangeRetrieval).isHoldable =
      true := by
    cases store.timeRangeRetrieval with
    | none => rfl
    | some range => exact range.isHoldable_toDatum
  have channel : (ofNat store.virtualChannel.toNat).isHoldable = true :=
    isHoldable_word (Nat.lt_trans store.virtualChannel.toNat_lt (by decide))
  have priority : (ofNat store.retrievalPriority.toNat).isHoldable = true :=
    isHoldable_word (Nat.lt_trans store.retrievalPriority.toNat_lt (by decide))
  simp [toDatum, toFields, isHoldable, fieldsAreHoldable, content, range, channel,
    priority, isHoldable_word store.capacity.toNat_lt,
    isHoldable_word store.openRetrievalStart.toNat_lt, StoreKind.toDatum,
    OpenRetrieval.toDatum]

/-! ## Snapshots -/

namespace Snapshot

@[simp]
theorem entryOfDatum?_entryToDatum (entry : StoreId × PacketStore) :
    entryOfDatum? (entryToDatum entry) = some entry := by
  obtain ⟨id, store⟩ := entry
  have tagged : (Datum.record (("id", id.toDatum) :: store.toFields)).tagged? "id" =
      some (id.toDatum, store.toDatum) := by
    simp [tagged?, PacketStore.toFields, PacketStore.toDatum, List.partition_eq_filter_filter]
  rw [entryToDatum, entryOfDatum?, tagged]
  simp [store.isHoldable_toDatum]

/-- Every snapshot is read back from its written form. -/
@[simp]
theorem ofDatum?_toDatum (snapshot : Snapshot) :
    ofDatum? snapshot.toDatum = some snapshot := by
  have entries : (Datum.list (snapshot.entries.map entryToDatum)).listOf? entryOfDatum? =
      some snapshot.entries := listOf?_map fun entry _ => entryOfDatum?_entryToDatum entry
  rw [toDatum, ofDatum?, fields?_record (by simp)]
  simp [required, entries]

end Snapshot

end OnboardStorage
