import OnboardStorage.Proofs.Replay
import OnboardStorage.Proofs.SlotService

/-!
# A restored service is the service it was saved from

A service that restores its own snapshot goes on as if it had not.  The snapshot
lists the stores in ascending order, and every platform that is not more limited
takes over all of them as they are.

The registry is known by its look-ups alone, so nothing is left to compare once the
look-ups agree.  A platform that keeps its stores in slots finds them in other slots
after a restore; that this cannot be seen either is part of the theorem.
-/

namespace OnboardStorage

/-! ## Platforms that are not more limited -/

/-- No limit of the other configuration is tighter. -/
structure Config.FitsInto (config other : Config) : Prop where
  stores : config.maxStores ≤ other.maxStores
  storeBytes : config.maxStoreBytes ≤ other.maxStoreBytes
  messageBytes : config.maxMessageBytes ≤ other.maxMessageBytes
  lowest : other.virtualChannels.lowest ≤ config.virtualChannels.lowest
  highest : config.virtualChannels.highest ≤ other.virtualChannels.highest

/-- A sound store is sound under looser limits. -/
theorem PacketStore.Sound.of_fitsInto {config wider : Config} {store : PacketStore}
    (sound : store.Sound config) (fits : config.FitsInto wider) : store.Sound wider where
  capacity_pos := sound.capacity_pos
  capacity_le := UInt32.le_trans sound.capacity_le fits.storeBytes
  channel_ge := UInt8.le_trans fits.lowest sound.channel_ge
  channel_le := UInt8.le_trans sound.channel_le fits.highest
  range := sound.range
  ordered := sound.ordered
  messages packet member :=
    ⟨(sound.messages packet member).1,
      Nat.le_trans (sound.messages packet member).2 fits.messageBytes⟩
  fits := sound.fits

namespace Service

variable {service : Service}

/-- A platform that is not more limited takes over the stores of a sound service. -/
theorem Sound.toRegistry_snapshot_of_fitsInto (sound : service.Sound) {wider : Config}
    (fits : service.config.FitsInto wider) :
    service.snapshot.toRegistry wider =
      .ok ⟨min wider.maxStores.toNat Limits.stores, service.registry.stores⟩ := by
  rw [Snapshot.toRegistry_eq_ok_iff]
  refine ⟨?_, service.registry.ids_nodup, ?_, ?_⟩
  · have few := sound.size_le
    have looser : service.config.maxStores.toNat ≤ wider.maxStores.toNat := fits.stores
    rw [sound.limit_eq] at few
    exact Nat.le_trans few (by omega)
  · rintro ⟨id, store⟩ listed
    exact (sound.stores (OrderedMap.mem_entries_iff.mp listed)).of_fitsInto fits
  · exact congrArg (Registry.mk _) (OrderedMap.insertAll_entries service.registry.stores).symm

/-! ## Restoring goes unseen -/

/-- A service whose own snapshot can be restored without anybody noticing. -/
structure RestoresUnseen (service : Service) : Prop where
  /-- The snapshot is in strictly ascending order of identifier. -/
  ascending : (service.snapshot.entries.map Prod.fst).Pairwise (· < ·)
  /-- The snapshot lists the stores of the service and no others. -/
  listed : ∀ id store,
    (id, store) ∈ service.snapshot.entries ↔ service.registry.get? id = some store
  /-- Platforms that are not more limited take over the same stores. -/
  portable : ∀ wider : Config, service.config.FitsInto wider →
    ∃ registry, service.snapshot.toRegistry wider = .ok registry ∧
      ∀ id, registry.get? id = service.registry.get? id
  /-- Whatever follows, everything that is seen is as without the restore. -/
  unseen : ∃ restored notices,
    service.restore service.snapshot = .ok (restored, notices) ∧
      ∀ further : List Operation,
        (restored.run further).2 = (service.run further).2 ∧
        (restored.run further).1.snapshot = (service.run further).1.snapshot
  /-- In whatever slots the stores are kept: those of the rebuilt table show nothing
  else. -/
  slots : ∀ table : SlotTable, table.registry = service.registry →
    table.snapshot = service.snapshot ∧
    ∃ rebuilt, SlotTable.ofSnapshot service.config table.snapshot = .ok rebuilt ∧
      ∀ accesses, rebuilt.sights accesses = table.sights accesses
  /-- A service over slots restores its snapshot into other slots, and goes on as without
  the restore. -/
  unseenOnSlots : ∀ slots : SlotService, slots.service = service →
    ∃ restored notices, slots.restore slots.snapshot = .ok (restored, notices) ∧
      ∀ further : List Operation,
        (restored.run further).2 = (slots.run further).2 ∧
        (restored.run further).1.snapshot = (slots.run further).1.snapshot

theorem Sound.restoresUnseen (sound : service.Sound) : service.RestoresUnseen where
  ascending := service.registry.stores.keys_ascending
  listed _ _ := OrderedMap.mem_entries_iff
  portable wider fits :=
    ⟨_, sound.toRegistry_snapshot_of_fitsInto fits, fun _ => rfl⟩
  unseen := ⟨_, _, sound.restore_snapshot rfl, fun _ => ⟨rfl, rfl⟩⟩
  slots := by
    intro table same
    have captured : table.snapshot = service.snapshot := by
      rw [SlotTable.snapshot_eq, same]
      rfl
    have built : (SlotTable.ofSnapshot service.config table.snapshot).map
        SlotTable.registry = .ok service.registry := by
      rw [SlotTable.map_registry_ofSnapshot, captured, sound.toRegistry_snapshot]
    rcases SlotTable.exists_of_map_eq_ok built with ⟨rebuilt, rebuilds, registry_eq⟩
    refine ⟨captured, rebuilt, rebuilds, ?_⟩
    exact SlotTable.sights_congr (registry_eq.trans same.symm)
  unseenOnSlots := by
    rintro slots rfl
    have restores := slots.map_withRegistry_restore slots.snapshot
    rw [slots.snapshot_eq, sound.restore_snapshot rfl] at restores
    rw [slots.snapshot_eq]
    rcases SlotTable.exists_of_map_eq_ok restores with
      ⟨⟨restored, notices⟩, accepted, standsFor⟩
    have same : restored.service = slots.service := congrArg Prod.fst standsFor
    exact ⟨restored, notices, accepted, SlotService.run_congr same⟩

/-- In every state that a run of a started service leads to, restoring its own snapshot
goes unseen; and the states of that run are those that the same run leads to over
slots. -/
theorem restoring_goes_unseen {config : Config} (valid : config.check = .ok ())
    (clock : Clock) :
    ∃ fresh notices, start config clock = .ok (fresh, notices) ∧
      (∀ operations : List Operation,
        (fresh.run operations).1.config = config ∧
        (fresh.run operations).1.RestoresUnseen) ∧
      ∃ slots, SlotService.start config clock = .ok (slots, notices) ∧
        ∀ operations,
          SlotService.withRegistry (slots.run operations) = fresh.run operations := by
  rcases exists_start_eq_ok valid clock with ⟨router, started⟩
  refine ⟨_, _, started, ?_, SlotService.exists_start_run started⟩
  intro operations
  constructor
  · exact config_run _ operations
  · exact ((sound_of_start_eq_ok started).run operations).restoresUnseen

/-- Two stores are listed in the order of their identifiers, and not in the order in
which they were created. -/
theorem two_stores_are_restored_unseen :
    let first : StoreId := ⟨"a", by decide, by decide⟩
    let second : StoreId := ⟨"b", by decide, by decide⟩
    let operations : List Operation :=
      [.execute (.createStores [⟨second, 100, .circular, 1⟩, ⟨first, 50, .bounded, 2⟩])]
    Config.standard.check = .ok () ∧
    ∃ fresh notices, start Config.standard ⟨7⟩ = .ok (fresh, notices) ∧
      (fresh.run operations).1.snapshot.entries.map Prod.fst = [first, second] ∧
      (fresh.run operations).1.RestoresUnseen := by
  intro first second operations
  refine ⟨rfl, ?_⟩
  rcases restoring_goes_unseen (rfl : Config.standard.check = .ok ()) ⟨7⟩ with
    ⟨fresh, notices, started, unseen, _⟩
  have fresh_eq : start Config.standard ⟨7⟩ =
      .ok (⟨Config.standard, Registry.empty 4, Router.empty, ⟨7⟩⟩, []) := rfl
  refine ⟨fresh, notices, started, ?_, (unseen operations).2⟩
  rw [fresh_eq] at started
  cases started
  decide +kernel

end Service

end OnboardStorage
