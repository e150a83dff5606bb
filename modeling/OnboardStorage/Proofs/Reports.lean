import OnboardStorage.Proofs.Batch
import OnboardStorage.Proofs.ByteOrder
import OnboardStorage.Proofs.ContentSummary
import OnboardStorage.Proofs.SlotService

/-!
# Reports are complete and ordered

A report on all stores has one entry for each of them, in the order of the bytes of
their identifiers, and the entry has the values of the store as it is.  A summary of
stores that are listed has one entry for each of them that exists, as often and in the
order in which they are listed, and fails for each of the others.  No report changes
anything.

Nothing but the stores themselves decides what a report says.  A service that keeps
them in slots sorts their identifiers and looks each of them up again; it answers the
same, whatever order creations and deletions have left the slots in.
-/

namespace OnboardStorage

/-! ## What an entry says of a store -/

/-- An entry of the status report has the values of a store. -/
structure StoreStatus.Describes (entry : StoreStatus) (store : PacketStore) : Prop where
  storageEnabled : entry.storageEnabled = store.storageEnabled
  openRetrieval : entry.openRetrieval = store.openRetrieval
  timeRangeActive : entry.timeRangeActive = true ↔
    ∃ range, store.timeRangeRetrieval = some range

/-- An entry of the configuration report has the values of a store. -/
structure StoreConfiguration.Describes (entry : StoreConfiguration) (store : PacketStore) :
    Prop where
  size : entry.size = store.capacity
  kind : entry.kind = store.kind
  virtualChannel : entry.virtualChannel = store.virtualChannel

/-- A number is the share that so many bytes have of a capacity, in whole percent and as
far as 16 bits go; without capacity it is zero. -/
def IsPercentage (shown : UInt16) (bytes : Nat) (capacity : UInt32) : Prop :=
  bytes < Nat.pow 2 57 →
    shown.toNat = if capacity = 0 then 0 else min 65535 (100 * bytes / capacity.toNat)

/-- An entry of the content summary has the values of a store. -/
structure ContentSummary.Describes (entry : ContentSummary) (store : PacketStore) :
    Prop where
  oldestTag : entry.oldestTag = store.packets.head?.map Packet.timeTag
  newestTag : entry.newestTag = store.packets.getLast?.map Packet.timeTag
  openRetrievalStart : entry.openRetrievalStart = store.openRetrievalStart
  filled : IsPercentage entry.filledPercentage (Packet.totalSize store.packets)
    store.capacity
  pending : IsPercentage entry.openRetrievalFilledPercentage
    (Packet.totalSize
      (store.packets.filter fun packet => store.openRetrievalStart ≤ packet.timeTag))
    store.capacity

namespace PacketStore

theorem describes_status (store : PacketStore) (id : StoreId) :
    (store.status id).Describes store where
  storageEnabled := rfl
  openRetrieval := rfl
  timeRangeActive := Option.isSome_iff_exists

theorem describes_configuration (store : PacketStore) (id : StoreId) :
    (store.configuration id).Describes store where
  size := rfl
  kind := rfl
  virtualChannel := rfl

theorem describes_summary (store : PacketStore) (id : StoreId) :
    (store.summary id).Describes store where
  oldestTag := rfl
  newestTag := store.newestTag?_eq
  openRetrievalStart := rfl
  filled := by
    rw [← store.storedBytes_eq]
    intro counted
    exact toNat_percentage counted store.capacity
  pending := by
    intro counted
    exact toNat_percentage counted store.capacity

end PacketStore

/-! ## What a report lists -/

namespace Registry

/-- Every entry has the values of the store that it names. -/
def AreCurrent {α : Type} (registry : Registry) (storeId : α → StoreId)
    (Describes : α → PacketStore → Prop) (entries : List α) : Prop :=
  ∀ entry ∈ entries, ∃ store, registry.get? (storeId entry) = some store ∧
    Describes entry store

/-- A list shows every store of a registry once, and nothing else, by the order of
the bytes of identifiers. -/
structure ListsAll {α : Type} (registry : Registry) (storeId : α → StoreId)
    (shown : PacketStore → StoreId → α) (Describes : α → PacketStore → Prop)
    (entries : List α) : Prop where
  ascending : entries.Pairwise fun earlier later =>
    BytesBefore (storeId earlier).bytes (storeId later).bytes
  /-- The entries about a store are the one that shows it, or none if it is missing. -/
  about : ∀ id, entries.filter (fun entry => storeId entry = id) =
    ((registry.get? id).map (shown · id)).toList
  current : registry.AreCurrent storeId Describes entries

/-- A list shows those of the given stores that exist, as often and in the order in
which they are given. -/
structure ListsNamed {α : Type} (registry : Registry) (storeId : α → StoreId)
    (Describes : α → PacketStore → Prop) (stores : List StoreId) (entries : List α) :
    Prop where
  named : entries.map storeId = stores.filter registry.contains
  current : registry.AreCurrent storeId Describes entries

end Registry

theorem OrderedMap.filter_key_eq {κ α : Type} [DecidableEq κ] {entries : List (κ × α)}
    (distinct : (entries.map Prod.fst).Nodup) (key : κ) :
    entries.filter (fun entry => entry.1 = key) =
      ((entries.lookup key).map fun value => (key, value)).toList := by
  induction entries with
  | nil => rfl
  | cons first rest ih =>
      rcases first with ⟨other, value⟩
      rw [List.map_cons, List.nodup_cons] at distinct
      by_cases same : other = key
      · subst same
        have fresh : rest.lookup other = none := lookup_eq_none_iff_notMem.mpr distinct.1
        rw [List.filter_cons_of_pos (by simp), ih distinct.2, fresh]
        simp
      · rw [List.filter_cons_of_neg (by simpa using same), ih distinct.2]
        simp [lookup_cons_ite, same]

namespace Registry

variable {α : Type} {registry : Registry} {storeId : α → StoreId}
  {shown : PacketStore → StoreId → α} {Describes : α → PacketStore → Prop}

theorem areCurrent_listing (names : ∀ store id, storeId (shown store id) = id)
    (describes : ∀ store id, Describes (shown store id) store) (stores : List StoreId) :
    registry.AreCurrent storeId Describes (registry.listing shown stores) := by
  intro entry listed
  rcases List.mem_filterMap.mp listed with ⟨id, -, shows⟩
  rcases Option.map_eq_some_iff.mp shows with ⟨store, found, rfl⟩
  refine ⟨store, ?_, describes store id⟩
  rw [names]
  exact found

theorem listsNamed_listing (names : ∀ store id, storeId (shown store id) = id)
    (describes : ∀ store id, Describes (shown store id) store) (stores : List StoreId) :
    registry.ListsNamed storeId Describes stores (registry.listing shown stores) where
  named := by
    have kept : (fun id => ((registry.get? id).map (shown · id)).map storeId) =
        Option.guard registry.contains := by
      funext id
      cases found : registry.get? id with
      | none => simp [Option.guard, contains, found]
      | some store => simp [Option.guard, contains, found, names]
    rw [listing, List.map_filterMap, kept, List.filterMap_eq_filter]
  current := areCurrent_listing names describes stores

theorem listsAll_listing (names : ∀ store id, storeId (shown store id) = id)
    (describes : ∀ store id, Describes (shown store id) store) :
    registry.ListsAll storeId shown Describes (registry.listing shown registry.ids) where
  ascending := by
    rw [listing_ids, List.pairwise_map]
    apply registry.stores.ascending.imp
    intro earlier later before
    rw [names, names]
    exact StoreId.lt_iff_bytesBefore.mp before
  about := by
    intro id
    have kept : (fun entry : StoreId × PacketStore => decide (entry.1 = id)) =
        (fun entry => decide (storeId entry = id)) ∘
          fun entry => shown entry.2 entry.1 := by
      funext entry
      rw [Function.comp_apply, names]
    rw [listing_ids, List.filter_map, ← kept,
      OrderedMap.filter_key_eq registry.stores.keys_nodup id, Option.toList_map,
      Option.toList_map, List.map_map]
    rfl
  current := areCurrent_listing names describes registry.ids

end Registry

/-! ## Reports do not depend on anything else -/

/-- What is reported of the same stores is the same. -/
theorem Request.reporting_congr {first second : Registry}
    (same : ∀ id, first.get? id = second.get? id) (request : Request) :
    request.reporting first = request.reporting second := by
  rcases first with ⟨limit, stores⟩
  rcases second with ⟨other, others⟩
  have stores_eq : stores = others := OrderedMap.ext_get? same
  subst stores_eq
  cases request <;> rfl

/-! ## All reports -/

/-- A report leaves slots as they are. -/
theorem SlotService.execute_of_asksForReport (slots : SlotService) {request : Request}
    (asks : request.asksForReport = true) : (slots.execute request).1 = slots := by
  cases request with
  | reportContentSummary | reportStatus | reportConfiguration => rfl
  | _ => cases asks

namespace Service

/-- A telecommand that asks for a report changes nothing and has nothing else to
answer. -/
theorem execute_of_asksForReport (service : Service) {request : Request}
    (asks : request.asksForReport = true) :
    service.execute request =
      (service, .ofNotices [.executing request.messageType] ++
        request.reporting service.registry) := by
  cases request with
  | reportStatus | reportConfiguration | reportContentSummary _ => rfl
  | _ => cases asks

theorem internalErrors_execute_of_asksForReport (service : Service) {request : Request}
    (asks : request.asksForReport = true) :
    (service.execute request).2.internalErrors = [] := by
  rw [service.execute_of_asksForReport asks]
  cases request with
  | reportStatus | reportConfiguration => rfl
  | reportContentSummary stores =>
      rw [Request.reporting, Registry.summaryEmission_eq]
      rfl
  | _ => cases asks

/-- Services that have the same stores answer a report alike. -/
theorem answer_congr_of_asksForReport {service other : Service} {request : Request}
    (asks : request.asksForReport = true)
    (same : ∀ id, other.registry.get? id = service.registry.get? id) :
    (other.execute request).2 = (service.execute request).2 := by
  rw [other.execute_of_asksForReport asks, service.execute_of_asksForReport asks,
    Request.reporting_congr same]

/-- With the same stores in slots, in any order, a report is answered alike and leaves
the slots as they are. -/
theorem execute_slots_of_asksForReport {service : Service} {slots : SlotService}
    {request : Request} (asks : request.asksForReport = true)
    (same : ∀ id, slots.table.get? id = service.registry.get? id) :
    slots.execute request = (slots, (service.execute request).2) := by
  have stands : ∀ id, slots.service.registry.get? id = service.registry.get? id :=
    fun id => (slots.get?_service id).trans (same id)
  have answered : (slots.execute request).2 = (slots.service.execute request).2 :=
    congrArg Prod.snd (slots.withRegistry_execute request)
  apply Prod.ext
  · exact slots.execute_of_asksForReport asks
  · exact answered.trans (answer_congr_of_asksForReport asks stands)

/-- The empty list has every store summarized, and none of them is missing. -/
theorem execute_summary_of_all (service : Service) :
    (service.execute (.reportContentSummary [])).2.reports =
        [.contentSummary
          (service.registry.listing PacketStore.summary service.registry.ids)] ∧
      (service.execute (.reportContentSummary [])).2.failures = [] := by
  have missing : (service.registry.ids.filter fun id => !service.registry.contains id) = [] := by
    apply List.filter_eq_nil_iff.mpr
    intro id listed
    rw [Registry.mem_ids_iff.mp listed]
    decide
  have all : service.registry.targets [] = service.registry.ids := rfl
  rw [execute_summary, all, Registry.summaryEmission_eq, missing]
  exact ⟨rfl, rfl⟩

/-- Reports are complete and ordered, in any state.  A report on all stores has exactly
one entry for each of them, by the order of the bytes of identifiers, and no failure.
A summary of listed stores has one entry for each time that an existing one is listed
and one failure for each time that a missing one is, in the order of the list.  Every
entry has the values of its store.  No report changes the service; and services with
the same stores answer the same, as does a service with these stores in slots, in any
order. -/
theorem reports_are_complete_and_ordered (service : Service) :
    (∃ entries, (service.execute .reportStatus).2.reports = [.status entries] ∧
      service.registry.ListsAll StoreStatus.storeId PacketStore.status
        StoreStatus.Describes entries ∧
      (service.execute .reportStatus).2.failures = []) ∧
    (∃ entries, (service.execute .reportConfiguration).2.reports = [.configuration entries] ∧
      service.registry.ListsAll StoreConfiguration.storeId PacketStore.configuration
        StoreConfiguration.Describes entries ∧
      (service.execute .reportConfiguration).2.failures = []) ∧
    (∃ entries,
      (service.execute (.reportContentSummary [])).2.reports = [.contentSummary entries] ∧
      service.registry.ListsAll ContentSummary.storeId PacketStore.summary
        ContentSummary.Describes entries ∧
      (service.execute (.reportContentSummary [])).2.failures = []) ∧
    (∀ stores : List StoreId, stores ≠ [] →
      (service.execute (.reportContentSummary stores)).2.reports =
        [.contentSummary (service.registry.listing PacketStore.summary stores)] ∧
      service.registry.ListsNamed ContentSummary.storeId ContentSummary.Describes stores
        (service.registry.listing PacketStore.summary stores) ∧
      (service.execute (.reportContentSummary stores)).2.failures =
        (stores.filter fun id => !service.registry.contains id).map
          fun id => ⟨.reportContentSummary, some id, .storeMissing⟩) ∧
    ∀ request : Request, request.asksForReport = true →
      (service.execute request).1 = service ∧
      (service.execute request).2.internalErrors = [] ∧
      (∀ other : Service, (∀ id, other.registry.get? id = service.registry.get? id) →
        (other.execute request).2 = (service.execute request).2) ∧
      ∀ slots : SlotService, (∀ id, slots.table.get? id = service.registry.get? id) →
        slots.execute request = (slots, (service.execute request).2) := by
  constructor
  · have lists : service.registry.ListsAll StoreStatus.storeId PacketStore.status
        StoreStatus.Describes _ :=
      Registry.listsAll_listing (fun store id => rfl) PacketStore.describes_status
    refine ⟨_, ?_, lists, rfl⟩
    rw [Registry.listing_ids]
    rfl
  constructor
  · have lists : service.registry.ListsAll StoreConfiguration.storeId
        PacketStore.configuration StoreConfiguration.Describes _ :=
      Registry.listsAll_listing (fun store id => rfl) PacketStore.describes_configuration
    refine ⟨_, ?_, lists, rfl⟩
    rw [Registry.listing_ids]
    rfl
  constructor
  · have lists : service.registry.ListsAll ContentSummary.storeId PacketStore.summary
        ContentSummary.Describes _ :=
      Registry.listsAll_listing (fun store id => rfl) PacketStore.describes_summary
    rcases service.execute_summary_of_all with ⟨reported, failed⟩
    exact ⟨_, reported, lists, failed⟩
  constructor
  · intro stores listed
    have lists : service.registry.ListsNamed ContentSummary.storeId
        ContentSummary.Describes stores _ :=
      Registry.listsNamed_listing (fun store id => rfl) PacketStore.describes_summary stores
    rcases service.execute_summary_of_ne_nil listed with ⟨reported, failed, -⟩
    exact ⟨reported, lists, failed⟩
  · intro request asks
    constructor
    · rw [service.execute_of_asksForReport asks]
    constructor
    · exact internalErrors_execute_of_asksForReport service asks
    constructor
    · intro other same
      exact answer_congr_of_asksForReport asks same
    · intro slots same
      exact execute_slots_of_asksForReport asks same

/-- The first of three slots is vacated and the last store moves there, so the slots
are no longer in the order of identifiers.  Their reports are, and they show the
retrievals and the content of a store that is half full; the store that is gone is
missing from a summary. -/
theorem slots_out_of_order_report_in_order :
    let gone : StoreId := ⟨"gone", by decide, by decide⟩
    let events : StoreId := ⟨"events", by decide, by decide⟩
    let hk : StoreId := ⟨"hk", by decide, by decide⟩
    let small := PacketStore.create 8 .bounded 1
    let large : PacketStore :=
      { PacketStore.create 8 .circular 2 with
        storageEnabled := true
        openRetrieval := .inProgress
        openRetrievalStart := 20
        timeRangeRetrieval := some ⟨10, 30⟩
        content := .ofPackets [⟨10, [1, 2]⟩, ⟨30, [3, 4]⟩] }
    let slots : SlotService :=
      ⟨Config.standard,
        (⟨4, [(gone, small), (events, small), (hk, large)], by decide +kernel⟩ :
          SlotTable).remove gone,
        Router.empty, ⟨0⟩⟩
    let service : Service :=
      ⟨Config.standard, ⟨4, (OrderedMap.empty.insert events small).insert hk large⟩,
        Router.empty, ⟨0⟩⟩
    let statuses : List StoreStatus :=
      [⟨events, false, .suspended, false⟩, ⟨hk, true, .inProgress, true⟩]
    slots.table.slots = [(hk, large), (events, small)] ∧
    (slots.execute .reportStatus).2.reports = [.status statuses] ∧
    service.registry.ListsAll StoreStatus.storeId PacketStore.status StoreStatus.Describes
      statuses ∧
    (slots.execute .reportConfiguration).2.reports =
      [.configuration [⟨events, 8, .bounded, 1⟩, ⟨hk, 8, .circular, 2⟩]] ∧
    (service.execute (.reportContentSummary [hk, gone])).2.reports =
      [.contentSummary [⟨hk, some 10, some 30, 20, 50, 25⟩]] ∧
    (service.execute (.reportContentSummary [hk, gone])).2.failures =
      [⟨.reportContentSummary, some gone, .storeMissing⟩] := by
  intro gone events hk small large slots service statuses
  rcases service.reports_are_complete_and_ordered with
    ⟨⟨entries, reported, lists, -⟩, -, -, listed, anyReport⟩
  have slots_eq : slots.table.slots = [(hk, large), (events, small)] := by decide +kernel
  have registry_eq : slots.table.registry = service.registry := by decide +kernel
  have same : ∀ id, slots.table.get? id = service.registry.get? id :=
    (SlotTable.registry_eq_iff.mp registry_eq).2
  have statuses_eq : (service.execute .reportStatus).2.reports = [.status statuses] := by
    decide +kernel
  have configurations_eq : (service.execute .reportConfiguration).2.reports =
      [.configuration [⟨events, 8, .bounded, 1⟩, ⟨hk, 8, .circular, 2⟩]] := by
    decide +kernel
  have entries_eq : entries = statuses := by
    rw [reported] at statuses_eq
    exact Report.status.inj (List.head_eq_of_cons_eq statuses_eq)
  have onSlots {request : Request} (asks : request.asksForReport = true) :
      (slots.execute request).2.reports = (service.execute request).2.reports := by
    rw [(anyReport request asks).2.2.2 slots same]
  rcases listed [hk, gone] (by simp) with ⟨summarized, -, failed⟩
  refine ⟨slots_eq, (onSlots rfl).trans statuses_eq, entries_eq ▸ lists,
    (onSlots rfl).trans configurations_eq, summarized.trans ?_, failed.trans ?_⟩
  · decide +kernel
  · decide +kernel

end Service

end OnboardStorage
