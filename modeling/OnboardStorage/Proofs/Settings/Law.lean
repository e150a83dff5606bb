import OnboardStorage.Proofs.Operation
import OnboardStorage.Proofs.Settings.Record
import OnboardStorage.Proofs.Soundness.Run

/-!
# The last item that sets a field decides it

The items that a run accepts, listed in their order, decide which stores there are after
it and what their fields hold.  Nothing else does: rejected items, copies, telemetry and
deletions of packets leave no trace in the fields, and neither does a store of the same
name that was deleted before.  Reports on status and configuration show just that.
-/

namespace OnboardStorage

namespace Service

/-! ## The record of a run -/

/-- The items of a list that are accepted, each at its turn. -/
def acceptedItems (service : Service) : List Item → List Item
  | [] => []
  | item :: rest =>
      (if (service.perform item).2.isClean then [item] else []) ++
        (service.perform item).1.acceptedItems rest

/-- The accepted items of operations that are carried out in turn. -/
def accepted (service : Service) : List Operation → List Item
  | [] => []
  | .execute request :: rest =>
      service.acceptedItems (request.items service.registry) ++
        (service.execute request).1.accepted rest
  | operation :: rest => (service.operate operation).1.accepted rest

/-- Every store of the service tallies with a record, and so does every missing one. -/
def Recorded (service : Service) (record : List Item) : Prop :=
  ∀ id, Tallies service.config.capabilities record id (service.registry.get? id)

variable {service : Service} {record : List Item}

/-- An item that changes one store and names no other adds itself to the record. -/
theorem Recorded.change (recorded : service.Recorded record) {item : Item}
    {target : StoreId} {registry : Registry} (names_eq : item.names = [target])
    (others : ∀ other, target ≠ other → registry.get? other = service.registry.get? other)
    (own : Tallies service.config.capabilities (record ++ [item]) target
      (registry.get? target)) :
    Recorded { service with registry := registry } (record ++ [item]) := by
  intro other
  by_cases same : target = other
  · exact same ▸ own
  · rw [others other same]
    apply (recorded other).concat_of_not_mem
    rw [names_eq, List.mem_singleton]
    exact Ne.symm same

/-- Changes that leave the fields alone leave the record alone. -/
theorem Recorded.modify (recorded : service.Recorded record) (target : StoreId)
    {change : PacketStore → PacketStore}
    (same : ∀ store, service.registry.get? target = some store →
      ∀ field : StoreField, field.read (change store) = field.read store) :
    Recorded { service with registry := service.registry.modify target change } record := by
  intro other
  have agrees := recorded other
  rw [Registry.get?_modify]
  split
  · rename_i target_eq
    subst target_eq
    cases found : service.registry.get? target with
    | none => rwa [found] at agrees
    | some store =>
        rw [found] at agrees
        exact agrees.of_read_eq (same store found)
  · exact agrees

/-- A copy, accepted or not, leaves no trace in what the record says. -/
theorem Recorded.concat_copy (recorded : service.Recorded record) (order : CopyOrder)
    (accepted : Bool) :
    service.Recorded (record ++ if accepted then [.copy order] else []) := by
  cases accepted with
  | false =>
      simp only [Bool.false_eq_true, if_false, List.append_nil]
      exact recorded
  | true =>
      intro id
      apply (recorded id).concat_of_unset
      · rintro definition ⟨⟩
      · rintro ⟨⟩
      · intro field
        rfl

/-- An accepted item extends the record, and a rejected one does not. -/
theorem Recorded.perform (recorded : service.Recorded record) (item : Item) :
    (service.perform item).1.Recorded
      (record ++ if (service.perform item).2.isClean then [item] else []) := by
  have outcome := service.outcome_perform item
  generalize service.perform item = result at outcome
  cases outcome with
  | refused unclean =>
      simp only [unclean, Bool.false_eq_true, if_false, List.append_nil]
      exact recorded
  | @acted target action store found free =>
      simp only [Emission.isClean_ofNotices, if_true]
      apply recorded.change rfl
      · intro other different
        rw [Registry.get?_modify, if_neg different]
      · have own := recorded target
        rw [found] at own
        rw [Registry.get?_modify, if_pos rfl, found]
        exact own.act action
  | @created definition absent room channel size =>
      simp only [Emission.isClean_ofNotices, if_true]
      apply recorded.change rfl
      · intro other different
        rw [Registry.get?_insert, if_neg different]
      · rw [Registry.get?_insert, if_pos rfl]
        exact .create service.config.capabilities record definition
  | @deleted target store found free unrouted =>
      simp only [Emission.isClean_ofNotices, if_true]
      apply recorded.change rfl
      · intro other different
        rw [Registry.get?_remove, if_neg different]
      · rw [Registry.get?_remove, if_pos rfl]
        exact .delete service.config.capabilities record target
  | @copied order kind source destination different sourceFound destinationFound known =>
      have filled : Recorded { service with
          registry := service.registry.modify order.destination fun _ =>
            (source.copyWindow destination
              (Window.ofKind kind order.start order.stop)).1 } record := by
        apply recorded.modify
        intro held same field
        rw [destinationFound] at same
        cases same
        exact StoreField.read_copyWindow source destination _ field
      exact filled.concat_copy order _

theorem Recorded.performEach (recorded : service.Recorded record) (items : List Item) :
    (service.performEach items).1.Recorded (record ++ service.acceptedItems items) := by
  induction items generalizing service record with
  | nil =>
      rw [acceptedItems, List.append_nil]
      exact recorded
  | cons item rest ih =>
      rw [acceptedItems, ← List.append_assoc]
      exact ih (recorded.perform item)

theorem Recorded.storeReport (recorded : service.Recorded record) (serviceType : UInt8)
    (data : List UInt8) : (service.storeReport serviceType data).1.Recorded record := by
  have outcome := service.outcome_storeReport serviceType data
  generalize (service.storeReport serviceType data).2.1 = answer at outcome
  generalize (service.storeReport serviceType data).1 = next at outcome ⊢
  cases outcome with
  | dropped unstored => exact recorded
  | stored routed found enabled short taken =>
      apply recorded.modify
      intro held same field
      rw [found] at same
      cases same
      exact StoreField.read_taken taken field

/-- A run extends the record by what it accepts. -/
theorem Recorded.run (recorded : service.Recorded record) {operations : List Operation}
    (lasting : ∀ operation ∈ operations, operation.replacesStores = false) :
    (service.run operations).1.Recorded (record ++ service.accepted operations) := by
  induction operations generalizing service record with
  | nil =>
      rw [accepted, List.append_nil]
      exact recorded
  | cons operation rest ih =>
      rcases List.forall_mem_cons.mp lasting with ⟨first, others⟩
      cases operation with
      | execute request =>
          rw [accepted, ← List.append_assoc]
          exact ih (recorded.performEach _) others
      | report serviceType data => exact ih (recorded.storeReport serviceType data) others
      | route serviceType store =>
          have routed : (service.operate (.route serviceType store)).1.Recorded record := by
            simp only [operate]
            split <;> exact recorded
          exact ih routed others
      | setClock tag => exact ih recorded others
      | advanceClock duration => exact ih recorded others
      | unroute serviceType => exact ih recorded others
      | clearRoutes => exact ih recorded others
      | reset => cases first
      | restore snapshot => cases first

/-! ## Reports -/

/-- The reports on status and configuration list the stores there are, each with what a
record says of it. -/
structure ReportsShow (service : Service) (record : List Item) : Prop where
  status : ∃ statuses, (service.execute .reportStatus).2.reports = [.status statuses] ∧
    statuses.map (·.storeId) = service.registry.ids ∧
    ∀ status ∈ statuses, status.Shows service.config.capabilities record
  configuration : ∃ configurations,
    (service.execute .reportConfiguration).2.reports = [.configuration configurations] ∧
    configurations.map (·.storeId) = service.registry.ids ∧
    ∀ shown ∈ configurations, shown.Shows service.config.capabilities record

theorem Recorded.reportsShow (recorded : service.Recorded record) :
    service.ReportsShow record := by
  have listed {entry : StoreId × PacketStore}
      (member : entry ∈ service.registry.stores.entries) :
      Tallies service.config.capabilities record entry.1 (some entry.2) := by
    have found : service.registry.get? entry.1 = some entry.2 :=
      OrderedMap.mem_entries_iff.mp member
    rw [← found]
    exact recorded entry.1
  constructor
  · refine ⟨_, rfl, List.map_map, ?_⟩
    intro status member
    rcases List.mem_map.mp member with ⟨entry, present, rfl⟩
    exact (listed present).shows_status
  · refine ⟨_, rfl, List.map_map, ?_⟩
    intro shown member
    rcases List.mem_map.mp member with ⟨entry, present, rfl⟩
    exact (listed present).shows_configuration

/-- The last item that sets a field decides it.  In every state of every run of a
service started from a checked configuration, a store exists exactly if its latest
accepted creation has not been followed by an accepted deletion.  Each of its fields
holds what the last item accepted since that creation set it to, or else the initial
value; and the reports on status and configuration list just these stores with just
these values. -/
theorem last_setting_decides_each_field {config : Config} (valid : config.check = .ok ())
    (clock : Clock) :
    ∃ fresh notices, start config clock = .ok (fresh, notices) ∧
      ∀ operations : List Operation,
        (∀ operation ∈ operations, operation.replacesStores = false) →
        (∀ id, (fresh.run operations).1.registry.contains id = true ↔
          ∃ definition since,
            LatestCreation (fresh.accepted operations) id definition since ∧
            .delete id ∉ since) ∧
        (∀ id store definition since,
          (fresh.run operations).1.registry.get? id = some store →
          LatestCreation (fresh.accepted operations) id definition since →
          ∀ field : StoreField, field.read store =
            field.valueSince config.capabilities id definition since) ∧
        (fresh.run operations).1.ReportsShow (fresh.accepted operations) := by
  rcases exists_start_eq_ok valid clock with ⟨router, started⟩
  refine ⟨_, _, started, ?_⟩
  intro operations lasting
  have blank : Recorded ⟨config, Registry.empty config.maxStores.toNat, router, clock⟩ [] :=
    fun id definition since latest => absurd latest not_latestCreation_nil
  have recorded := blank.run lasting
  have config_eq := config_run
    ⟨config, Registry.empty config.maxStores.toNat, router, clock⟩ operations
  constructor
  · intro id
    exact (recorded id).isSome_iff
  constructor
  · intro id store definition since found latest field
    have agrees := recorded id
    rw [found, config_eq] at agrees
    exact (agrees.2 definition since latest).2 field
  · exact recorded.reportsShow

/-- A store that was deleted and created again has nothing of the earlier one; a change
of capacity that is rejected and a retrieval that is over leave it as they found it, but
for the priority that came with the retrieval. -/
theorem store_created_again_starts_afresh :
    let config := { Config.standard with
      capabilities := { Config.standard.capabilities with prioritizedRetrieval := true } }
    let id : StoreId := ⟨"log", by decide, by decide⟩
    let definition : StoreDefinition := ⟨id, 50, .bounded, 2⟩
    let operations : List Operation :=
      [.execute (.createStores [⟨id, 100, .circular, 1⟩]), .execute (.enableStorage []),
        .execute (.changeOpenRetrievalStart 5 [id]), .execute (.deleteStores [id]),
        .execute (.disableStorage [id]), .execute (.deleteStores [id]),
        .execute (.createStores [definition]),
        .execute (.resizeStores [⟨id, 60⟩, ⟨id, 0⟩]),
        .execute (.startTimeRangeRetrieval [⟨id, ⟨1, 2⟩, some 9⟩]),
        .execute (.abortTimeRangeRetrieval [id])]
    let since : List Item :=
      [.act id (.resize 60), .act id (.startTimeRange ⟨1, 2⟩ (some 9)),
        .act id .abortTimeRange]
    ∃ fresh notices store, start config ⟨7⟩ = .ok (fresh, notices) ∧
      (fresh.run operations).1.registry.get? id = some store ∧
      LatestCreation (fresh.accepted operations) id definition since ∧
      store.capacity = 60 ∧ store.openRetrievalStart = 0 ∧
      store.timeRangeRetrieval = none ∧ store.retrievalPriority = 9 := by
  intro config id definition operations since
  rcases last_setting_decides_each_field (rfl : config.check = .ok ()) ⟨7⟩ with
    ⟨fresh, notices, started, decided⟩
  have fresh_eq : start config ⟨7⟩ =
      .ok (⟨config, Registry.empty 4, Router.empty, ⟨7⟩⟩, []) := rfl
  rw [fresh_eq] at started
  cases started
  have lasting : ∀ operation ∈ operations, operation.replacesStores = false := by
    decide
  rcases decided operations lasting with ⟨-, fields, -⟩
  have latest : LatestCreation
      (accepted ⟨config, Registry.empty 4, Router.empty, ⟨7⟩⟩ operations) id definition
        since := by
    refine ⟨rfl, ⟨(accepted ⟨config, Registry.empty 4, Router.empty, ⟨7⟩⟩
      operations).take 5, by decide +kernel⟩, ?_⟩
    intro other member
    simp [since] at member
  have found : ((run ⟨config, Registry.empty 4, Router.empty, ⟨7⟩⟩
      operations).1.registry.get? id).isSome = true := by decide +kernel
  rcases Option.isSome_iff_exists.mp found with ⟨store, found⟩
  have values := fields id store definition since found latest
  refine ⟨_, _, store, fresh_eq, found, latest, ?_, ?_, ?_, ?_⟩
  · exact values .capacity
  · exact values .openRetrievalStart
  · exact values .timeRangeRetrieval
  · exact values .retrievalPriority

end Service

end OnboardStorage
