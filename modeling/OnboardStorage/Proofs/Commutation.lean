import OnboardStorage.Proofs.Locality

/-!
# Operations on different stores commute

Of two operations that name different stores, neither sees whether the other has been
carried out before it, and the stores that they leave behind are the same in either
order.  Both may be rejected in part; the configuration, the routes and the clock are
read by both and changed by neither.
-/

namespace OnboardStorage.Service

variable {service : Service} {operation : Operation} {names : List StoreId}

/-- An operation that names its stores changes nothing but stores. -/
theorem operate_eq_of_named (named : operation.names? service.router = some names) :
    (service.operate operation).1 =
        { service with registry := (service.operate operation).1.registry } ∧
      (service.operate operation).1.registry.limit = service.registry.limit := by
  cases operation with
  | execute request =>
      exact ⟨eq_of_frame (service.execute_frame request), service.limit_performEach _⟩
  | report serviceType data =>
      exact ⟨eq_of_frame (service.storeReport_frame serviceType data),
        service.limit_storeReport serviceType data⟩
  | _ => cases named

/-- A service agrees with what an operation makes of it on all stores that the
operation does not name. -/
theorem agreeOn_operate (named : operation.names? service.router = some names)
    {others : List StoreId} (disjoint : ∀ id ∈ others, id ∉ names) :
    AgreeOn others service (service.operate operation).1 := by
  refine ⟨_, (operate_eq_of_named named).1, ?_⟩
  intro id member
  exact get?_operate_of_not_mem named (disjoint id member)

/-- Two operations that name different stores lead to the same service in either order,
and each is answered as if the other had not been carried out. -/
theorem operations_on_different_stores_commute (service : Service)
    (first second : Operation) (firstNames secondNames : List StoreId)
    (firstNamed : first.names? service.router = some firstNames)
    (secondNamed : second.names? service.router = some secondNames)
    (disjoint : ∀ id ∈ firstNames, id ∉ secondNames) :
    ((service.operate first).1.operate second).1 =
        ((service.operate second).1.operate first).1 ∧
      ((service.operate second).1.operate first).2 = (service.operate first).2 ∧
      ((service.operate first).1.operate second).2 = (service.operate second).2 := by
  have disjointBack : ∀ id ∈ secondNames, id ∉ firstNames :=
    fun id member present => disjoint id present member
  rcases (agreeOn_operate secondNamed disjoint).operate firstNamed with
    ⟨firstStores, firstAnswer⟩
  rcases (agreeOn_operate firstNamed disjointBack).operate secondNamed with
    ⟨secondStores, secondAnswer⟩
  rcases operate_eq_of_named firstNamed with ⟨firstFrame, firstLimit⟩
  rcases operate_eq_of_named secondNamed with ⟨secondFrame, secondLimit⟩
  have secondLater : second.names? (service.operate first).1.router = some secondNames := by
    rw [firstFrame]
    exact secondNamed
  have firstLater : first.names? (service.operate second).1.router = some firstNames := by
    rw [secondFrame]
    exact firstNamed
  rcases operate_eq_of_named secondLater with ⟨forthFrame, forthLimit⟩
  rcases operate_eq_of_named firstLater with ⟨backFrame, backLimit⟩
  constructor
  · have registry_eq : ((service.operate first).1.operate second).1.registry =
        ((service.operate second).1.operate first).1.registry := by
      apply Registry.ext_get?
      · rw [forthLimit, firstLimit, backLimit, secondLimit]
      · intro id
        by_cases inFirst : id ∈ firstNames
        · rw [firstStores.get?_eq inFirst,
            get?_operate_of_not_mem secondLater (disjoint id inFirst)]
        by_cases inSecond : id ∈ secondNames
        · rw [secondStores.get?_eq inSecond, get?_operate_of_not_mem firstLater inFirst]
        · rw [get?_operate_of_not_mem secondLater inSecond,
            get?_operate_of_not_mem firstNamed inFirst,
            get?_operate_of_not_mem firstLater inFirst,
            get?_operate_of_not_mem secondNamed inSecond]
    rw [forthFrame, backFrame, registry_eq, firstFrame, secondFrame]
  · exact ⟨firstAnswer, secondAnswer⟩

/-- A report is filed into one store while another is deleted, or is found to be
missing, at the same time. -/
theorem report_commutes_with_deletion :
    let log : StoreId := ⟨"log", by decide, by decide⟩
    let spare : StoreId := ⟨"spare", by decide, by decide⟩
    let store := { PacketStore.create 100 .circular 1 with storageEnabled := true }
    let service : Service :=
      ⟨Config.standard,
        ⟨4, (OrderedMap.empty.insert log store).insert spare
          (PacketStore.create 50 .bounded 2)⟩,
        ⟨OrderedMap.empty.insert 3 log⟩, ⟨7⟩⟩
    let report : Operation := .report 3 [1, 2]
    let deletion : Operation := .execute (.deleteStores [spare, spare])
    report.names? service.router = some [log] ∧
      deletion.names? service.router = some [spare, spare] ∧
      ((service.operate report).1.operate deletion).1 =
        ((service.operate deletion).1.operate report).1 ∧
      ((service.operate deletion).1.operate report).2 = (service.operate report).2 ∧
      ((service.operate report).1.operate deletion).2 = (service.operate deletion).2 := by
  intro log spare store service report deletion
  have reportNamed : report.names? service.router = some [log] := by decide +kernel
  have deletionNamed : deletion.names? service.router = some [spare, spare] := by
    decide +kernel
  refine ⟨reportNamed, deletionNamed, ?_⟩
  apply operations_on_different_stores_commute service report deletion _ _ reportNamed
    deletionNamed
  decide +kernel

end OnboardStorage.Service
