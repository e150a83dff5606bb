import OnboardStorage.Proofs.Batch
import Mathlib.Data.List.Basic

/-!
# Operations keep to the stores they name

A telecommand that names its stores, and a telemetry report, look at no other stores
and change no others.  Two services that differ only in other stores therefore answer
alike, and operations that name different stores may change places.

Creation is not local in this sense: whether there is room depends on all stores.  Nor
are the reports on all stores and the telecommands whose empty list stands for them.
-/

namespace OnboardStorage

/-! ## Names -/

/-- The stores that an item names. -/
def Item.names : Item → List StoreId
  | .act store _ => [store]
  | .create definition => [definition.id]
  | .delete store => [store]
  | .copy order => [order.source, order.destination]

/-- Whether an item looks at the stores it names and at no others. -/
def Item.isLocal : Item → Bool
  | .create _ => false
  | _ => true

namespace Request

/-- The stores of a list that is not empty. -/
def listed? (stores : List StoreId) : Option (List StoreId) :=
  if stores.isEmpty then none else some stores

/-- The stores that a telecommand names, if it is about none but these. -/
def names? : Request → Option (List StoreId)
  | .enableStorage stores | .disableStorage stores | .deleteContent _ stores
  | .reportContentSummary stores | .changeOpenRetrievalStart _ stores
  | .resumeOpenRetrieval stores _ | .suspendOpenRetrieval stores
  | .abortTimeRangeRetrieval stores | .deleteStores stores => listed? stores
  | .startTimeRangeRetrieval retrievals => listed? (retrievals.map (·.store))
  | .resizeStores resizes => listed? (resizes.map (·.id))
  | .copyPackets order => some [order.source, order.destination]
  | .changeTypeToCircular store | .changeTypeToBounded store
  | .changeVirtualChannel store _ => some [store]
  | .createStores _ | .reportStatus | .reportConfiguration => none

theorem listed?_eq_some_iff {stores names : List StoreId} :
    listed? stores = some names ↔ stores ≠ [] ∧ stores = names := by
  unfold listed?
  cases stores with
  | nil => simp
  | cons id rest => simp

end Request

/-- The stores that an operation names; a report names the one it is routed to. -/
def Operation.names? (router : Router) : Operation → Option (List StoreId)
  | .execute request => request.names?
  | .report serviceType _ => some (router.destination? serviceType).toList
  | _ => none

namespace Request

variable {request : Request} {names : List StoreId}

/-- What a telecommand with names is made of does not depend on the stores there are. -/
theorem items_eq_of_names? (named : request.names? = some names)
    (first second : Registry) : request.items first = request.items second := by
  have targets_eq {stores : List StoreId} (given : listed? stores = some names) :
      first.targets stores = second.targets stores := by
    have nonempty := (listed?_eq_some_iff.mp given).1
    rw [first.targets_of_ne_nil nonempty, second.targets_of_ne_nil nonempty]
  cases request with
  | enableStorage | disableStorage | deleteContent | changeOpenRetrievalStart
  | resumeOpenRetrieval | suspendOpenRetrieval | abortTimeRangeRetrieval | deleteStores =>
      simp only [items, itemsOn, targets_eq named]
  | _ => rfl

/-- Only a telecommand that creates stores has items that are not local. -/
theorem isLocal_of_mem_items (noCreation : ∀ definitions, request ≠ .createStores definitions)
    {registry : Registry} {item : Item} (member : item ∈ request.items registry) :
    item.isLocal = true := by
  cases request with
  | createStores definitions => exact absurd rfl (noCreation definitions)
  | copyPackets | changeTypeToCircular | changeTypeToBounded | changeVirtualChannel =>
      cases List.mem_singleton.mp member
      rfl
  | reportContentSummary | reportStatus | reportConfiguration => cases member
  | _ =>
      rcases List.mem_map.mp member with ⟨entry, -, rfl⟩
      rfl

/-- The items of a telecommand name no other stores than it names itself. -/
theorem names_subset_of_mem_items (named : request.names? = some names)
    {registry : Registry} {item : Item} (member : item ∈ request.items registry) :
    item.names ⊆ names := by
  have listed {stores : List StoreId} (given : listed? stores = some names)
      (target : ∃ id ∈ registry.targets stores, item.names = [id]) : item.names ⊆ names := by
    rcases listed?_eq_some_iff.mp given with ⟨nonempty, rfl⟩
    rcases target with ⟨id, present, names_eq⟩
    rw [registry.targets_of_ne_nil nonempty] at present
    rw [names_eq]
    exact List.cons_subset.mpr ⟨present, List.nil_subset _⟩
  cases request with
  | enableStorage | disableStorage | deleteContent | changeOpenRetrievalStart
  | resumeOpenRetrieval | suspendOpenRetrieval | abortTimeRangeRetrieval | deleteStores =>
      rcases List.mem_map.mp member with ⟨id, present, rfl⟩
      exact listed named ⟨id, present, rfl⟩
  | startTimeRangeRetrieval | resizeStores =>
      rcases List.mem_map.mp member with ⟨entry, present, rfl⟩
      rcases listed?_eq_some_iff.mp named with ⟨-, rfl⟩
      exact List.cons_subset.mpr ⟨List.mem_map_of_mem present, List.nil_subset _⟩
  | copyPackets | changeTypeToCircular | changeTypeToBounded | changeVirtualChannel =>
      rw [items, itemsOn, List.mem_singleton] at member
      cases member
      cases named
      exact List.Subset.refl _
  | createStores | reportStatus | reportConfiguration => cases named
  | reportContentSummary => cases member

end Request

namespace Service

/-! ## Other stores stay as they are -/

variable {service : Service} {id : StoreId}

theorem get?_perform_of_not_mem {item : Item} (other : id ∉ item.names) :
    (service.perform item).1.registry.get? id = service.registry.get? id := by
  have outcome := service.outcome_perform item
  generalize service.perform item = result at outcome
  cases outcome with
  | refused unclean => rfl
  | acted found free =>
      rw [Registry.get?_modify, if_neg (Ne.symm (List.ne_of_not_mem_cons other))]
  | created absent room channel size =>
      rw [Registry.get?_insert, if_neg (Ne.symm (List.ne_of_not_mem_cons other))]
  | deleted found free unrouted =>
      rw [Registry.get?_remove, if_neg (Ne.symm (List.ne_of_not_mem_cons other))]
  | copied different sourceFound destinationFound known =>
      have behind := List.not_mem_of_not_mem_cons other
      rw [Registry.get?_modify, if_neg (Ne.symm (List.ne_of_not_mem_cons behind))]

theorem get?_performEach_of_not_mem {items : List Item}
    (other : ∀ item ∈ items, id ∉ item.names) :
    (service.performEach items).1.registry.get? id = service.registry.get? id := by
  induction items generalizing service with
  | nil => rfl
  | cons item rest ih =>
      rcases List.forall_mem_cons.mp other with ⟨first, others⟩
      exact (ih others).trans (get?_perform_of_not_mem first)

theorem get?_storeReport_of_ne {serviceType : UInt8} {data : List UInt8}
    (other : service.router.destination? serviceType ≠ some id) :
    (service.storeReport serviceType data).1.registry.get? id = service.registry.get? id := by
  have outcome := service.outcome_storeReport serviceType data
  generalize (service.storeReport serviceType data).2.1 = answer at outcome
  generalize (service.storeReport serviceType data).1 = next at outcome ⊢
  cases outcome with
  | dropped unstored => rfl
  | stored routed found enabled short taken =>
      have different : _ ≠ id := fun same => other (same ▸ routed)
      rw [Registry.get?_modify, if_neg different]

/-- An operation changes no store that it does not name. -/
theorem get?_operate_of_not_mem {operation : Operation} {names : List StoreId}
    (named : operation.names? service.router = some names) (other : id ∉ names) :
    (service.operate operation).1.registry.get? id = service.registry.get? id := by
  cases operation with
  | execute request =>
      apply get?_performEach_of_not_mem
      intro item member present
      exact other (Request.names_subset_of_mem_items named member present)
  | report serviceType data =>
      cases named
      apply get?_storeReport_of_ne
      intro routed
      rw [routed] at other
      exact other List.mem_cons_self
  | _ => cases named

/-! ## Services that agree on some stores -/

/-- The second service is the first with other stores, of which the listed ones are the
same. -/
def AgreeOn (names : List StoreId) (first second : Service) : Prop :=
  ∃ registry : Registry, second = { first with registry := registry } ∧
    ∀ id ∈ names, registry.get? id = first.registry.get? id

variable {first second : Service} {names : List StoreId}

theorem AgreeOn.get?_eq (agree : AgreeOn names first second) {id : StoreId}
    (member : id ∈ names) : second.registry.get? id = first.registry.get? id := by
  rcases agree with ⟨registry, rfl, same⟩
  exact same id member

theorem AgreeOn.modify (agree : AgreeOn names first second) (id : StoreId)
    (change : PacketStore → PacketStore) :
    AgreeOn names { first with registry := first.registry.modify id change }
      { second with registry := second.registry.modify id change } := by
  rcases agree with ⟨registry, rfl, same⟩
  refine ⟨registry.modify id change, rfl, ?_⟩
  intro other member
  rw [Registry.get?_modify, Registry.get?_modify, same other member]

theorem AgreeOn.remove (agree : AgreeOn names first second) (id : StoreId) :
    AgreeOn names { first with registry := first.registry.remove id }
      { second with registry := second.registry.remove id } := by
  rcases agree with ⟨registry, rfl, same⟩
  refine ⟨registry.remove id, rfl, ?_⟩
  intro other member
  rw [Registry.get?_remove, Registry.get?_remove, same other member]

/-- Two services that agree on some stores, and what is seen of them. -/
def Alike {α : Type} (names : List StoreId) (first second : Service × α) : Prop :=
  AgreeOn names first.1 second.1 ∧ second.2 = first.2

/-! ## Named stores decide -/

theorem AgreeOn.act (agree : AgreeOn names first second) {id : StoreId}
    (member : id ∈ names) (action : Action) :
    Alike names (first.act id action) (second.act id action) := by
  rcases agree with ⟨registry, rfl, same⟩
  have agree : AgreeOn names first { first with registry := registry } :=
    ⟨registry, rfl, same⟩
  simp only [Service.act, same id member]
  cases first.registry.get? id with
  | none => exact ⟨agree, rfl⟩
  | some store =>
      cases free : action.obstacle? first.config store with
      | some cause =>
          simp only [free]
          exact ⟨agree, rfl⟩
      | none =>
          simp only [free]
          exact ⟨agree.modify id _, rfl⟩

theorem AgreeOn.delete (agree : AgreeOn names first second) {id : StoreId}
    (member : id ∈ names) : Alike names (first.delete id) (second.delete id) := by
  rcases agree with ⟨registry, rfl, same⟩
  have agree : AgreeOn names first { first with registry := registry } :=
    ⟨registry, rfl, same⟩
  have obstacle_eq : deletionObstacle? { first with registry := registry } id =
      first.deletionObstacle? id := by
    simp only [deletionObstacle?, same id member]
  simp only [Service.delete, obstacle_eq]
  cases first.deletionObstacle? id with
  | none => exact ⟨agree.remove id, rfl⟩
  | some cause => cases cause <;> exact ⟨agree, rfl⟩

theorem AgreeOn.copy (agree : AgreeOn names first second) {order : CopyOrder}
    (source : order.source ∈ names) (destination : order.destination ∈ names) :
    Alike names (first.copy order) (second.copy order) := by
  rcases agree with ⟨registry, rfl, same⟩
  have agree : AgreeOn names first { first with registry := registry } :=
    ⟨registry, rfl, same⟩
  have ends_eq : registry.sourceAndDestination? order.source order.destination =
      first.registry.sourceAndDestination? order.source order.destination := by
    simp only [Registry.sourceAndDestination?, same _ source, same _ destination]
  have between_eq : ∀ kind : WindowKind, Alike names (first.copyBetween order kind)
      (copyBetween { first with registry := registry } order kind) := by
    intro kind
    simp only [copyBetween, ends_eq, same _ destination]
    cases first.registry.sourceAndDestination? order.source order.destination with
    | none => exact ⟨agree, rfl⟩
    | some stores => exact ⟨agree.modify order.destination _, rfl⟩
  have contains_eq {id : StoreId} (member : id ∈ names) :
      registry.contains id = first.registry.contains id := by
    simp only [Registry.contains, same id member]
  simp only [Service.copy, contains_eq source, contains_eq destination]
  by_cases noSource : (!first.registry.contains order.source) = true
  · rw [if_pos noSource, if_pos noSource]
    exact ⟨agree, rfl⟩
  rw [if_neg noSource, if_neg noSource]
  by_cases noDestination : (!first.registry.contains order.destination) = true
  · rw [if_pos noDestination, if_pos noDestination]
    exact ⟨agree, rfl⟩
  rw [if_neg noDestination, if_neg noDestination]
  cases WindowKind.ofCode order.windowCode with
  | error unknown => exact ⟨agree, rfl⟩
  | ok kind => exact between_eq kind

/-- Services that agree on the stores an item names do the same with it. -/
theorem AgreeOn.perform (agree : AgreeOn names first second) {item : Item}
    (isLocal : item.isLocal = true) (named : item.names ⊆ names) :
    Alike names (first.perform item) (second.perform item) := by
  cases item with
  | act id action => exact agree.act (named List.mem_cons_self) action
  | create definition => cases isLocal
  | delete id => exact agree.delete (named List.mem_cons_self)
  | copy order =>
      exact agree.copy (named List.mem_cons_self)
        (named (List.mem_cons_of_mem _ List.mem_cons_self))

theorem AgreeOn.performEach (agree : AgreeOn names first second) {items : List Item}
    (named : ∀ item ∈ items, item.isLocal = true ∧ item.names ⊆ names) :
    Alike names (first.performEach items) (second.performEach items) := by
  induction items generalizing first second with
  | nil => exact ⟨agree, rfl⟩
  | cons item rest ih =>
      rcases List.forall_mem_cons.mp named with ⟨⟨isLocal, subset⟩, others⟩
      rcases agree.perform isLocal subset with ⟨next, own⟩
      rcases ih next others with ⟨final, later⟩
      constructor
      · exact final
      · rw [performEach_cons, performEach_cons, own, later]

theorem AgreeOn.reporting (agree : AgreeOn names first second) {request : Request}
    (named : request.names? = some names) :
    request.reporting second.registry = request.reporting first.registry := by
  cases request with
  | reportContentSummary stores =>
      rcases Request.listed?_eq_some_iff.mp named with ⟨nonempty, rfl⟩
      have found_eq : ∀ id ∈ stores, second.registry.get? id = first.registry.get? id :=
        fun id member => agree.get?_eq member
      simp only [Request.reporting, Registry.targets_of_ne_nil _ nonempty,
        Registry.summaryEmission, Registry.contains]
      rw [List.filterMap_congr fun id member => by rw [found_eq id member],
        List.filter_congr fun id member => by rw [found_eq id member]]
  | reportStatus | reportConfiguration => cases named
  | _ => rfl

theorem AgreeOn.execute (agree : AgreeOn names first second) {request : Request}
    (named : request.names? = some names) :
    Alike names (first.execute request) (second.execute request) := by
  have own : ∀ item ∈ request.items first.registry,
      item.isLocal = true ∧ item.names ⊆ names := by
    intro item member
    constructor
    · apply Request.isLocal_of_mem_items _ member
      rintro definitions rfl
      cases named
    · exact Request.names_subset_of_mem_items named member
  rcases agree.performEach own with ⟨final, performed⟩
  have items_eq := Request.items_eq_of_names? named second.registry first.registry
  simp only [Service.execute, items_eq]
  constructor
  · exact final
  · simp only [performed, agree.reporting named]

theorem AgreeOn.storeReport (agree : AgreeOn names first second) {serviceType : UInt8}
    (named : ∀ id ∈ first.router.destination? serviceType, id ∈ names)
    (data : List UInt8) :
    Alike names (first.storeReport serviceType data)
      (second.storeReport serviceType data) := by
  rcases agree with ⟨registry, rfl, same⟩
  have agree : AgreeOn names first { first with registry := registry } :=
    ⟨registry, rfl, same⟩
  simp only [Service.storeReport]
  cases routed : first.router.destination? serviceType with
  | none => exact ⟨agree, rfl⟩
  | some id =>
      simp only [same id (named id routed)]
      cases first.registry.get? id with
      | none => exact ⟨agree, rfl⟩
      | some store =>
          simp only
          split
          · exact ⟨agree, rfl⟩
          split
          · exact ⟨agree, rfl⟩
          · exact ⟨agree.modify id _, rfl⟩

/-- Services that agree on the stores an operation names answer alike, and agree on
them afterwards. -/
theorem AgreeOn.operate (agree : AgreeOn names first second) {operation : Operation}
    (named : operation.names? first.router = some names) :
    Alike names (first.operate operation) (second.operate operation) := by
  cases operation with
  | execute request =>
      rcases agree.execute named with ⟨final, seen⟩
      exact ⟨final, congrArg Answer.emitted seen⟩
  | report serviceType data =>
      have destination : ∀ id ∈ first.router.destination? serviceType, id ∈ names := by
        cases named
        intro id routed
        exact Option.mem_toList.mpr routed
      rcases agree.storeReport destination data with ⟨final, seen⟩
      exact ⟨final, congrArg Answer.filed (congrArg Prod.fst seen)⟩
  | _ => cases named

end Service

end OnboardStorage
