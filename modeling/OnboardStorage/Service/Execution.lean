import OnboardStorage.Service.Item

/-!
# Execution of telecommands

A telecommand that changes stores is the list of its items, carried out in
turn.  An empty list of identifiers stands for all stores that exist when the
telecommand arrives, in ascending order.  A telecommand that asks for a report
changes nothing.
-/

namespace OnboardStorage

namespace Registry

/-- The stores that a list of identifiers stands for. -/
def targets (registry : Registry) (stores : List StoreId) : List StoreId :=
  if stores.isEmpty then registry.ids else stores

/-- Summaries of the given stores that exist, in the order given; each missing
one is a failure. -/
def summaryEmission (registry : Registry) (stores : List StoreId) : Emission :=
  let missing := stores.filter fun id => !registry.contains id
  missing.foldr
    (fun id later =>
      Emission.rejection .reportContentSummary id .storeMissing ++ later)
    (.ofReport (.contentSummary
      (stores.filterMap fun id => (registry.get? id).map (·.summary id))))

end Registry

namespace Request

/-- The items of a request that changes stores, where a list of identifiers stands for
the stores that `targets` makes of it; a request for a report has none. -/
def itemsOn (targets : List StoreId → List StoreId) : Request → List Item
  | .enableStorage stores =>
      (targets stores).map fun id => .act id (.setStorage true)
  | .disableStorage stores =>
      (targets stores).map fun id => .act id (.setStorage false)
  | .startTimeRangeRetrieval retrievals =>
      retrievals.map fun retrieval =>
        .act retrieval.store (.startTimeRange retrieval.range retrieval.priority)
  | .deleteContent limit stores =>
      (targets stores).map fun id => .act id (.deleteContent limit)
  | .changeOpenRetrievalStart start stores =>
      (targets stores).map fun id => .act id (.moveOpenStart start)
  | .resumeOpenRetrieval stores priority =>
      (targets stores).map fun id => .act id (.resumeOpen priority)
  | .suspendOpenRetrieval stores =>
      (targets stores).map fun id => .act id .suspendOpen
  | .abortTimeRangeRetrieval stores =>
      (targets stores).map fun id => .act id .abortTimeRange
  | .createStores definitions => definitions.map .create
  | .deleteStores stores => (targets stores).map .delete
  | .copyPackets order => [.copy order]
  | .resizeStores resizes =>
      resizes.map fun resize => .act resize.id (.resize resize.size)
  | .changeTypeToCircular store => [.act store (.changeKind .circular)]
  | .changeTypeToBounded store => [.act store (.changeKind .bounded)]
  | .changeVirtualChannel store channel => [.act store (.changeChannel channel)]
  | .reportContentSummary _ | .reportStatus | .reportConfiguration => []

/-- The items of a request that changes the stores of a registry. -/
def items (registry : Registry) (request : Request) : List Item :=
  request.itemsOn registry.targets

/-- The reports that a request asks for, and the stores they miss. -/
def reporting (registry : Registry) : Request → Emission
  | .reportContentSummary stores =>
      registry.summaryEmission (registry.targets stores)
  | .reportStatus => .ofReport registry.statusReport
  | .reportConfiguration => .ofReport registry.configurationReport
  | _ => .silent

end Request

namespace Service

/-- Carry out a telecommand. -/
def execute (service : Service) (request : Request) : Service × Emission :=
  let (final, performed) := service.performEach (request.items service.registry)
  (final,
    .ofNotices [.executing request.messageType] ++ performed ++
      request.reporting service.registry)

end Service

end OnboardStorage
