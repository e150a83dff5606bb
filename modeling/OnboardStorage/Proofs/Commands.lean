import OnboardStorage.Service.Execution

/-!
# What telecommands ask for

Most telecommands carry a list, and ask for the same thing to be done to each store or
entry in it.  They are described by a type with one function for the telecommand and one
for the item of an entry, so that what holds of all of them is said once.

An empty list of stores stands for all of them; an empty list of anything else asks for
nothing.
-/

namespace OnboardStorage

/-! ## Telecommands that carry a list -/

/-- Telecommands that change a list of stores, the empty list standing for all. -/
inductive StoresCommand where
  | enableStorage
  | disableStorage
  | deleteContent (limit : TimeTag)
  | changeOpenRetrievalStart (start : TimeTag)
  | resumeOpenRetrieval (priority : Option UInt16)
  | suspendOpenRetrieval
  | abortTimeRangeRetrieval
  | deleteStores

namespace StoresCommand

/-- The telecommand for a list of stores. -/
def request : StoresCommand → List StoreId → Request
  | .enableStorage, stores => .enableStorage stores
  | .disableStorage, stores => .disableStorage stores
  | .deleteContent limit, stores => .deleteContent limit stores
  | .changeOpenRetrievalStart start, stores => .changeOpenRetrievalStart start stores
  | .resumeOpenRetrieval priority, stores => .resumeOpenRetrieval stores priority
  | .suspendOpenRetrieval, stores => .suspendOpenRetrieval stores
  | .abortTimeRangeRetrieval, stores => .abortTimeRangeRetrieval stores
  | .deleteStores, stores => .deleteStores stores

/-- What is asked of each store. -/
def item : StoresCommand → StoreId → Item
  | .enableStorage, id => .act id (.setStorage true)
  | .disableStorage, id => .act id (.setStorage false)
  | .deleteContent limit, id => .act id (.deleteContent limit)
  | .changeOpenRetrievalStart start, id => .act id (.moveOpenStart start)
  | .resumeOpenRetrieval priority, id => .act id (.resumeOpen priority)
  | .suspendOpenRetrieval, id => .act id .suspendOpen
  | .abortTimeRangeRetrieval, id => .act id .abortTimeRange
  | .deleteStores, id => .delete id

theorem items_request (command : StoresCommand) (registry : Registry)
    (stores : List StoreId) :
    (command.request stores).items registry = (registry.targets stores).map command.item := by
  cases command <;> rfl

theorem reporting_request (command : StoresCommand) (registry : Registry)
    (stores : List StoreId) : (command.request stores).reporting registry = .silent := by
  cases command <;> rfl

theorem messageType_request (command : StoresCommand) (first second : List StoreId) :
    (command.request first).messageType = (command.request second).messageType := by
  cases command <;> rfl

end StoresCommand

/-- Telecommands that carry a list of entries to be carried out one by one. -/
inductive BatchCommand where
  | onStores (command : StoresCommand)
  | startTimeRangeRetrieval
  | createStores
  | resizeStores

namespace BatchCommand

/-- What the list of a telecommand is made of. -/
def Entry : BatchCommand → Type
  | .onStores _ => StoreId
  | .startTimeRangeRetrieval => RetrievalStart
  | .createStores => StoreDefinition
  | .resizeStores => StoreResize

/-- The telecommand for a list of entries. -/
def request : (command : BatchCommand) → List command.Entry → Request
  | .onStores command, stores => command.request stores
  | .startTimeRangeRetrieval, retrievals => .startTimeRangeRetrieval retrievals
  | .createStores, definitions => .createStores definitions
  | .resizeStores, resizes => .resizeStores resizes

/-- The item of an entry. -/
def item : (command : BatchCommand) → command.Entry → Item
  | .onStores command, id => command.item id
  | .startTimeRangeRetrieval, retrieval =>
      .act retrieval.store (.startTimeRange retrieval.range retrieval.priority)
  | .createStores, definition => .create definition
  | .resizeStores, resize => .act resize.id (.resize resize.size)

end BatchCommand

namespace Registry

theorem targets_of_ne_nil (registry : Registry) {stores : List StoreId}
    (nonempty : stores ≠ []) : registry.targets stores = stores := by
  simp [targets, nonempty]

/-- The list of all stores stands for itself, and so does the empty list. -/
theorem targets_ids (registry : Registry) :
    registry.targets registry.ids = registry.targets [] := by
  simp [targets]

end Registry

namespace BatchCommand

variable {command : BatchCommand} {entries : List command.Entry}

/-- The items of a nonempty batch are those of its entries, whatever stores there are. -/
theorem items_request (nonempty : entries ≠ []) (registry : Registry) :
    (command.request entries).items registry = entries.map command.item := by
  cases command with
  | onStores command =>
      have listed : registry.targets entries = entries := registry.targets_of_ne_nil nonempty
      exact (command.items_request registry entries).trans (by rw [listed]; rfl)
  | startTimeRangeRetrieval | createStores | resizeStores => rfl

theorem reporting_request (registry : Registry) :
    (command.request entries).reporting registry = .silent := by
  cases command with
  | onStores command => exact command.reporting_request registry entries
  | startTimeRangeRetrieval | createStores | resizeStores => rfl

end BatchCommand

/-! ## Items of a telecommand -/

/-- Telecommands that ask for a report. -/
def Request.asksForReport : Request → Bool
  | .reportStatus | .reportConfiguration | .reportContentSummary _ => true
  | _ => false

/-- What a telecommand asks for, item by item, given the stores there are. -/
inductive Request.Asks (registry : Registry) : Request → List Item → Prop
  /-- One item for each entry, in the order of the list. -/
  | each (command : BatchCommand) (entries : List command.Entry) (nonempty : entries ≠ []) :
      Asks registry (command.request entries) (entries.map command.item)
  /-- No stores are listed: one item for each store there is, in ascending order. -/
  | all (command : StoresCommand) (stores : List StoreId)
      (ascending : stores.Pairwise (· < ·))
      (complete : ∀ id, id ∈ stores ↔ registry.contains id = true) :
      Asks registry (command.request []) (stores.map command.item)
  /-- Nothing else is listed. -/
  | nothing (command : BatchCommand) (otherwise : ∀ onStores, command ≠ .onStores onStores) :
      Asks registry (command.request []) []
  | copy (order : CopyOrder) : Asks registry (.copyPackets order) [.copy order]
  | changeTypeToCircular (store : StoreId) :
      Asks registry (.changeTypeToCircular store) [.act store (.changeKind .circular)]
  | changeTypeToBounded (store : StoreId) :
      Asks registry (.changeTypeToBounded store) [.act store (.changeKind .bounded)]
  | changeVirtualChannel (store : StoreId) (channel : UInt8) :
      Asks registry (.changeVirtualChannel store channel)
        [.act store (.changeChannel channel)]
  | report (request : Request) (asks : request.asksForReport = true) :
      Asks registry request []

namespace StoresCommand

theorem asks_items (command : StoresCommand) (registry : Registry) (stores : List StoreId) :
    (command.request stores).Asks registry ((command.request stores).items registry) := by
  rw [command.items_request]
  by_cases none : stores = []
  · subst none
    exact .all command registry.ids registry.ids_ascending fun id => Registry.mem_ids_iff
  · rw [registry.targets_of_ne_nil none]
    exact .each (.onStores command) stores none

end StoresCommand

namespace BatchCommand

theorem asks_items (command : BatchCommand) (registry : Registry)
    (entries : List command.Entry) :
    (command.request entries).Asks registry ((command.request entries).items registry) := by
  by_cases none : entries = []
  · subst none
    cases command with
    | onStores command => exact command.asks_items registry []
    | startTimeRangeRetrieval => exact .nothing .startTimeRangeRetrieval (by simp)
    | createStores => exact .nothing .createStores (by simp)
    | resizeStores => exact .nothing .resizeStores (by simp)
  · rw [items_request none]
    exact .each command entries none

end BatchCommand

/-- Every telecommand has the items that it asks for. -/
theorem Request.asks_items (request : Request) (registry : Registry) :
    request.Asks registry (request.items registry) := by
  cases request with
  | enableStorage stores => exact StoresCommand.enableStorage.asks_items registry stores
  | disableStorage stores => exact StoresCommand.disableStorage.asks_items registry stores
  | deleteContent limit stores =>
      exact (StoresCommand.deleteContent limit).asks_items registry stores
  | changeOpenRetrievalStart start stores =>
      exact (StoresCommand.changeOpenRetrievalStart start).asks_items registry stores
  | resumeOpenRetrieval stores priority =>
      exact (StoresCommand.resumeOpenRetrieval priority).asks_items registry stores
  | suspendOpenRetrieval stores =>
      exact StoresCommand.suspendOpenRetrieval.asks_items registry stores
  | abortTimeRangeRetrieval stores =>
      exact StoresCommand.abortTimeRangeRetrieval.asks_items registry stores
  | deleteStores stores => exact StoresCommand.deleteStores.asks_items registry stores
  | startTimeRangeRetrieval retrievals =>
      exact BatchCommand.startTimeRangeRetrieval.asks_items registry retrievals
  | createStores definitions =>
      exact BatchCommand.createStores.asks_items registry definitions
  | resizeStores resizes => exact BatchCommand.resizeStores.asks_items registry resizes
  | copyPackets order => exact .copy order
  | changeTypeToCircular store => exact .changeTypeToCircular store
  | changeTypeToBounded store => exact .changeTypeToBounded store
  | changeVirtualChannel store channel => exact .changeVirtualChannel store channel
  | reportContentSummary stores => exact .report _ rfl
  | reportStatus => exact .report _ rfl
  | reportConfiguration => exact .report _ rfl

end OnboardStorage
