import OnboardStorage.Proofs.Locality
import OnboardStorage.Proofs.PacketStore.Copy

/-!
# Fields of a store and the items that set them

A store is its packets and eight fields beside them.  Each field has an initial value,
given by the creation of the store, and a few kinds of items that set it; an item that
sets a field sets it to a value that the item alone determines.  Everything else leaves
the field as it was.
-/

namespace OnboardStorage

/-- A field of a store, the packets left out. -/
inductive StoreField where
  | capacity
  | kind
  | virtualChannel
  | storageEnabled
  | openRetrieval
  | openRetrievalStart
  | timeRangeRetrieval
  | retrievalPriority
  deriving DecidableEq

namespace StoreField

/-- What a field holds. -/
def Value : StoreField → Type
  | .capacity => UInt32
  | .kind => StoreKind
  | .virtualChannel => UInt8
  | .storageEnabled => Bool
  | .openRetrieval => OpenRetrieval
  | .openRetrievalStart => TimeTag
  | .timeRangeRetrieval => Option TimeRange
  | .retrievalPriority => UInt16

/-- The field of a store. -/
def read (store : PacketStore) : (field : StoreField) → field.Value
  | .capacity => store.capacity
  | .kind => store.kind
  | .virtualChannel => store.virtualChannel
  | .storageEnabled => store.storageEnabled
  | .openRetrieval => store.openRetrieval
  | .openRetrievalStart => store.openRetrievalStart
  | .timeRangeRetrieval => store.timeRangeRetrieval
  | .retrievalPriority => store.retrievalPriority

/-- The field of a store that has just been created. -/
def initial (definition : StoreDefinition) : (field : StoreField) → field.Value
  | .capacity => definition.size
  | .kind => definition.kind
  | .virtualChannel => definition.virtualChannel
  | .storageEnabled => false
  | .openRetrieval => OpenRetrieval.suspended
  | .openRetrievalStart => (0 : UInt32)
  | .timeRangeRetrieval => none
  | .retrievalPriority => (0 : UInt16)

/-- What an action sets a field to, if it sets it.  A priority that is not given, or
that the platform does not heed, sets nothing. -/
def written (capabilities : Capabilities) :
    (field : StoreField) → Action → Option field.Value
  | .capacity, .resize size => some size
  | .kind, .changeKind changed => some changed
  | .virtualChannel, .changeChannel channel => some channel
  | .storageEnabled, .setStorage enabled => some enabled
  | .openRetrieval, .resumeOpen _ => some OpenRetrieval.inProgress
  | .openRetrieval, .suspendOpen => some OpenRetrieval.suspended
  | .openRetrievalStart, .moveOpenStart start => some start
  | .timeRangeRetrieval, .startTimeRange range _ => some (some range)
  | .timeRangeRetrieval, .abortTimeRange => some none
  | .retrievalPriority, .startTimeRange _ priority
  | .retrievalPriority, .resumeOpen priority =>
      if capabilities.prioritizedRetrieval then priority else none
  | _, _ => none

theorem heededPriority_eq (capabilities : Capabilities) (store : PacketStore)
    (priority : Option UInt16) :
    Action.heededPriority capabilities store priority =
      (if capabilities.prioritizedRetrieval then priority else none).getD
        store.retrievalPriority := by
  unfold Action.heededPriority
  cases capabilities.prioritizedRetrieval <;> rfl

/-- After an action each field holds what the action sets it to, or what it held. -/
theorem read_effect (config : Config) (store : PacketStore) (action : Action)
    (field : StoreField) :
    field.read (action.effect config store) =
      (field.written config.capabilities action).getD (field.read store) := by
  cases field with
  | retrievalPriority =>
      cases action with
      | startTimeRange range priority =>
          exact heededPriority_eq config.capabilities store priority
      | resumeOpen priority => exact heededPriority_eq config.capabilities store priority
      | _ => rfl
  | _ => cases action <;> rfl

theorem read_create (definition : StoreDefinition) (field : StoreField) :
    field.read
        (PacketStore.create definition.size definition.kind definition.virtualChannel) =
      field.initial definition := by
  cases field <;> rfl

/-- Packets that come and go leave the fields alone. -/
theorem read_content (store : PacketStore) (content : PacketQueue) (field : StoreField) :
    field.read { store with content := content } = field.read store := by
  cases field <;> rfl

theorem read_copyWindow (source destination : PacketStore) (window : Window)
    (field : StoreField) :
    field.read (source.copyWindow destination window).1 = field.read destination := by
  rw [PacketStore.copyWindow_settings, read_content]

theorem read_taken {store grown : PacketStore} {packet : Packet} {evicted : Nat}
    (taken : store.Takes packet grown evicted) (field : StoreField) :
    field.read grown = field.read store := by
  rw [taken.settings, read_content]

end StoreField

/-! ## The last item that sets a field -/

/-- What an item sets a field of the store named `id` to, if it sets it. -/
def Item.sets? (capabilities : Capabilities) (id : StoreId) (field : StoreField) :
    Item → Option field.Value
  | .act target action => if target = id then field.written capabilities action else none
  | _ => none

/-- An item sets no fields of stores that it does not name. -/
theorem Item.sets?_of_not_mem {capabilities : Capabilities} {id : StoreId} {item : Item}
    (other : id ∉ item.names) (field : StoreField) :
    item.sets? capabilities id field = none := by
  cases item with
  | act target action => exact if_neg (Ne.symm (List.ne_of_not_mem_cons other))
  | _ => rfl

namespace StoreField

/-- The value that the last of the items that set a field sets it to; the initial value
if none of them does. -/
def valueSince (capabilities : Capabilities) (id : StoreId) (definition : StoreDefinition)
    (since : List Item) (field : StoreField) : field.Value :=
  (since.filterMap (Item.sets? capabilities id field)).getLast?.getD
    (field.initial definition)

variable {capabilities : Capabilities} {id : StoreId} {definition : StoreDefinition}
  {since : List Item}

theorem valueSince_nil (field : StoreField) :
    field.valueSince capabilities id definition [] = field.initial definition :=
  rfl

theorem valueSince_concat (item : Item) (field : StoreField) :
    field.valueSince capabilities id definition (since ++ [item]) =
      (item.sets? capabilities id field).getD
        (field.valueSince capabilities id definition since) := by
  unfold valueSince
  rw [List.filterMap_append, List.getLast?_append]
  cases setting : item.sets? capabilities id field with
  | none => simp [setting]
  | some value => simp [setting]

end StoreField

end OnboardStorage
