import OnboardStorage.Proofs.Batch
import Mathlib.Data.List.Induction

/-!
# Batches of creations in closed form

Whether a definition of a batch is accepted depends on the definitions before it: they
may have taken its identifier, or the last room.  Nevertheless the outcome of a batch
has a closed form.  Some definitions are eligible in view of the stores there are before
the batch; of these, the first one of each identifier is a candidate, and the first
candidates are accepted, as many as there is room for.  A definition that is not
accepted takes neither an identifier nor room.

The state after each definition is the state before the batch with the accepted ones
among those so far added to it.  This is what one creation preserves, and everything
else is read off from it.
-/

namespace OnboardStorage

/-! ## The entries of a list in turn -/

/-- Each entry of a list with the entries before it. -/
def turns {α : Type} : List α → List (List α × α)
  | [] => []
  | first :: rest => ([], first) :: (turns rest).map fun turn => (first :: turn.1, turn.2)

theorem turns_concat {α : Type} (list : List α) (last : α) :
    turns (list ++ [last]) = turns list ++ [(list, last)] := by
  induction list with
  | nil => rfl
  | cons first rest ih => simp [turns, ih]

/-! ## Fresh stores -/

/-- A store has the settings of its definition, and nothing has happened to it: it holds
no packet, files none, and no retrieval is under way. -/
structure PacketStore.IsFresh (store : PacketStore) (definition : StoreDefinition) : Prop where
  capacity : store.capacity = definition.size
  kind : store.kind = definition.kind
  virtualChannel : store.virtualChannel = definition.virtualChannel
  packets : store.packets = []
  storedBytes : store.storedBytes = 0
  storageEnabled : store.storageEnabled = false
  openRetrieval : store.openRetrieval = .suspended
  openRetrievalStart : store.openRetrievalStart = 0
  timeRangeRetrieval : store.timeRangeRetrieval = none
  retrievalPriority : store.retrievalPriority = 0

/-- The store that a definition describes. -/
def StoreDefinition.store (definition : StoreDefinition) : PacketStore :=
  PacketStore.create definition.size definition.kind definition.virtualChannel

theorem StoreDefinition.isFresh_store (definition : StoreDefinition) :
    definition.store.IsFresh definition := by
  constructor
  all_goals rfl

namespace Service

/-! ## Which definitions are accepted -/

/-- A definition against which nothing stands but, possibly, the number of stores. -/
structure Eligible (service : Service) (definition : StoreDefinition) : Prop where
  absent : service.registry.get? definition.id = none
  lowest_le : service.config.virtualChannels.lowest ≤ definition.virtualChannel
  le_highest : definition.virtualChannel ≤ service.config.virtualChannels.highest
  positive : 0 < definition.size
  size_le : definition.size ≤ service.config.maxStoreBytes

/-- Whether a definition is eligible and none of the earlier ones that are eligible
has its identifier. -/
def IsCandidate (service : Service) (earlier : List StoreDefinition)
    (definition : StoreDefinition) : Prop :=
  service.Eligible definition ∧
    ∀ other ∈ earlier, service.Eligible other → other.id ≠ definition.id

instance (service : Service) (definition : StoreDefinition) :
    Decidable (service.Eligible definition) :=
  decidable_of_iff
    (service.registry.get? definition.id = none ∧
      service.config.virtualChannels.lowest ≤ definition.virtualChannel ∧
      definition.virtualChannel ≤ service.config.virtualChannels.highest ∧
      0 < definition.size ∧ definition.size ≤ service.config.maxStoreBytes)
    ⟨fun ⟨absent, lowest, highest, positive, size⟩ => ⟨absent, lowest, highest, positive, size⟩,
      fun ⟨absent, lowest, highest, positive, size⟩ => ⟨absent, lowest, highest, positive, size⟩⟩

instance (service : Service) (earlier : List StoreDefinition) (definition : StoreDefinition) :
    Decidable (service.IsCandidate earlier definition) :=
  inferInstanceAs (Decidable (_ ∧ _))

/-- The first eligible definition of each identifier, in the order of the list. -/
def candidates (service : Service) (definitions : List StoreDefinition) :
    List StoreDefinition :=
  ((turns definitions).filter fun turn => service.IsCandidate turn.1 turn.2).map Prod.snd

/-- Number of stores that can still be created. -/
def room (service : Service) : Nat :=
  service.config.maxStores.toNat - service.registry.size

/-- The definitions that a batch makes stores of. -/
def acceptedOf (service : Service) (definitions : List StoreDefinition) :
    List StoreDefinition :=
  (service.candidates definitions).take service.room

/-- The answer to a definition of a batch behind earlier ones: the first cause against
it, in terms of the stores before the batch and the definitions accepted so far. -/
def creationAnswer (service : Service) (earlier : List StoreDefinition)
    (definition : StoreDefinition) : Option Rejection :=
  if service.registry.contains definition.id = true ∨
      definition.id ∈ (service.acceptedOf earlier).map StoreDefinition.id then
    some .storeExists
  else if service.config.maxStores.toNat ≤
      service.registry.size + (service.acceptedOf earlier).length then
    some .registryFull
  else if definition.virtualChannel < service.config.virtualChannels.lowest ∨
      service.config.virtualChannels.highest < definition.virtualChannel then
    some .channelOutOfRange
  else if definition.size = 0 ∨ service.config.maxStoreBytes < definition.size then
    some .sizeUnsupported
  else none

/-- The service with stores made of the accepted definitions of a list. -/
def afterCreating (service : Service) (definitions : List StoreDefinition) : Service :=
  { service with
    registry := { service.registry with
      stores := service.registry.stores.insertAll
        ((service.acceptedOf definitions).map fun definition =>
          (definition.id, definition.store)) } }

variable {service : Service} {earlier : List StoreDefinition} {definition : StoreDefinition}

/-! ## One more definition -/

theorem candidates_concat (service : Service) (earlier : List StoreDefinition)
    (definition : StoreDefinition) :
    service.candidates (earlier ++ [definition]) = service.candidates earlier ++
      if service.IsCandidate earlier definition then [definition] else [] := by
  rw [candidates, turns_concat, List.filter_append, List.map_append, ← candidates]
  by_cases candidate : service.IsCandidate earlier definition
  · rw [if_pos candidate, List.filter_cons_of_pos (by simpa using candidate)]
    rfl
  · rw [if_neg candidate, List.filter_cons_of_neg (by simpa using candidate)]
    rfl

/-- Candidates carry the identifiers of the eligible definitions, each of them once. -/
theorem mem_map_id_candidates_iff {definitions : List StoreDefinition} {id : StoreId} :
    id ∈ (service.candidates definitions).map StoreDefinition.id ↔
      ∃ definition ∈ definitions, service.Eligible definition ∧ definition.id = id := by
  induction definitions using List.reverseRecOn with
  | nil => simp [candidates, turns]
  | append_singleton earlier definition ih =>
      rw [candidates_concat, List.map_append, List.mem_append, ih]
      constructor
      · rintro (⟨other, listed, eligible, named⟩ | isLast)
        · exact ⟨other, List.mem_append_left _ listed, eligible, named⟩
        · by_cases candidate : service.IsCandidate earlier definition
          · rw [if_pos candidate, List.map_singleton, List.mem_singleton] at isLast
            exact ⟨definition, by simp, candidate.1, isLast.symm⟩
          · rw [if_neg candidate] at isLast
            cases isLast
      · rintro ⟨other, listed, eligible, rfl⟩
        by_cases before : ∃ former ∈ earlier, service.Eligible former ∧ former.id = other.id
        · exact .inl before
        · rcases List.mem_append.mp listed with isEarlier | isLast
          · exact absurd ⟨other, isEarlier, eligible, rfl⟩ before
          · rw [List.mem_singleton] at isLast
            subst isLast
            have candidate : service.IsCandidate earlier other :=
              ⟨eligible, fun former member eligibleFormer same =>
                before ⟨former, member, eligibleFormer, same⟩⟩
            rw [if_pos candidate]
            exact .inr (by simp)

theorem isCandidate_iff :
    service.IsCandidate earlier definition ↔ service.Eligible definition ∧
      definition.id ∉ (service.candidates earlier).map StoreDefinition.id := by
  rw [mem_map_id_candidates_iff, IsCandidate]
  constructor
  · rintro ⟨eligible, unnamed⟩
    refine ⟨eligible, ?_⟩
    rintro ⟨other, listed, eligibleOther, same⟩
    exact unnamed other listed eligibleOther same
  · rintro ⟨eligible, unnamed⟩
    exact ⟨eligible, fun other listed eligibleOther same =>
      unnamed ⟨other, listed, eligibleOther, same⟩⟩

theorem nodup_map_id_candidates (service : Service) (definitions : List StoreDefinition) :
    ((service.candidates definitions).map StoreDefinition.id).Nodup := by
  induction definitions using List.reverseRecOn with
  | nil => exact List.nodup_nil
  | append_singleton earlier definition ih =>
      rw [candidates_concat]
      by_cases candidate : service.IsCandidate earlier definition
      · rw [if_pos candidate, List.map_append, List.map_singleton]
        rw [List.nodup_append]
        refine ⟨ih, List.pairwise_singleton _ _, ?_⟩
        rintro id listed _ isLast rfl
        rw [List.mem_singleton.mp isLast] at listed
        exact (isCandidate_iff.mp candidate).2 listed
      · rw [if_neg candidate, List.append_nil]
        exact ih

theorem nodup_map_id_acceptedOf (service : Service) (definitions : List StoreDefinition) :
    ((service.acceptedOf definitions).map StoreDefinition.id).Nodup :=
  (service.nodup_map_id_candidates definitions).sublist
    ((List.take_sublist _ _).map _)

theorem eligible_of_mem_acceptedOf {definitions : List StoreDefinition}
    (member : definition ∈ service.acceptedOf definitions) : service.Eligible definition := by
  rcases List.mem_map.mp (List.mem_of_mem_take member) with ⟨turn, listed, rfl⟩
  exact (of_decide_eq_true (List.mem_filter.mp listed).2).1

theorem creationAnswer_eq_none_iff :
    service.creationAnswer earlier definition = none ↔
      service.Eligible definition ∧
      definition.id ∉ (service.acceptedOf earlier).map StoreDefinition.id ∧
      (service.acceptedOf earlier).length < service.room := by
  have room_iff : ¬ service.config.maxStores.toNat ≤
      service.registry.size + (service.acceptedOf earlier).length ↔
        (service.acceptedOf earlier).length < service.room := by
    rw [room]
    omega
  rw [creationAnswer, refusing_eq_none_iff, refusing_eq_none_iff, refusing_eq_none_iff,
    refusing_eq_none_iff, room_iff, not_or, not_or, not_or, UInt8.not_lt, UInt8.not_lt,
    UInt32.not_lt]
  constructor
  · rintro ⟨⟨absent, unnamed⟩, room, ⟨lowest_le, le_highest⟩, ⟨nonzero, size_le⟩, -⟩
    rw [Registry.contains, Option.not_isSome_iff_eq_none] at absent
    have positive := UInt32.pos_iff_ne_zero.mpr nonzero
    exact ⟨⟨absent, lowest_le, le_highest, positive, size_le⟩, unnamed, room⟩
  · rintro ⟨eligible, unnamed, room⟩
    have absent : ¬ service.registry.contains definition.id = true := by
      rw [Registry.contains, eligible.absent]
      decide
    exact ⟨⟨absent, unnamed⟩, room, ⟨eligible.lowest_le, eligible.le_highest⟩,
      ⟨UInt32.pos_iff_ne_zero.mp eligible.positive, eligible.size_le⟩, rfl⟩

/-- While there is room, every candidate is accepted. -/
theorem acceptedOf_eq_candidates
    (below : (service.acceptedOf earlier).length < service.room) :
    service.acceptedOf earlier = service.candidates earlier := by
  rw [acceptedOf, List.length_take] at below
  exact List.take_of_length_le (by omega)

/-- A definition is added to the accepted ones exactly if nothing is answered to it. -/
theorem acceptedOf_concat (service : Service) (earlier : List StoreDefinition)
    (definition : StoreDefinition) :
    service.acceptedOf (earlier ++ [definition]) = service.acceptedOf earlier ++
      if service.creationAnswer earlier definition = none then [definition] else [] := by
  by_cases below : (service.acceptedOf earlier).length < service.room
  · have all := acceptedOf_eq_candidates below
    have agree : service.IsCandidate earlier definition ↔
        service.creationAnswer earlier definition = none := by
      rw [creationAnswer_eq_none_iff, isCandidate_iff, all]
      exact ⟨fun ⟨eligible, unnamed⟩ => ⟨eligible, unnamed, all ▸ below⟩,
        fun ⟨eligible, unnamed, _⟩ => ⟨eligible, unnamed⟩⟩
    rw [all] at below
    rw [all, acceptedOf, candidates_concat, if_congr agree rfl rfl]
    apply List.take_of_length_le
    split <;> simp only [List.length_append, List.length_singleton, List.length_nil] <;> omega
  · have turnedDown : ¬ service.creationAnswer earlier definition = none := by
      intro free
      exact below (creationAnswer_eq_none_iff.mp free).2.2
    have full : service.room ≤ (service.candidates earlier).length := by
      rw [acceptedOf, List.length_take] at below
      omega
    rw [if_neg turnedDown, List.append_nil, acceptedOf, candidates_concat,
      List.take_append_of_le_length full, ← acceptedOf]

/-! ## The state behind a batch -/

theorem map_fst_entries (definitions : List StoreDefinition) :
    (definitions.map fun definition => (definition.id, definition.store)).map Prod.fst =
      definitions.map StoreDefinition.id := by
  rw [List.map_map]
  rfl

theorem get?_afterCreating_of_mem {definitions : List StoreDefinition}
    (member : definition ∈ service.acceptedOf definitions) :
    (service.afterCreating definitions).registry.get? definition.id =
      some definition.store := by
  have distinct := service.nodup_map_id_acceptedOf definitions
  rw [← map_fst_entries] at distinct
  have listed := List.mem_map_of_mem (f := fun definition : StoreDefinition =>
    (definition.id, definition.store)) member
  rw [Registry.get?, afterCreating, OrderedMap.get?_insertAll distinct,
    (lookup_eq_some_iff_of_nodup distinct).mpr listed, Option.some_or]

theorem get?_afterCreating_of_notMem {definitions : List StoreDefinition} {id : StoreId}
    (unnamed : id ∉ (service.acceptedOf definitions).map StoreDefinition.id) :
    (service.afterCreating definitions).registry.get? id = service.registry.get? id := by
  have distinct := service.nodup_map_id_acceptedOf definitions
  rw [← map_fst_entries] at distinct unnamed
  rw [Registry.get?, afterCreating, OrderedMap.get?_insertAll distinct,
    lookup_eq_none_iff_notMem.mpr unnamed, Option.none_or, Registry.get?]

theorem contains_afterCreating_iff {definitions : List StoreDefinition} {id : StoreId} :
    (service.afterCreating definitions).registry.contains id = true ↔
      service.registry.contains id = true ∨
        id ∈ (service.acceptedOf definitions).map StoreDefinition.id := by
  by_cases named : id ∈ (service.acceptedOf definitions).map StoreDefinition.id
  · rcases List.mem_map.mp named with ⟨definition, member, rfl⟩
    rw [Registry.contains, get?_afterCreating_of_mem member]
    exact iff_of_true rfl (.inr named)
  · rw [Registry.contains, get?_afterCreating_of_notMem named, ← Registry.contains]
    exact ⟨.inl, fun either => either.resolve_right named⟩

theorem size_afterCreating (service : Service) (definitions : List StoreDefinition) :
    (service.afterCreating definitions).registry.size =
      service.registry.size + (service.acceptedOf definitions).length := by
  have distinct := service.nodup_map_id_acceptedOf definitions
  rw [← map_fst_entries] at distinct
  rw [Registry.size, afterCreating,
    OrderedMap.size_insertAll_of_forall_get?_eq_none distinct, List.length_map]
  · rfl
  · intro entry listed
    rcases List.mem_map.mp listed with ⟨definition, member, rfl⟩
    exact (eligible_of_mem_acceptedOf member).absent

/-- An accepted definition adds one store to the others. -/
theorem afterCreating_concat_of_accepted
    (free : service.creationAnswer earlier definition = none) :
    service.afterCreating (earlier ++ [definition]) =
      { service.afterCreating earlier with
        registry := { (service.afterCreating earlier).registry with
          stores := (service.afterCreating earlier).registry.stores.insert definition.id
            definition.store } } := by
  simp only [afterCreating, acceptedOf_concat, if_pos free, List.map_append, List.map_cons,
    List.map_nil, OrderedMap.insertAll_concat]

/-- A definition that is turned down leaves everything as it is. -/
theorem afterCreating_concat_of_turnedDown {cause : Rejection}
    (answered : service.creationAnswer earlier definition = some cause) :
    service.afterCreating (earlier ++ [definition]) = service.afterCreating earlier := by
  have turnedDown : ¬ service.creationAnswer earlier definition = none := by
    rw [answered]
    exact Option.some_ne_none cause
  simp only [afterCreating, acceptedOf_concat, if_neg turnedDown, List.append_nil]

/-! ## One creation -/

/-- What the service checks at the turn of a definition comes to the closed form. -/
theorem creationObstacle?_afterCreating
    (limit_eq : service.registry.limit = service.config.maxStores.toNat)
    (earlier : List StoreDefinition) (definition : StoreDefinition) :
    (service.afterCreating earlier).creationObstacle? definition =
      service.creationAnswer earlier definition := by
  have full_iff : (service.afterCreating earlier).registry.isFull = true ↔
      service.config.maxStores.toNat ≤
        service.registry.size + (service.acceptedOf earlier).length := by
    rw [Registry.isFull, decide_eq_true_iff, size_afterCreating, ← limit_eq]
    rfl
  have channel_iff : (!service.config.virtualChannels.contains definition.virtualChannel) =
        true ↔
      definition.virtualChannel < service.config.virtualChannels.lowest ∨
        service.config.virtualChannels.highest < definition.virtualChannel := by
    rw [VirtualChannels.outside_iff, Bool.not_eq_true', Bool.not_eq_true]
  have size_iff : (!service.config.acceptsStoreSize definition.size) = true ↔
      definition.size = 0 ∨ service.config.maxStoreBytes < definition.size := by
    rw [Config.unacceptable_size_iff, Bool.not_eq_true', Bool.not_eq_true]
  exact if_congr contains_afterCreating_iff rfl (if_congr full_iff rfl
    (if_congr channel_iff rfl (if_congr size_iff rfl rfl)))

/-- The failure with which a definition is turned down. -/
def creationFailure (definition : StoreDefinition) (cause : Rejection) : Failure :=
  ⟨.createStores, some definition.id, cause⟩

/-- What is logged about a definition. -/
def creationNotice (definition : StoreDefinition) : Option Rejection → Notice
  | none => .created definition
  | some cause => .rejected .createStores definition.id cause

/-- The output about a definition. -/
def creationEmission (definition : StoreDefinition) (answer : Option Rejection) : Emission :=
  ⟨[], (answer.map (creationFailure definition)).toList, [], [creationNotice definition answer]⟩

/-- One creation preserves the closed form of the state. -/
theorem create_afterCreating
    (limit_eq : service.registry.limit = service.config.maxStores.toNat)
    (earlier : List StoreDefinition) (definition : StoreDefinition) :
    (service.afterCreating earlier).create definition =
      (service.afterCreating (earlier ++ [definition]),
        creationEmission definition (service.creationAnswer earlier definition)) := by
  have checked := creationObstacle?_afterCreating limit_eq earlier definition
  cases answered : service.creationAnswer earlier definition with
  | none =>
      rw [answered] at checked
      rw [create_eq_of_free checked, afterCreating_concat_of_accepted answered]
      rfl
  | some cause =>
      rw [answered] at checked
      rw [afterCreating_concat_of_turnedDown answered]
      simp only [create, checked]
      rfl

/-! ## A batch -/

/-- The failures of a batch, in the order of its list. -/
def creationFailures (service : Service) (definitions : List StoreDefinition) :
    List Failure :=
  (turns definitions).filterMap fun turn =>
    (service.creationAnswer turn.1 turn.2).map (creationFailure turn.2)

/-- What is logged about a batch, in the order of its list. -/
def creationNotices (service : Service) (definitions : List StoreDefinition) :
    List Notice :=
  (turns definitions).map fun turn =>
    creationNotice turn.2 (service.creationAnswer turn.1 turn.2)

theorem creationFailures_concat (service : Service) (earlier : List StoreDefinition)
    (definition : StoreDefinition) :
    service.creationFailures (earlier ++ [definition]) =
      service.creationFailures earlier ++
        ((service.creationAnswer earlier definition).map
          (creationFailure definition)).toList := by
  rw [creationFailures, turns_concat, List.filterMap_append, ← creationFailures]
  cases answered : service.creationAnswer earlier definition <;> simp [answered]

theorem creationNotices_concat (service : Service) (earlier : List StoreDefinition)
    (definition : StoreDefinition) :
    service.creationNotices (earlier ++ [definition]) =
      service.creationNotices earlier ++
        [creationNotice definition (service.creationAnswer earlier definition)] := by
  rw [creationNotices, turns_concat, List.map_append, ← creationNotices]
  rfl

theorem afterCreating_nil (service : Service) : service.afterCreating [] = service := by
  have none_accepted : service.acceptedOf [] = [] := List.take_nil
  rw [afterCreating, none_accepted]
  rfl

/-- A batch leads to the closed form of the state and of the output. -/
theorem performEach_creations
    (limit_eq : service.registry.limit = service.config.maxStores.toNat)
    (definitions : List StoreDefinition) :
    service.performEach (definitions.map .create) =
      (service.afterCreating definitions,
        ⟨[], service.creationFailures definitions, [], service.creationNotices definitions⟩) := by
  induction definitions using List.reverseRecOn with
  | nil => rw [afterCreating_nil]; rfl
  | append_singleton earlier definition ih =>
      rw [List.map_append, performEach_append, ih, creationFailures_concat,
        creationNotices_concat]
      simp only [List.map_cons, List.map_nil, performEach_cons, performEach_nil, perform,
        create_afterCreating limit_eq, Emission.append_silent]
      rfl

/-- The accepted definitions are those to which nothing is answered. -/
theorem acceptedOf_eq_filter_turns (service : Service) (definitions : List StoreDefinition) :
    service.acceptedOf definitions =
      ((turns definitions).filter fun turn =>
        service.creationAnswer turn.1 turn.2 = none).map Prod.snd := by
  induction definitions using List.reverseRecOn with
  | nil => exact List.take_nil
  | append_singleton earlier definition ih =>
      rw [acceptedOf_concat, turns_concat, List.filter_append, List.map_append, ← ih]
      by_cases free : service.creationAnswer earlier definition = none
      · rw [if_pos free, List.filter_cons_of_pos (by simpa using free)]
        rfl
      · rw [if_neg free, List.filter_cons_of_neg (by simpa using free)]
        rfl

/-- The outcome of a batch of creations, in terms of the state before it. -/
structure CreatesInClosedForm (service : Service) (definitions : List StoreDefinition) :
    Prop where
  /-- Nothing but stores is changed. -/
  frame : (service.execute (.createStores definitions)).1 =
    { service with
      registry := { service.registry with
        stores := (service.execute (.createStores definitions)).1.registry.stores } }
  untouched : ∀ id store, service.registry.get? id = some store →
    (service.execute (.createStores definitions)).1.registry.get? id = some store
  created : ∀ definition ∈ service.acceptedOf definitions, ∃ store,
    (service.execute (.createStores definitions)).1.registry.get? definition.id =
      some store ∧
    store = PacketStore.create definition.size definition.kind definition.virtualChannel ∧
    store.IsFresh definition
  /-- No other store comes into being. -/
  others : ∀ id, id ∉ (service.acceptedOf definitions).map StoreDefinition.id →
    (service.execute (.createStores definitions)).1.registry.get? id =
      service.registry.get? id
  /-- The definitions that are not accepted are those that fail. -/
  acceptedOf_eq : service.acceptedOf definitions =
    ((turns definitions).filter fun turn =>
      service.creationAnswer turn.1 turn.2 = none).map Prod.snd
  failures : (service.execute (.createStores definitions)).2.failures =
    (turns definitions).filterMap fun turn =>
      (service.creationAnswer turn.1 turn.2).map fun cause =>
        ⟨.createStores, some turn.2.id, cause⟩
  notices : (service.execute (.createStores definitions)).2.notices =
    .executing .createStores ::
      (turns definitions).map fun turn =>
        creationNotice turn.2 (service.creationAnswer turn.1 turn.2)
  reports : (service.execute (.createStores definitions)).2.reports = []
  internalErrors : (service.execute (.createStores definitions)).2.internalErrors = []

theorem execute_createStores (service : Service) (definitions : List StoreDefinition) :
    service.execute (.createStores definitions) =
      ((service.performEach (definitions.map .create)).1,
        .ofNotices [.executing .createStores] ++
          (service.performEach (definitions.map .create)).2) := by
  simp only [execute, Request.items, Request.itemsOn, Request.reporting, Emission.append_silent]
  rfl

theorem state_execute_createStores
    (limit_eq : service.registry.limit = service.config.maxStores.toNat)
    (definitions : List StoreDefinition) :
    (service.execute (.createStores definitions)).1 = service.afterCreating definitions := by
  rw [execute_createStores, performEach_creations limit_eq]

theorem createsInClosedForm
    (limit_eq : service.registry.limit = service.config.maxStores.toNat)
    (definitions : List StoreDefinition) : service.CreatesInClosedForm definitions := by
  have state_eq := state_execute_createStores limit_eq definitions
  constructor
  case frame => rw [state_eq]; rfl
  case untouched =>
    intro id store found
    rw [state_eq, get?_afterCreating_of_notMem, found]
    intro named
    rcases List.mem_map.mp named with ⟨definition, member, rfl⟩
    rw [(eligible_of_mem_acceptedOf member).absent] at found
    cases found
  case created =>
    intro definition member
    rw [state_eq]
    exact ⟨_, get?_afterCreating_of_mem member, rfl, definition.isFresh_store⟩
  case others =>
    intro id unnamed
    rw [state_eq]
    exact get?_afterCreating_of_notMem unnamed
  case acceptedOf_eq => exact service.acceptedOf_eq_filter_turns definitions
  all_goals
    rw [execute_createStores, performEach_creations limit_eq]
    rfl

/-- At every turn of a batch the service finds what the closed form says; and if that
is nothing, the registry adds the store, and the platform has a place for it. -/
theorem exists_create_eq_ok
    (limit_eq : service.registry.limit = service.config.maxStores.toNat)
    (ceiling : service.registry.limit ≤ Limits.stores)
    (earlier : List StoreDefinition) (definition : StoreDefinition) :
    (service.execute (.createStores earlier)).1.creationObstacle? definition =
        service.creationAnswer earlier definition ∧
      (service.creationAnswer earlier definition = none →
        (∃ extended, (service.execute (.createStores earlier)).1.registry.create definition.id
          definition.store = .ok extended) ∧
        (service.execute (.createStores earlier)).1.registry.size < Limits.stores) := by
  rw [state_execute_createStores limit_eq]
  have checked := creationObstacle?_afterCreating limit_eq earlier definition
  refine ⟨checked, ?_⟩
  intro free
  rcases creationObstacle?_eq_none_iff.mp (checked.trans free) with ⟨absent, room, -⟩
  exact ⟨⟨_, Registry.create_eq_ok_iff.mpr ⟨absent, room, rfl⟩⟩, Nat.lt_of_lt_of_le room ceiling⟩

/-- In every state that a run leads to, a batch of creations accepts the first
definitions that are candidates, as many as there is room for, and turns each of the
others down with the first cause at its turn, in the order of the list.  Accepted
definitions become fresh stores, and all other stores stay as they are.  What the
service accepts, the registry never refuses, and never for want of a place. -/
theorem creation_batch_has_closed_form {config : Config} (valid : config.check = .ok ())
    (clock : Clock) :
    ∃ fresh notices, start config clock = .ok (fresh, notices) ∧
      ∀ operations : List Operation,
        let service := (fresh.run operations).1
        service.config = config ∧
        (∀ definitions, service.acceptedOf definitions =
          (service.candidates definitions).take
            (config.maxStores.toNat - service.registry.size)) ∧
        (∀ definitions, service.CreatesInClosedForm definitions) ∧
        ∀ earlier definition,
          let turn := (service.execute (.createStores earlier)).1
          turn.creationObstacle? definition = service.creationAnswer earlier definition ∧
          (service.creationAnswer earlier definition = none →
            (∃ extended, turn.registry.create definition.id definition.store =
              .ok extended) ∧ turn.registry.size < Limits.stores) := by
  rcases exists_start_eq_ok valid clock with ⟨router, started⟩
  refine ⟨_, _, started, fun operations => ?_⟩
  have config_eq := config_run
    (⟨config, Registry.empty config.maxStores.toNat, router, clock⟩ : Service) operations
  have sound := (sound_of_start_eq_ok started).run operations
  generalize (run _ operations).1 = service at config_eq sound
  have limit_eq := sound.limit_eq_maxStores (config_eq ▸ valid)
  have ceiling : service.registry.limit ≤ Limits.stores := by
    rw [sound.limit_eq]
    exact Nat.min_le_right _ _
  refine ⟨config_eq, ?_, createsInClosedForm limit_eq, exists_create_eq_ok limit_eq ceiling⟩
  intro definitions
  rw [acceptedOf, room, config_eq]

/-- On a platform with one store and room for three more, definitions that are turned
down for their channel or size take neither an identifier nor room. -/
theorem rejected_definitions_take_no_room :
    let log : StoreId := ⟨"log", by decide, by decide⟩
    let hk : StoreId := ⟨"hk", by decide, by decide⟩
    let events : StoreId := ⟨"events", by decide, by decide⟩
    let dumps : StoreId := ⟨"dumps", by decide, by decide⟩
    let late : StoreId := ⟨"late", by decide, by decide⟩
    let before : List Operation := [.execute (.createStores [⟨log, 30, .circular, 1⟩])]
    let batch : List StoreDefinition :=
      [⟨log, 10, .bounded, 1⟩, ⟨hk, 0, .bounded, 1⟩, ⟨events, 10, .bounded, 99⟩,
        ⟨hk, 20, .bounded, 1⟩, ⟨hk, 25, .circular, 1⟩, ⟨events, 40, .circular, 2⟩,
        ⟨dumps, 50, .bounded, 1⟩, ⟨late, 60, .bounded, 1⟩, ⟨hk, 0, .bounded, 1⟩]
    Config.standard.check = .ok () ∧
    ∃ fresh notices, start Config.standard ⟨7⟩ = .ok (fresh, notices) ∧
      (fresh.run before).1.acceptedOf batch =
        [⟨hk, 20, .bounded, 1⟩, ⟨events, 40, .circular, 2⟩, ⟨dumps, 50, .bounded, 1⟩] ∧
      ((fresh.run before).1.execute (.createStores batch)).2.failures =
        [⟨.createStores, some log, .storeExists⟩, ⟨.createStores, some hk, .sizeUnsupported⟩,
          ⟨.createStores, some events, .channelOutOfRange⟩,
          ⟨.createStores, some hk, .storeExists⟩, ⟨.createStores, some late, .registryFull⟩,
          ⟨.createStores, some hk, .storeExists⟩] ∧
      ∃ store, ((fresh.run before).1.execute (.createStores batch)).1.registry.get? events =
        some store ∧
        store = PacketStore.create 40 .circular 2 ∧
        store.IsFresh ⟨events, 40, .circular, 2⟩ := by
  intro log hk events dumps late before batch
  rcases creation_batch_has_closed_form (rfl : Config.standard.check = .ok ()) ⟨7⟩ with
    ⟨fresh, notices, started, closed⟩
  have fresh_eq : start Config.standard ⟨7⟩ =
      .ok (⟨Config.standard, Registry.empty 4, Router.empty, ⟨7⟩⟩, []) := rfl
  rw [fresh_eq] at started
  cases started
  rcases closed before with ⟨-, -, outcome, -⟩
  have accepted_eq : (run ⟨Config.standard, Registry.empty 4, Router.empty, ⟨7⟩⟩
      before).1.acceptedOf batch =
        [⟨hk, 20, .bounded, 1⟩, ⟨events, 40, .circular, 2⟩, ⟨dumps, 50, .bounded, 1⟩] := by
    decide +kernel
  refine ⟨rfl, _, _, fresh_eq, accepted_eq, (outcome batch).failures.trans ?_, ?_⟩
  · decide +kernel
  · apply (outcome batch).created ⟨events, 40, .circular, 2⟩
    rw [accepted_eq]
    exact List.mem_cons_of_mem _ List.mem_cons_self

end Service

end OnboardStorage
