import OnboardStorage.Proofs.Idempotence.Store
import OnboardStorage.Proofs.Locality

/-!
# A telecommand that is repeated changes nothing

A telecommand that arrives a second time leaves the service as the first arrival left
it.  Its items are absorbed one by one: each finds its work done or meets what turned it
down before, and the other items of the telecommand do not alter that.

Changes of capacity are the exception.  In a batch that names a store twice the earlier
change is made anew by the repetition and undone again, so that an item need not be
absorbed although the batch as a whole is: all that lasts of the changes of one store is
the last of them and what was evicted.
-/

namespace OnboardStorage

/-! ## Items of one telecommand -/

/-- A change of capacity as an item. -/
def StoreResize.item (resize : StoreResize) : Item :=
  .act resize.id (.resize resize.size)

/-- Two items of one telecommand, changes of capacity left out. -/
inductive Item.Fellows : Item → Item → Prop
  | actions (first second : StoreId) (action : Action) :
      Fellows (.act first action) (.act second action)
  | starts (first second : RetrievalStart) :
      Fellows (.act first.store (.startTimeRange first.range first.priority))
        (.act second.store (.startTimeRange second.range second.priority))
  | creations (first second : StoreDefinition) :
      Fellows (.create first) (.create second)
  | deletions (first second : StoreId) : Fellows (.delete first) (.delete second)
  | copies (order : CopyOrder) : Fellows (.copy order) (.copy order)

namespace Request

variable {request : Request}

/-- The items of a telecommand are fellows, unless it changes capacities. -/
theorem fellows_of_mem_items (noResize : ∀ resizes, request ≠ .resizeStores resizes)
    {registry : Registry} :
    ∀ item ∈ request.items registry, ∀ other ∈ request.items registry,
      item.Fellows other := by
  intro item member other present
  cases request with
  | enableStorage | disableStorage | deleteContent | changeOpenRetrievalStart
  | resumeOpenRetrieval | suspendOpenRetrieval | abortTimeRangeRetrieval =>
      rcases List.mem_map.mp member with ⟨first, -, rfl⟩
      rcases List.mem_map.mp present with ⟨second, -, rfl⟩
      exact .actions first second _
  | startTimeRangeRetrieval =>
      rcases List.mem_map.mp member with ⟨first, -, rfl⟩
      rcases List.mem_map.mp present with ⟨second, -, rfl⟩
      exact .starts first second
  | createStores =>
      rcases List.mem_map.mp member with ⟨first, -, rfl⟩
      rcases List.mem_map.mp present with ⟨second, -, rfl⟩
      exact .creations first second
  | deleteStores =>
      rcases List.mem_map.mp member with ⟨first, -, rfl⟩
      rcases List.mem_map.mp present with ⟨second, -, rfl⟩
      exact .deletions first second
  | copyPackets order =>
      cases List.mem_singleton.mp member
      cases List.mem_singleton.mp present
      exact .copies order
  | changeTypeToCircular | changeTypeToBounded | changeVirtualChannel =>
      cases List.mem_singleton.mp member
      cases List.mem_singleton.mp present
      exact .actions _ _ _
  | resizeStores resizes => exact absurd rfl (noResize resizes)
  | reportContentSummary | reportStatus | reportConfiguration => cases member

/-- With fewer stores, a telecommand has no other items. -/
theorem items_subset {before after : Registry} (fewer : after.ids ⊆ before.ids) :
    request.items after ⊆ request.items before := by
  have targets_subset (stores : List StoreId) :
      after.targets stores ⊆ before.targets stores := by
    cases stores with
    | nil => exact fewer
    | cons id rest => exact List.Subset.refl _
  cases request with
  | enableStorage | disableStorage | deleteContent | changeOpenRetrievalStart
  | resumeOpenRetrieval | suspendOpenRetrieval | abortTimeRangeRetrieval | deleteStores =>
      exact List.map_subset _ (targets_subset _)
  | _ => exact List.Subset.refl _

end Request

namespace Service

variable {service : Service} {item : Item}

/-! ## Items that change nothing -/

/-- The item changes nothing. -/
def Absorbs (service : Service) (item : Item) : Prop :=
  (service.perform item).1 = service

theorem performEach_of_absorbs {items : List Item}
    (absorbed : ∀ item ∈ items, service.Absorbs item) :
    (service.performEach items).1 = service := by
  induction items with
  | nil => rfl
  | cons item rest ih =>
      rcases List.forall_mem_cons.mp absorbed with ⟨first, others⟩
      rw [performEach_cons, first]
      exact ih others

/-- Acting on a store is an attempt at it, whether or not the store exists. -/
theorem perform_act (service : Service) (id : StoreId) (action : Action) :
    (service.perform (.act id action)).1 =
      { service with
        registry := service.registry.modify id (action.attempt service.config) } := by
  have registry_eq : (service.perform (.act id action)).1.registry =
      service.registry.modify id (action.attempt service.config) := by
    simp only [perform, act]
    cases found : service.registry.get? id with
    | none =>
        apply Eq.symm
        apply Registry.modify_eq_self
        rw [found]
        rintro held ⟨⟩
    | some store =>
        cases free : action.obstacle? service.config store with
        | some cause =>
            simp only [free]
            apply Eq.symm
            apply Registry.modify_eq_self
            rw [found]
            rintro held ⟨⟩
            exact Action.attempt_of_obstacle free
        | none =>
            simp only [free]
            apply Registry.modify_congr
            rw [found]
            rintro held ⟨⟩
            exact (Action.attempt_of_free free).symm
  rw [eq_of_frame (service.perform_frame (.act id action)), registry_eq]

theorem absorbs_act_iff {id : StoreId} {action : Action} :
    service.Absorbs (.act id action) ↔
      ∀ store, service.registry.get? id = some store →
        action.attempt service.config store = store := by
  rw [Absorbs, perform_act]
  constructor
  · intro unchanged store found
    have registry_eq := congrArg (fun next : Service => next.registry.get? id) unchanged
    simp only [Registry.get?_modify, if_true, found, Option.map_some] at registry_eq
    exact Option.some.inj registry_eq
  · intro fixed
    rw [Registry.modify_eq_self fixed]

theorem absorbs_create_iff {definition : StoreDefinition} :
    service.Absorbs (.create definition) ↔
      service.creationObstacle? definition ≠ none := by
  constructor
  · intro unchanged free
    have absent := (creationObstacle?_eq_none_iff.mp free).1
    have found := congrArg (fun next : Service => next.registry.get? definition.id) unchanged
    simp only [perform, create_eq_of_free free, Registry.get?_insert, if_true, absent] at found
    cases found
  · intro obstacle
    rcases Option.ne_none_iff_exists'.mp obstacle with ⟨cause, obstacle⟩
    simp only [Absorbs, perform, create, obstacle]

theorem absorbs_delete_iff {id : StoreId} :
    service.Absorbs (.delete id) ↔ service.deletionObstacle? id ≠ none := by
  constructor
  · intro unchanged free
    rcases deletionObstacle?_eq_none_iff.mp free with ⟨store, found, -⟩
    have missing := congrArg (fun next : Service => next.registry.get? id) unchanged
    simp only [perform, delete, free, Registry.get?_remove, if_true, found] at missing
    cases missing
  · intro obstacle
    rcases Option.ne_none_iff_exists'.mp obstacle with ⟨cause, obstacle⟩
    simp only [Absorbs, perform, delete, obstacle]
    cases cause <;> rfl

/-! ## An item is absorbed once it has been performed -/

theorem absorbs_copy_after_copy (service : Service) (order : CopyOrder) :
    (service.perform (.copy order)).1.Absorbs (.copy order) := by
  have outcome := service.outcome_perform (.copy order)
  generalize performed : service.perform (.copy order) = result at outcome
  cases outcome with
  | refused unclean => exact congrArg Prod.fst performed
  | @copied _ kind source destination different sourceFound destinationFound known =>
      simp only [Absorbs]
      generalize made : (source.copyWindow destination
        (Window.ofKind kind order.start order.stop)).1 = copied
      have again : (source.copyWindow copied
          (Window.ofKind kind order.start order.stop)).1 = copied := by
        rw [← made]
        exact source.copyWindow_copyWindow destination _
      have sourceLater : (service.registry.modify order.destination fun _ => copied).get?
          order.source = some source := by
        rw [Registry.get?_modify, if_neg (Ne.symm different), sourceFound]
      have destinationLater : (service.registry.modify order.destination fun _ => copied).get?
          order.destination = some copied := by
        rw [Registry.get?_modify, if_pos rfl, destinationFound, Option.map_some]
      -- What matters of the new registry is that both stores are found in it.
      generalize (service.registry.modify order.destination fun _ => copied) = registry
        at sourceLater destinationLater
      have outcome := outcome_perform { service with registry := registry } (.copy order)
      generalize perform { service with registry := registry } (.copy order) = result
        at outcome
      cases outcome with
      | refused unclean => rfl
      | copied different sourceFound destinationFound knownAgain =>
          cases sourceLater.symm.trans sourceFound
          cases destinationLater.symm.trans destinationFound
          cases known.symm.trans knownAgain
          rw [again, Registry.modify_const_eq_self destinationLater]

/-- An item that has just been performed changes nothing when it is performed again. -/
theorem absorbs_perform (service : Service) (item : Item) :
    (service.perform item).1.Absorbs item := by
  cases item with
  | act id action =>
      rw [absorbs_act_iff, perform_act]
      intro store found
      simp only [Registry.get?_modify, if_true] at found
      rcases Option.map_eq_some_iff.mp found with ⟨before, -, rfl⟩
      exact action.attempt_attempt service.config before
  | create definition =>
      have outcome := service.outcome_perform (.create definition)
      generalize performed : service.perform (.create definition) = result at outcome
      cases outcome with
      | refused unclean => exact congrArg Prod.fst performed
      | created absent room channel size =>
          rw [absorbs_create_iff, Ne, creationObstacle?_eq_none_iff]
          rintro ⟨missing, -⟩
          rw [Registry.get?_insert, if_pos rfl] at missing
          cases missing
  | delete id =>
      have outcome := service.outcome_perform (.delete id)
      generalize performed : service.perform (.delete id) = result at outcome
      cases outcome with
      | refused unclean => exact congrArg Prod.fst performed
      | deleted found free unrouted =>
          rw [absorbs_delete_iff, Ne, deletionObstacle?_eq_none_iff]
          rintro ⟨store, present, -⟩
          rw [Registry.get?_remove, if_pos rfl] at present
          cases present
  | copy order => exact service.absorbs_copy_after_copy order

/-! ## Other items of the telecommand do not alter that -/

/-- An action that changes nothing still changes nothing after another action, if it
does so on the store that the other one was tried on. -/
theorem Absorbs.after_act {first second : StoreId} {action other : Action}
    (absorbed : service.Absorbs (.act first action))
    (kept : ∀ store, action.attempt service.config store = store →
      action.attempt service.config (other.attempt service.config store) =
        other.attempt service.config store) :
    (service.perform (.act second other)).1.Absorbs (.act first action) := by
  rw [absorbs_act_iff] at absorbed ⊢
  rw [perform_act]
  intro store found
  simp only [Registry.get?_modify] at found
  by_cases same : second = first
  · rw [if_pos same] at found
    rcases Option.map_eq_some_iff.mp found with ⟨before, held, rfl⟩
    exact kept before (absorbed before held)
  · rw [if_neg same] at found
    exact absorbed store found

/-- A creation that is turned down is turned down after any other creation as well. -/
theorem Absorbs.after_create {first second : StoreDefinition}
    (absorbed : service.Absorbs (.create first)) :
    (service.perform (.create second)).1.Absorbs (.create first) := by
  have outcome := service.outcome_perform (.create second)
  generalize service.perform (.create second) = result at outcome
  cases outcome with
  | refused unclean => exact absorbed
  | created absent room channel size =>
      rw [absorbs_create_iff, Ne, creationObstacle?_eq_none_iff] at absorbed ⊢
      rintro ⟨missing, roomLeft, conditions⟩
      rw [Registry.get?_insert] at missing
      have size_eq := OrderedMap.size_insert_of_get?_eq_none absent
        (PacketStore.create second.size second.kind second.virtualChannel)
      by_cases same : second.id = first.id
      · rw [if_pos same] at missing
        cases missing
      · rw [if_neg same] at missing
        apply absorbed
        refine ⟨missing, ?_, conditions⟩
        simp only [Registry.size, size_eq] at roomLeft ⊢
        omega

/-- A deletion that is turned down is turned down after any other deletion as well. -/
theorem Absorbs.after_delete {first second : StoreId}
    (absorbed : service.Absorbs (.delete first)) :
    (service.perform (.delete second)).1.Absorbs (.delete first) := by
  have outcome := service.outcome_perform (.delete second)
  generalize service.perform (.delete second) = result at outcome
  cases outcome with
  | refused unclean => exact absorbed
  | deleted found free unrouted =>
      rw [absorbs_delete_iff, Ne, deletionObstacle?_eq_none_iff] at absorbed ⊢
      rintro ⟨store, present, conditions⟩
      rw [Registry.get?_remove] at present
      split at present
      · cases present
      · exact absorbed ⟨store, present, conditions⟩

/-- An item that changes nothing still changes nothing after another item of the
telecommand. -/
theorem Absorbs.perform {other : Item} (absorbed : service.Absorbs item)
    (fellows : item.Fellows other) : (service.perform other).1.Absorbs item := by
  cases fellows with
  | actions first second action =>
      apply absorbed.after_act
      intro store fixed
      rw [fixed, fixed]
  | starts first second =>
      apply absorbed.after_act
      intro store fixed
      exact Action.attempt_start_start fixed
  | creations first second => exact absorbed.after_create
  | deletions first second => exact absorbed.after_delete
  | copies order =>
      rw [absorbed]
      exact absorbed

theorem Absorbs.performEach {items : List Item} (absorbed : service.Absorbs item)
    (fellows : ∀ other ∈ items, item.Fellows other) :
    (service.performEach items).1.Absorbs item := by
  induction items generalizing service with
  | nil => exact absorbed
  | cons other rest ih =>
      rcases List.forall_mem_cons.mp fellows with ⟨first, others⟩
      exact ih (absorbed.perform first) others

/-- Every item of a telecommand is absorbed once all of them have been performed. -/
theorem absorbs_performEach {items : List Item}
    (fellows : ∀ item ∈ items, ∀ other ∈ items, item.Fellows other) :
    ∀ item ∈ items, (service.performEach items).1.Absorbs item := by
  induction items generalizing service with
  | nil => exact fun item member => nomatch member
  | cons first rest ih =>
      have restFellows : ∀ item ∈ rest, ∀ other ∈ rest, item.Fellows other :=
        fun item member other present =>
          fellows item (List.mem_cons_of_mem _ member) other (List.mem_cons_of_mem _ present)
      intro item member
      rcases List.mem_cons.mp member with rfl | behind
      · apply (service.absorbs_perform item).performEach
        intro other present
        exact fellows item List.mem_cons_self other (List.mem_cons_of_mem _ present)
      · exact ih restFellows item behind

/-! ## Changes of capacity -/

/-- A change of capacity that is made again later may be left out before. -/
theorem perform_resize_resize (service : Service) (first second : StoreResize) :
    (((service.perform first.item).1.perform second.item).1.perform first.item).1 =
      ((service.perform second.item).1.perform first.item).1 := by
  have registry_eq : ((service.registry.modify first.id
        (Action.attempt service.config (.resize first.size))).modify second.id
          (Action.attempt service.config (.resize second.size))).modify first.id
            (Action.attempt service.config (.resize first.size)) =
      (service.registry.modify second.id
        (Action.attempt service.config (.resize second.size))).modify first.id
          (Action.attempt service.config (.resize first.size)) := by
    apply Registry.ext_get?
    · rfl
    intro id
    simp only [Registry.get?_modify]
    cases service.registry.get? id with
    | none => simp only [Option.map_none, ite_self]
    | some store =>
        by_cases isFirst : first.id = id
        · by_cases isSecond : second.id = id
          · simp only [isFirst, isSecond, if_true, Option.map_some,
              Action.attempt_resize_resize]
          · simp only [isFirst, isSecond, if_true, if_false, Option.map_some,
              Action.attempt_attempt]
        · simp only [isFirst, if_false]
  simp only [StoreResize.item, perform_act, registry_eq]

/-- Services that a change of capacity makes equal are made equal by it also after other
changes of capacity. -/
theorem perform_resize_congr {left right : Service} {last : StoreResize}
    (same : (left.perform last.item).1 = (right.perform last.item).1)
    (resizes : List StoreResize) :
    ((left.performEach (resizes.map StoreResize.item)).1.perform last.item).1 =
      ((right.performEach (resizes.map StoreResize.item)).1.perform last.item).1 := by
  induction resizes generalizing left right with
  | nil => exact same
  | cons resize rest ih =>
      have next : ((left.perform resize.item).1.perform last.item).1 =
          ((right.perform resize.item).1.perform last.item).1 := by
        rw [← left.perform_resize_resize last resize, same, perform_resize_resize]
      exact ih next

theorem performEach_concat (service : Service) (items : List Item) (item : Item) :
    (service.performEach (items ++ [item])).1 =
      ((service.performEach items).1.perform item).1 := by
  rw [performEach_append]
  rfl

/-- A batch of changes of capacity, carried out twice, has the effect of one. -/
theorem performEach_resizes_twice (service : Service) (resizes : List StoreResize) :
    ((service.performEach (resizes.map StoreResize.item)).1.performEach
        (resizes.map StoreResize.item)).1 =
      (service.performEach (resizes.map StoreResize.item)).1 := by
  induction resizes using List.reverseRecOn with
  | nil => rfl
  | append_singleton rest last ih =>
      have again := (service.performEach (rest.map StoreResize.item)).1.absorbs_perform
        last.item
      -- The last change comes once more behind the repetition and may be left out before.
      rw [List.map_append, List.map_singleton, performEach_concat, performEach_concat,
        perform_resize_congr again rest, ih]

-- The batch is absorbed although its first item is not.
example :
    let id : StoreId := ⟨"log", by decide, by decide⟩
    let service : Service :=
      ⟨Config.standard, ⟨4, OrderedMap.empty.insert id (PacketStore.create 100 .circular 1)⟩,
        Router.empty, ⟨7⟩⟩
    let resized := (service.execute (.resizeStores [⟨id, 50⟩, ⟨id, 80⟩])).1
    (resized.perform (.act id (.resize 50))).1 ≠ resized := by
  decide +kernel

/-! ## Telecommands -/

/-- Items other than creations add no stores. -/
theorem ids_perform_subset (isLocal : item.isLocal = true) :
    (service.perform item).1.registry.ids ⊆ service.registry.ids := by
  have outcome := service.outcome_perform item
  generalize service.perform item = result at outcome
  cases outcome with
  | refused unclean => exact List.Subset.refl _
  | acted found free => simp only [Registry.ids_modify, List.Subset.refl]
  | created absent room channel size => cases isLocal
  | deleted found free unrouted =>
      intro id
      simp only [Registry.mem_ids_iff, Registry.contains, Registry.get?_remove]
      split
      · rintro ⟨⟩
      · exact fun present => present
  | copied different sourceFound destinationFound known =>
      simp only [Registry.ids_modify, List.Subset.refl]

theorem ids_performEach_subset {items : List Item}
    (areLocal : ∀ item ∈ items, item.isLocal = true) :
    (service.performEach items).1.registry.ids ⊆ service.registry.ids := by
  induction items generalizing service with
  | nil => exact List.Subset.refl _
  | cons item rest ih =>
      rcases List.forall_mem_cons.mp areLocal with ⟨first, others⟩
      exact List.Subset.trans (ih others) (ids_perform_subset first)

/-- The items of a telecommand that arrives again are among those of its first
arrival. -/
theorem items_execute_subset (service : Service) (request : Request) :
    request.items (service.execute request).1.registry ⊆ request.items service.registry := by
  by_cases creates : ∃ definitions, request = .createStores definitions
  · rcases creates with ⟨definitions, rfl⟩
    exact List.Subset.refl _
  · apply Request.items_subset
    apply ids_performEach_subset
    intro item member
    exact Request.isLocal_of_mem_items (fun list equal => creates ⟨list, equal⟩) member

/-- A telecommand that is repeated changes nothing, whatever the state and however its
items fared. -/
theorem repeated_request_changes_nothing (service : Service) (request : Request) :
    ((service.execute request).1.execute request).1 = (service.execute request).1 := by
  by_cases resizes : ∃ resizes, request = .resizeStores resizes
  · rcases resizes with ⟨resizes, rfl⟩
    exact service.performEach_resizes_twice resizes
  · have fellows : ∀ item ∈ request.items service.registry,
        ∀ other ∈ request.items service.registry, item.Fellows other :=
      Request.fellows_of_mem_items fun list equal => resizes ⟨list, equal⟩
    apply performEach_of_absorbs
    intro item member
    exact absorbs_performEach fellows item (service.items_execute_subset request member)

end Service

end OnboardStorage
