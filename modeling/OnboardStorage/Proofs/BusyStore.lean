import OnboardStorage.Proofs.Outcome
import OnboardStorage.Proofs.PacketStore.Copy

/-!
# Busy stores are left alone

A store is busy while a retrieval is running or outstanding on it.  No
telecommand removes a busy store, changes its layout or takes packets from it;
one of the eighteen may even add packets, but only to a store without any.

The argument is by items.  Suspending and aborting may end the work of a store,
but touch nothing else; every other item leaves a busy store busy.  A
telecommand consists of items of the one sort or of the other, so within one
telecommand a store never first becomes free and is then changed.
-/

namespace OnboardStorage

namespace PacketStore

/-- A store with a retrieval that is running or outstanding. -/
def Busy (store : PacketStore) : Prop :=
  store.openRetrieval = .inProgress ∨ store.timeRangeActive = true

/-- Layout and packets of a store survive. -/
structure Survives (before after : PacketStore) : Prop where
  capacity : after.capacity = before.capacity
  kind : after.kind = before.kind
  channel : after.virtualChannel = before.virtualChannel
  packets : before.packets <+: after.packets

/-- The start of open retrieval stays. -/
def SameStart (before after : PacketStore) : Prop :=
  after.openRetrievalStart = before.openRetrievalStart

/-- An outstanding time range stays or goes; no other takes its place. -/
def SameRangeOrNone (before after : PacketStore) : Prop :=
  ∀ range, before.timeRangeRetrieval = some range →
    after.timeRangeRetrieval = some range ∨ after.timeRangeRetrieval = none

/-- What a telecommand leaves of a busy store. -/
structure LeftAlone (before after : PacketStore) : Prop
    extends Survives before after where
  start : before.openRetrieval = .inProgress → before.SameStart after
  range : before.SameRangeOrNone after

/-- A store goes on with all the work it had. -/
structure GoesOn (before after : PacketStore) : Prop
    extends Survives before after where
  openGoesOn : before.openRetrieval = .inProgress →
    after.openRetrieval = .inProgress ∧
      after.openRetrievalStart = before.openRetrievalStart
  rangeGoesOn : ∀ range, before.timeRangeRetrieval = some range →
    after.timeRangeRetrieval = some range

/-- A store may give up work and is otherwise the same. -/
structure Relents (before after : PacketStore) : Prop
    extends Survives before after where
  start : after.openRetrievalStart = before.openRetrievalStart
  range : after.timeRangeRetrieval = before.timeRangeRetrieval ∨
    after.timeRangeRetrieval = none

theorem not_busy_iff {store : PacketStore} :
    store.runningRetrieval? = none ↔ ¬ store.Busy := by
  rw [runningRetrieval?_eq_none_iff, Busy, timeRangeActive]
  cases store.openRetrieval <;> cases store.timeRangeRetrieval <;> simp

theorem Survives.refl (store : PacketStore) : store.Survives store :=
  ⟨rfl, rfl, rfl, List.prefix_refl _⟩

theorem Survives.trans {first second third : PacketStore}
    (before : first.Survives second) (after : second.Survives third) :
    first.Survives third where
  capacity := after.capacity.trans before.capacity
  kind := after.kind.trans before.kind
  channel := after.channel.trans before.channel
  packets := before.packets.trans after.packets

theorem SameStart.refl (store : PacketStore) : store.SameStart store :=
  rfl

theorem GoesOn.refl (store : PacketStore) : store.GoesOn store :=
  ⟨.refl store, fun running => ⟨running, rfl⟩, fun _ equal => equal⟩

theorem GoesOn.trans {first second third : PacketStore} (before : first.GoesOn second)
    (after : second.GoesOn third) : first.GoesOn third where
  toSurvives := before.toSurvives.trans after.toSurvives
  openGoesOn running :=
    have middle := before.openGoesOn running
    have last := after.openGoesOn middle.1
    ⟨last.1, last.2.trans middle.2⟩
  rangeGoesOn range equal := after.rangeGoesOn range (before.rangeGoesOn range equal)

theorem GoesOn.busy {before after : PacketStore} (kept : before.GoesOn after)
    (busy : before.Busy) : after.Busy := by
  rcases busy with running | active
  · exact Or.inl (kept.openGoesOn running).1
  · obtain ⟨range, equal⟩ := Option.isSome_iff_exists.mp active
    refine Or.inr ?_
    rw [timeRangeActive, kept.rangeGoesOn range equal]
    rfl

theorem GoesOn.leftAlone {before after : PacketStore} (kept : before.GoesOn after) :
    before.LeftAlone after where
  toSurvives := kept.toSurvives
  start running := (kept.openGoesOn running).2
  range range equal := Or.inl (kept.rangeGoesOn range equal)

theorem Relents.refl (store : PacketStore) : store.Relents store :=
  ⟨.refl store, rfl, Or.inl rfl⟩

theorem Relents.trans {first second third : PacketStore} (before : first.Relents second)
    (after : second.Relents third) : first.Relents third where
  toSurvives := before.toSurvives.trans after.toSurvives
  start := after.start.trans before.start
  range := by
    rcases after.range with same | gone
    · exact before.range.imp same.trans same.trans
    · exact Or.inr gone

theorem Relents.leftAlone {before after : PacketStore} (relented : before.Relents after) :
    before.LeftAlone after where
  toSurvives := relented.toSurvives
  start _ := relented.start
  range _ equal := relented.range.imp_left fun same => same.trans equal

/-! ## Actions and copies -/

/-- An action that nothing stands against lets a busy store go on, unless it
ends work. -/
theorem goesOn_effect {config : Config} {store : PacketStore} {action : Action}
    (busy : store.Busy) (free : action.obstacle? config store = none)
    (notSuspend : action ≠ .suspendOpen) (notAbort : action ≠ .abortTimeRange) :
    store.GoesOn (action.effect config store) := by
  have idle {result : Prop} (none : store.runningRetrieval? = none) : result :=
    absurd busy (not_busy_iff.mp none)
  cases action with
  | setStorage enabled => exact { GoesOn.refl store with }
  | startTimeRange range priority =>
      have unblocked := (Option.or_eq_none_iff.mp free).1
      have inactive : store.timeRangeActive = false :=
        Bool.eq_false_iff.mpr
          (refusing_eq_none_iff.mp (refusing_eq_none_iff.mp unblocked).2).1
      exact { GoesOn.refl store with
        rangeGoesOn := fun other equal => by
          rw [timeRangeActive, equal] at inactive
          cases inactive }
  | deleteContent limit => exact idle free
  | moveOpenStart start =>
      have suspended : store.openRetrieval ≠ .inProgress :=
        (refusing_eq_none_iff.mp free).1
      exact { GoesOn.refl store with
        openGoesOn := fun running => absurd running suspended }
  | resumeOpen priority =>
      exact { GoesOn.refl store with openGoesOn := fun _ => ⟨rfl, rfl⟩ }
  | suspendOpen => exact absurd rfl notSuspend
  | abortTimeRange => exact absurd rfl notAbort
  | resize size => exact idle (requiring_eq_none_iff.mp free).2
  | changeKind kind => exact idle free
  | changeChannel channel => exact idle (requiring_eq_none_iff.mp free).2

/-- A destination goes on with its work, busy or not: it only gains packets,
and only if it has none. -/
theorem goesOn_copyWindow (source destination : PacketStore) (window : Window) :
    destination.GoesOn (source.copyWindow destination window).1 := by
  have settings := copyWindow_settings source destination window
  have grown : destination.packets <+:
      (source.copyWindow destination window).1.packets := by
    by_cases filled : destination.packets = []
    · rw [filled]
      exact List.nil_prefix
    · have unchanged := copyWindow_of_packets_ne_nil filled source window
      exact unchanged ▸ List.prefix_refl destination.packets
  generalize (source.copyWindow destination window).1 = changed at settings grown ⊢
  have capacity_eq : changed.capacity = destination.capacity := by rw [settings]
  have kind_eq : changed.kind = destination.kind := by rw [settings]
  have channel_eq : changed.virtualChannel = destination.virtualChannel := by
    rw [settings]
  have open_eq : changed.openRetrieval = destination.openRetrieval := by rw [settings]
  have start_eq : changed.openRetrievalStart = destination.openRetrievalStart := by
    rw [settings]
  have range_eq : changed.timeRangeRetrieval = destination.timeRangeRetrieval := by
    rw [settings]
  exact ⟨⟨capacity_eq, kind_eq, channel_eq, grown⟩,
    fun running => ⟨open_eq.trans running, start_eq⟩,
    fun _ equal => range_eq.trans equal⟩

end PacketStore

/-! ## Items -/

/-- Whether an item is one that ends work. -/
def Item.endsWork : Item → Bool
  | .act _ .suspendOpen | .act _ .abortTimeRange => true
  | _ => false

/-- The items of one telecommand are of one sort. -/
theorem Request.items_uniform (registry : Registry) (request : Request) :
    (∀ item ∈ request.items registry, item.endsWork = true) ∨
      ∀ item ∈ request.items registry, item.endsWork = false := by
  cases request with
  | suspendOpenRetrieval stores =>
      exact Or.inl (by simp [items, itemsOn, Item.endsWork])
  | abortTimeRangeRetrieval stores =>
      exact Or.inl (by simp [items, itemsOn, Item.endsWork])
  | _ => exact Or.inr (by simp [items, itemsOn, Item.endsWork])

namespace Service

open PacketStore

variable {service : Service} {id : StoreId} {before : PacketStore}

/-- The store named `id` is still there, related to what it was. -/
def Continues (service : Service) (id : StoreId)
    (relation : PacketStore → PacketStore → Prop) (before : PacketStore) : Prop :=
  ∃ after, service.registry.get? id = some after ∧ relation before after

theorem goesOn_perform (found : service.registry.get? id = some before)
    (busy : before.Busy) {item : Item} (lasting : item.endsWork = false) :
    (service.perform item).1.Continues id GoesOn before := by
  have outcome := service.outcome_perform item
  generalize service.perform item = result at outcome
  cases outcome with
  | refused unclean => exact ⟨before, found, .refl before⟩
  | @acted target action store targetFound free =>
      by_cases same : target = id
      · subst same
        rw [found] at targetFound
        cases targetFound
        refine ⟨action.effect service.config before, ?_,
          goesOn_effect busy free (by rintro rfl; cases lasting)
            (by rintro rfl; cases lasting)⟩
        rw [Registry.get?_modify, if_pos rfl, found]
        rfl
      · refine ⟨before, ?_, .refl before⟩
        rw [Registry.get?_modify, if_neg same, found]
  | @created definition absent room channel size =>
      have different : definition.id ≠ id := by
        rintro rfl
        rw [absent] at found
        cases found
      refine ⟨before, ?_, .refl before⟩
      rw [Registry.get?_insert, if_neg different, found]
  | @deleted target store targetFound free unrouted =>
      have different : target ≠ id := by
        rintro rfl
        rw [found] at targetFound
        cases targetFound
        exact not_busy_iff.mp (refusing_eq_none_iff.mp free).2 busy
      refine ⟨before, ?_, .refl before⟩
      rw [Registry.get?_remove, if_neg different, found]
  | @copied order kind source destination different sourceFound destinationFound known =>
      by_cases same : order.destination = id
      · rw [same, found] at destinationFound
        cases destinationFound
        refine ⟨_, ?_, goesOn_copyWindow source before
          (Window.ofKind kind order.start order.stop)⟩
        rw [Registry.get?_modify, if_pos same, found]
        rfl
      · refine ⟨before, ?_, .refl before⟩
        rw [Registry.get?_modify, if_neg same, found]

theorem relents_perform (found : service.registry.get? id = some before)
    {item : Item} (ending : item.endsWork = true) :
    (service.perform item).1.Continues id Relents before := by
  have outcome := service.outcome_perform item
  generalize service.perform item = result at outcome
  cases outcome with
  | refused unclean => exact ⟨before, found, .refl before⟩
  | @acted target action store targetFound free =>
      by_cases same : target = id
      · refine ⟨action.effect service.config before, ?_, ?_⟩
        · rw [Registry.get?_modify, if_pos same, found]
          rfl
        · cases action with
          | suspendOpen => exact { Relents.refl before with }
          | abortTimeRange => exact { Relents.refl before with range := Or.inr rfl }
          | _ => cases ending
      · refine ⟨before, ?_, .refl before⟩
        rw [Registry.get?_modify, if_neg same, found]
  | created absent room channel size => cases ending
  | deleted targetFound free unrouted => cases ending
  | copied different sourceFound destinationFound known => cases ending

/-- A relation that each item of a list keeps, and that composes, is kept by
the list. -/
theorem continues_performEach {relation : PacketStore → PacketStore → Prop}
    (invariant : PacketStore → Prop) (refl : ∀ store, relation store store)
    (trans : ∀ {first second third}, relation first second → relation second third →
      relation first third)
    (kept : ∀ {first second}, relation first second → invariant first → invariant second)
    {items : List Item}
    (step : ∀ item ∈ items, ∀ {service : Service} {before : PacketStore},
      service.registry.get? id = some before → invariant before →
        (service.perform item).1.Continues id relation before)
    (found : service.registry.get? id = some before) (holds : invariant before) :
    (service.performEach items).1.Continues id relation before := by
  induction items generalizing service before with
  | nil => exact ⟨before, found, refl before⟩
  | cons item rest ih =>
      obtain ⟨middle, middleFound, first⟩ := step item List.mem_cons_self found holds
      obtain ⟨after, afterFound, others⟩ :=
        ih (fun other member => step other (List.mem_cons_of_mem _ member)) middleFound
          (kept first holds)
      exact ⟨after, afterFound, trans first others⟩

/-- A telecommand leaves a busy store alone. -/
theorem leftAlone_execute (found : service.registry.get? id = some before)
    (busy : before.Busy) (request : Request) :
    (service.execute request).1.Continues id LeftAlone before := by
  rcases request.items_uniform service.registry with ending | lasting
  · obtain ⟨after, afterFound, relented⟩ :=
      continues_performEach (fun _ => True) Relents.refl Relents.trans
        (fun _ _ => trivial)
        (fun item member _ _ held _ => relents_perform held (ending item member))
        found trivial
    exact ⟨after, afterFound, relented.leftAlone⟩
  · obtain ⟨after, afterFound, kept⟩ :=
      continues_performEach Busy GoesOn.refl GoesOn.trans GoesOn.busy
        (fun item member _ _ held working =>
          goesOn_perform held working (lasting item member))
        found busy
    exact ⟨after, afterFound, kept.leftAlone⟩

/-! ## Runs of telecommands -/

/-- Carry out telecommands in turn. -/
def executeEach (service : Service) : List Request → Service
  | [] => service
  | request :: rest => (service.execute request).1.executeEach rest

/-- The store named `id` satisfies a condition before each telecommand. -/
def HoldsBeforeEach (condition : PacketStore → Prop) (id : StoreId) :
    Service → List Request → Prop
  | _, [] => True
  | service, request :: rest =>
      (∃ store, service.registry.get? id = some store ∧ condition store) ∧
        HoldsBeforeEach condition id (service.execute request).1 rest

/-- What each telecommand keeps under a condition, a run under that condition
keeps, provided that it composes wherever the condition holds in between. -/
theorem continues_executeEach {condition : PacketStore → Prop}
    {relation : PacketStore → PacketStore → Prop}
    (refl : ∀ store, relation store store)
    (trans : ∀ {first second third}, relation first second → condition second →
      relation second third → relation first third)
    (step : ∀ {service : Service} {before : PacketStore} (request : Request),
      service.registry.get? id = some before → condition before →
        (service.execute request).1.Continues id relation before)
    {requests : List Request} (found : service.registry.get? id = some before)
    (holds : HoldsBeforeEach condition id service requests) :
    (service.executeEach requests).Continues id relation before := by
  induction requests generalizing service before with
  | nil => exact ⟨before, found, refl before⟩
  | cons request rest ih =>
      obtain ⟨⟨store, storeFound, satisfied⟩, later⟩ := holds
      rw [found] at storeFound
      cases storeFound
      obtain ⟨middle, middleFound, first⟩ := step request found satisfied
      cases rest with
      | nil => exact ⟨middle, middleFound, first⟩
      | cons next others =>
          obtain ⟨after, afterFound, second⟩ := ih middleFound later
          obtain ⟨held, heldFound, middleSatisfied⟩ := later.1
          rw [middleFound] at heldFound
          cases heldFound
          exact ⟨after, afterFound, trans first middleSatisfied second⟩

/-- A condition that holds before each telecommand of a run holds before the
one at any position. -/
theorem HoldsBeforeEach.middle {condition : PacketStore → Prop} {request : Request}
    {earlier later : List Request}
    (holds : HoldsBeforeEach condition id service (earlier ++ request :: later)) :
    ∃ store, (service.executeEach earlier).registry.get? id = some store ∧
      condition store := by
  induction earlier generalizing service with
  | nil => exact holds.1
  | cons first rest ih => exact ih holds.2

/-- No telecommand reconfigures a busy store, takes packets from it, moves the
start of a running open retrieval or puts one outstanding time range in place
of another.

Along a run in which the store is busy before every telecommand, each of them
therefore leaves it alone, and its layout and packets survive from the first to
the last.  So does the start of an open retrieval as long as that retrieval
keeps running, and the time range as long as one stays outstanding; a store
that only the other retrieval keeps busy may be given new ones. -/
theorem busy_store_is_left_alone (service : Service) (id : StoreId)
    (before : PacketStore) (found : service.registry.get? id = some before) :
    (before.Busy → ∀ request : Request,
      (service.execute request).1.Continues id LeftAlone before) ∧
    ∀ requests : List Request, HoldsBeforeEach Busy id service requests →
      (∀ earlier request later, requests = earlier ++ request :: later →
        ∃ held, (service.executeEach earlier).registry.get? id = some held ∧
          ((service.executeEach earlier).execute request).1.Continues id LeftAlone
            held) ∧
      (service.executeEach requests).Continues id Survives before ∧
      (HoldsBeforeEach (·.openRetrieval = .inProgress) id service requests →
        (service.executeEach requests).Continues id SameStart before) ∧
      (HoldsBeforeEach (·.timeRangeActive = true) id service requests →
        (service.executeEach requests).Continues id SameRangeOrNone before) := by
  refine ⟨fun busy request => leftAlone_execute found busy request, ?_⟩
  intro requests busy
  refine ⟨?_, ?_, ?_, ?_⟩
  · rintro earlier request later rfl
    obtain ⟨held, heldFound, heldBusy⟩ := busy.middle
    exact ⟨held, heldFound, leftAlone_execute heldFound heldBusy request⟩
  · refine continues_executeEach Survives.refl
      (fun first _ second => first.trans second) ?_ found busy
    intro service store request storeFound storeBusy
    obtain ⟨after, afterFound, alone⟩ := leftAlone_execute storeFound storeBusy request
    exact ⟨after, afterFound, alone.toSurvives⟩
  · intro running
    refine continues_executeEach SameStart.refl ?_ ?_ found running
    · intro first second third before _ after
      exact after.trans before
    · intro service store request storeFound storeRunning
      obtain ⟨after, afterFound, alone⟩ :=
        leftAlone_execute storeFound (Or.inl storeRunning) request
      exact ⟨after, afterFound, alone.start storeRunning⟩
  · intro active
    refine continues_executeEach (fun _ _ equal => Or.inl equal) ?_ ?_ found active
    · intro first second third before outstanding after range equal
      rcases before range equal with same | gone
      · exact after range same
      · rw [timeRangeActive, gone] at outstanding
        cases outstanding
    · intro service store request storeFound storeActive
      obtain ⟨after, afterFound, alone⟩ :=
        leftAlone_execute storeFound (Or.inr storeActive) request
      exact ⟨after, afterFound, alone.range⟩

/-- Deleting all stores passes over one whose open retrieval is running. -/
theorem running_store_is_left_alone :
    let id : StoreId := ⟨"log", by decide, by decide⟩
    let store := { PacketStore.create 100 .circular 1 with openRetrieval := .inProgress }
    let service : Service :=
      ⟨Config.standard, ⟨4, OrderedMap.empty.insert id store⟩, Router.empty, ⟨7⟩⟩
    (service.execute (.deleteStores [])).1.Continues id LeftAlone store :=
  (busy_store_is_left_alone _ _ _ rfl).1 (Or.inl rfl) (.deleteStores [])

end Service

end OnboardStorage
