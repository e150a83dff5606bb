import OnboardStorage.Proofs.Commands
import OnboardStorage.Proofs.Verdict.Decisions

/-!
# The first ground that applies settles an item

An item of a telecommand is carried out, without a failure or an internal error,
exactly when no ground stands against it in the state just before it.  Otherwise
the first ground that applies is answered, once, and the service is left as it
was.  This holds for every item of every telecommand in every state that a run
leads to, whatever the items before it have done.
-/

namespace OnboardStorage

namespace Service

/-! ## One item -/

/-- The service carries an item out, or turns it down with a verdict and stays as it
was. -/
def ComesTo (service : Service) (item : Item) : Option Verdict → Prop
  | none =>
      (service.perform item).2.failures = [] ∧
        (service.perform item).2.internalErrors = []
  | some verdict =>
      (service.perform item).1 = service ∧
        (service.perform item).2.failures = verdict.failures item.messageType ∧
        (service.perform item).2.internalErrors = verdict.internalErrors

variable {service : Service}

theorem comesTo_of_carriedOut {item : Item} {next : Service} {notices : List Notice}
    (performed : service.perform item = (next, .ofNotices notices)) :
    service.ComesTo item none := by
  rw [ComesTo, performed]
  exact ⟨rfl, rfl⟩

theorem comesTo_of_rejected {item : Item} {id : StoreId} {cause : Rejection}
    (performed : service.perform item =
      (service, .rejection item.messageType id cause)) :
    service.ComesTo item (some (.failure id cause)) := by
  rw [ComesTo, performed]
  exact ⟨rfl, rfl, rfl⟩

theorem comesTo_act (id : StoreId) (action : Action) :
    ∃ decision, Decides (Item.grounds service (.act id action)) decision ∧
      service.ComesTo (.act id action) decision := by
  simp only [Item.grounds, groundsAbout]
  cases found : service.registry.get? id with
  | none =>
      refine ⟨some (.failure id .storeMissing), .here trivial, ?_⟩
      apply comesTo_of_rejected
      simp only [perform, act, found, Item.messageType]
  | some store =>
      refine ⟨_, (action.decides_obstacle? service.config store).map _, ?_⟩
      cases obstacle : action.obstacle? service.config store with
      | none =>
          apply comesTo_of_carriedOut
          simp only [perform, act, found, obstacle]
          rfl
      | some cause =>
          apply comesTo_of_rejected
          simp only [perform, act, found, obstacle, Item.messageType]

theorem Sound.comesTo_create (sound : service.Sound)
    (valid : service.config.check = .ok ()) (definition : StoreDefinition) :
    ∃ decision, Decides (Item.grounds service (.create definition)) decision ∧
      service.ComesTo (.create definition) decision := by
  refine ⟨_, (sound.decides_creationObstacle? valid definition).map _, ?_⟩
  cases obstacle : service.creationObstacle? definition with
  | none =>
      apply comesTo_of_carriedOut
      exact create_eq_of_free obstacle
  | some cause =>
      apply comesTo_of_rejected
      simp only [Service.perform, create, obstacle, Item.messageType]

theorem comesTo_delete (id : StoreId) :
    ∃ decision, Decides (Item.grounds service (.delete id)) decision ∧
      service.ComesTo (.delete id) decision := by
  have turnedDown {cause : Rejection} (obstacle : service.deletionObstacle? id = some cause) :
      service.ComesTo (.delete id) (some (.failure id cause)) := by
    simp only [ComesTo, perform, delete, obstacle]
    -- One of the causes is logged with the routes that are left.
    cases cause <;> exact ⟨rfl, rfl, rfl⟩
  simp only [Item.grounds, groundsAbout]
  cases found : service.registry.get? id with
  | none =>
      refine ⟨some (.failure id .storeMissing), .here trivial, turnedDown ?_⟩
      simp only [deletionObstacle?, found]
  | some store =>
      refine ⟨_, (service.decides_deletion id store).map _, ?_⟩
      have obstacle_eq : service.deletionObstacle? id =
          (store.blocker? service.config.capabilities .delete).or
            (if service.router.isRouted id then some .storeRouted else none) := by
        simp only [deletionObstacle?, found]
      rw [← obstacle_eq]
      cases obstacle : service.deletionObstacle? id with
      | none =>
          apply comesTo_of_carriedOut
          simp only [perform, delete, obstacle]
          rfl
      | some cause => exact turnedDown obstacle

/-- Nothing comes of a copy that something stands against. -/
theorem copyBetween_eq_of_copyObstacle? {order : CopyOrder} {kind : WindowKind}
    {source destination : PacketStore} {cause : Rejection}
    (sourceFound : service.registry.get? order.source = some source)
    (destinationFound : service.registry.get? order.destination = some destination)
    (obstacle : source.copyObstacle? destination
      (Window.ofKind kind order.start order.stop) = some cause) :
    service.copyBetween order kind =
      (service, .rejection .copyPackets order.destination cause) := by
  unfold copyBetween Registry.sourceAndDestination?
  by_cases same : order.source = order.destination
  · rw [same, destinationFound] at sourceFound
    cases sourceFound
    rw [PacketStore.copyObstacle?_self] at obstacle
    cases obstacle
    simp only [same, if_true, destinationFound, Option.any_some]
  · simp only [same, if_false, sourceFound, destinationFound,
      PacketStore.copyWindow_eq_of_copyObstacle? obstacle,
      Registry.modify_const_eq_self destinationFound]

/-- A copy that nothing stands against is carried out. -/
theorem Sound.exists_copyBetween_eq (sound : service.Sound) {order : CopyOrder}
    {kind : WindowKind} {source destination : PacketStore}
    (sourceFound : service.registry.get? order.source = some source)
    (destinationFound : service.registry.get? order.destination = some destination)
    (free : source.copyObstacle? destination
      (Window.ofKind kind order.start order.stop) = none) :
    ∃ next notices, service.copyBetween order kind = (next, .ofNotices notices) := by
  have different : order.source ≠ order.destination := by
    intro same
    rw [same, destinationFound] at sourceFound
    cases sourceFound
    rw [PacketStore.copyObstacle?_self] at free
    cases free
  have sourceSound := sound.stores sourceFound
  rcases PacketStore.exists_copyWindow_eq_ok sourceSound.ordered sourceSound.nonempty
    free with ⟨outcome, completed⟩
  have ends : service.registry.sourceAndDestination? order.source order.destination =
      some (source, destination) :=
    Registry.sourceAndDestination?_eq_some_iff.mpr ⟨different, sourceFound, destinationFound⟩
  simp only [copyBetween, ends, completed]
  exact ⟨_, _, rfl⟩

/-- Between existing stores, the kind of the window is looked at before anything
else. -/
theorem Sound.comesTo_copy_of_found (sound : service.Sound) {order : CopyOrder}
    {source destination : PacketStore}
    (sourceFound : service.registry.get? order.source = some source)
    (destinationFound : service.registry.get? order.destination = some destination) :
    ∃ decision,
      Decides
        (⟨∀ kind : WindowKind, order.windowCode ≠ kind.code,
            Verdict.unknownWindow order.windowCode⟩ ::
          (order.grounds source destination).map
            (Ground.map (.failure order.destination))) decision ∧
      service.ComesTo (.copy order) decision := by
  cases named : WindowKind.ofCode order.windowCode with
  | error unknown =>
      have unnamed (kind : WindowKind) : order.windowCode ≠ kind.code := by
        intro isCode
        rw [WindowKind.ofCode_eq_ok_iff.mpr isCode] at named
        cases named
      rw [WindowKind.ofCode_eq_error unnamed] at named
      cases named
      refine ⟨some (.unknownWindow order.windowCode), .here unnamed, ?_⟩
      simp [ComesTo, Service.perform, Service.copy, Registry.contains, sourceFound,
        destinationFound, WindowKind.ofCode_eq_error unnamed, Verdict.failures,
        Verdict.internalErrors]
  | ok kind =>
      have isCode := WindowKind.ofCode_eq_ok_iff.mp named
      have decided : Decides (order.grounds source destination) _ :=
        CopyOrder.decides_copyObstacle? (sound.stores sourceFound) isCode
      have performed : service.perform (.copy order) = service.copyBetween order kind := by
        simp [Service.perform, Service.copy, Registry.contains, sourceFound,
          destinationFound, named]
      refine ⟨_, .later (fun unnamed => unnamed kind isCode) (decided.map _), ?_⟩
      cases obstacle : source.copyObstacle? destination
          (Window.ofKind kind order.start order.stop) with
      | none =>
          rcases sound.exists_copyBetween_eq sourceFound destinationFound obstacle with
            ⟨next, notices, carried⟩
          exact comesTo_of_carriedOut (performed.trans carried)
      | some cause =>
          exact comesTo_of_rejected (performed.trans
            (copyBetween_eq_of_copyObstacle? sourceFound destinationFound obstacle))

theorem Sound.comesTo_copy (sound : service.Sound) (order : CopyOrder) :
    ∃ decision, Decides (Item.grounds service (.copy order)) decision ∧
      service.ComesTo (.copy order) decision := by
  simp only [Item.grounds]
  cases sourceFound : service.registry.get? order.source with
  | none =>
      refine ⟨some (.failure order.source .storeMissing), .here trivial, ?_⟩
      apply comesTo_of_rejected
      simp [Service.perform, Service.copy, Registry.contains, sourceFound,
        Item.messageType]
  | some source =>
      cases destinationFound : service.registry.get? order.destination with
      | none =>
          refine ⟨some (.failure order.destination .storeMissing), .here trivial, ?_⟩
          apply comesTo_of_rejected
          simp [Service.perform, Service.copy, Registry.contains, sourceFound,
            destinationFound, Item.messageType]
      | some destination => exact sound.comesTo_copy_of_found sourceFound destinationFound

/-- An item comes to what its grounds decide. -/
theorem Sound.comesTo_perform (sound : service.Sound)
    (valid : service.config.check = .ok ()) (item : Item) :
    ∃ decision, Decides (item.grounds service) decision ∧
      service.ComesTo item decision := by
  cases item with
  | act id action => exact comesTo_act id action
  | create definition => exact sound.comesTo_create valid definition
  | delete id => exact comesTo_delete id
  | copy order => exact sound.comesTo_copy order

/-! ## Items of a telecommand -/

/-- What becomes of an item of a telecommand, in terms of the grounds against it. -/
structure Settles (service : Service) (item : Item) (request : MessageType) : Prop where
  accepted_iff :
    (service.perform item).2.failures = [] ∧
        (service.perform item).2.internalErrors = [] ↔
      ∀ ground ∈ item.grounds service, ¬ ground.applies
  /-- The first ground that applies is answered once, and nothing else happens. -/
  turned_down : ∀ (earlier : List (Ground Verdict)) (ground : Ground Verdict)
      (later : List (Ground Verdict)),
    item.grounds service = earlier ++ ground :: later →
    (∀ other ∈ earlier, ¬ other.applies) → ground.applies →
    (service.perform item).1 = service ∧
      (service.perform item).2.failures = ground.answer.failures request ∧
      (service.perform item).2.internalErrors = ground.answer.internalErrors

theorem settles_of_comesTo {item : Item} {decision : Option Verdict}
    (decides : Decides (item.grounds service) decision)
    (comesTo : service.ComesTo item decision) :
    service.Settles item item.messageType where
  accepted_iff := by
    rw [← decides.eq_none_iff]
    cases decision with
    | none => exact iff_of_true comesTo rfl
    | some verdict =>
        rcases comesTo with ⟨-, failures_eq, internalErrors_eq⟩
        rw [failures_eq, internalErrors_eq]
        cases verdict <;> simp [Verdict.failures, Verdict.internalErrors]
  turned_down := by
    intro earlier ground later split passed applies
    rw [split] at decides
    rw [decides.eq_some passed applies] at comesTo
    exact comesTo

theorem Sound.settles (sound : service.Sound) (valid : service.config.check = .ok ())
    (item : Item) : service.Settles item item.messageType := by
  rcases sound.comesTo_perform valid item with ⟨decision, decides, comesTo⟩
  exact settles_of_comesTo decides comesTo

end Service

/-- A telecommand with items has nothing to report. -/
theorem Request.reporting_of_mem_items {registry : Registry} {request : Request}
    {item : Item} (member : item ∈ request.items registry) :
    request.reporting registry = .silent := by
  cases request with
  | reportContentSummary | reportStatus | reportConfiguration => cases member
  | _ => rfl

/-- A summary fails for the missing stores, in the order in which they are asked
for. -/
theorem Registry.summaryEmission_eq (registry : Registry) (stores : List StoreId) :
    registry.summaryEmission stores =
      ⟨[.contentSummary (stores.filterMap fun id => (registry.get? id).map (·.summary id))],
        (stores.filter fun id => !registry.contains id).map
          fun id => ⟨.reportContentSummary, some id, .storeMissing⟩,
        [],
        (stores.filter fun id => !registry.contains id).map
          fun id => .rejected .reportContentSummary id .storeMissing⟩ := by
  unfold summaryEmission
  induction stores.filter fun id => !registry.contains id with
  | nil => rfl
  | cons id rest ih =>
      rw [List.foldr_cons, ih]
      rfl

namespace Service

/-- A telecommand is carried out as the items before a given one, that item and the
items after it. -/
theorem execute_eq_of_items_eq {service : Service} {request : Request}
    {earlier later : List Item} {item : Item}
    (split : request.items service.registry = earlier ++ item :: later) :
    service.execute request =
      ((((service.performEach earlier).1.perform item).1.performEach later).1,
        .ofNotices [.executing request.messageType] ++
          ((service.performEach earlier).2 ++
            (((service.performEach earlier).1.perform item).2 ++
              (((service.performEach earlier).1.perform item).1.performEach later).2))) := by
  have member : item ∈ request.items service.registry := by
    rw [split]
    exact List.mem_append_right _ List.mem_cons_self
  simp only [execute, split, performEach_append, performEach_cons,
    Request.reporting_of_mem_items member, Emission.append_silent]

/-- In every state of every run, a telecommand is carried out item by item, one for each
store or entry that it lists and in the order of its list, and each item is settled by
the first ground that applies to it just before it.  A summary of the content, which has
no items, fails for each missing store and changes nothing. -/
theorem first_ground_settles_each_item {config : Config} (valid : config.check = .ok ())
    (clock : Clock) :
    ∃ fresh notices, start config clock = .ok (fresh, notices) ∧
      ∀ (operations : List Operation) (request : Request),
        request.Asks (fresh.run operations).1.registry
          (request.items (fresh.run operations).1.registry) ∧
        (∀ earlier item later,
          request.items (fresh.run operations).1.registry = earlier ++ item :: later →
          ∃ (before after final : Service) (soFar own others : Emission),
            (fresh.run operations).1.performEach earlier = (before, soFar) ∧
            before.perform item = (after, own) ∧
            after.performEach later = (final, others) ∧
            (fresh.run operations).1.execute request =
              (final, .ofNotices [.executing request.messageType] ++
                (soFar ++ (own ++ others))) ∧
            before.Settles item request.messageType) ∧
        ∀ stores, request = .reportContentSummary stores →
          ((fresh.run operations).1.execute request).1 = (fresh.run operations).1 ∧
          ((fresh.run operations).1.execute request).2.failures =
            (((fresh.run operations).1.registry.targets stores).filter fun id =>
              !(fresh.run operations).1.registry.contains id).map
                (fun id => ⟨request.messageType, some id, .storeMissing⟩) ∧
          ((fresh.run operations).1.execute request).2.internalErrors = [] := by
  rcases exists_start_eq_ok valid clock with ⟨router, started⟩
  refine ⟨_, _, started, ?_⟩
  intro operations request
  have config_eq : (run ⟨config, Registry.empty config.maxStores.toNat, router, clock⟩
      operations).1.config = config := config_run _ operations
  have sound := (sound_of_start_eq_ok started).run operations
  generalize (run _ operations).1 = reached at config_eq sound ⊢
  constructor
  · exact request.asks_items reached.registry
  constructor
  · intro earlier item later split
    have beforeValid : (reached.performEach earlier).1.config.check = .ok () := by
      rw [(reached.performEach_frame earlier).1, config_eq]
      exact valid
    have settles := (sound.performEach earlier).settles beforeValid item
    have member : item ∈ request.items reached.registry := by
      rw [split]
      exact List.mem_append_right _ List.mem_cons_self
    rw [Request.messageType_of_mem_items member] at settles
    exact ⟨_, _, _, _, _, _, rfl, rfl, rfl, execute_eq_of_items_eq split, settles⟩
  · rintro stores rfl
    have summary_eq := reached.registry.summaryEmission_eq (reached.registry.targets stores)
    constructor
    · rfl
    · constructor
      · exact congrArg Emission.failures summary_eq
      · exact congrArg Emission.internalErrors summary_eq

/-- Of two creations of one store in a telecommand, the second is turned down because
the store exists, although its channel and size are unacceptable as well. -/
theorem repeated_store_exists_before_anything_else :
    let id : StoreId := ⟨"log", by decide, by decide⟩
    let first : StoreDefinition := ⟨id, 100, .circular, 1⟩
    let second : StoreDefinition := ⟨id, 0, .circular, 99⟩
    Config.standard.check = .ok () ∧
    ∃ fresh notices before soFar own, start Config.standard ⟨7⟩ = .ok (fresh, notices) ∧
      fresh.performEach [.create first] = (before, soFar) ∧
      before.perform (.create second) = (before, own) ∧
      own.failures = [⟨.createStores, some id, .storeExists⟩] ∧
      own.internalErrors = [] := by
  intro id first second
  refine ⟨rfl, ?_⟩
  rcases first_ground_settles_each_item (rfl : Config.standard.check = .ok ()) ⟨7⟩ with
    ⟨fresh, notices, started, law⟩
  have fresh_eq : start Config.standard ⟨7⟩ =
      .ok (⟨Config.standard, Registry.empty 4, Router.empty, ⟨7⟩⟩, []) := rfl
  rcases (law [] (.createStores [first, second])).2.1 [.create first] (.create second) [] rfl with
    ⟨before, after, final, soFar, own, others, begun, performed, -, -, settles⟩
  have exists_id : before.registry.get? id ≠ none := by
    rw [fresh_eq] at started
    cases started
    cases begun
    decide +kernel
  rcases settles.turned_down [] _ _ rfl (by simp) exists_id with
    ⟨unchanged, failures_eq, internalErrors_eq⟩
  rw [performed] at unchanged failures_eq internalErrors_eq
  have same : after = before := unchanged
  rw [same] at performed
  exact ⟨fresh, notices, before, soFar, own, started, begun, performed, failures_eq,
    internalErrors_eq⟩

end Service

end OnboardStorage
