import OnboardStorage.Proofs.Retention.History
import OnboardStorage.Proofs.Soundness.Run

/-!
# Nothing is lost without need

A journal is written beside a run.  Every accepted item that bears on the
content of a store, and every report that is stored, adds entries to it; what
is rejected or dropped adds none.  The history of a store is read off the
journal: its own deeds since it was last created.

In every state of every run, each store then holds exactly what the rule of
retention leaves of the packets it has accepted.  Nothing is said about the
kind of a store, so the kind may change at any time.
-/

namespace OnboardStorage

/-- An entry of a journal. -/
inductive Entry where
  | created (store : StoreId)
  | done (store : StoreId) (deed : Deed)
  deriving DecidableEq

/-- Histories of stores, by their identifiers. -/
def Histories :=
  StoreId → List Deed

namespace Histories

/-- Histories of stores of which nothing is known. -/
def none : Histories :=
  fun _ => []

/-- Histories after one more entry: creation begins a history anew. -/
def record (histories : Histories) : Entry → Histories
  | .created store => fun id => if store = id then [] else histories id
  | .done store deed =>
      fun id => if store = id then histories id ++ [deed] else histories id

/-- Histories after further entries. -/
def after (histories : Histories) (entries : List Entry) : Histories :=
  entries.foldl record histories

theorem after_append (histories : Histories) (first second : List Entry) :
    histories.after (first ++ second) = (histories.after first).after second :=
  List.foldl_append

theorem after_done (histories : Histories) (store : StoreId) (deeds : List Deed)
    (id : StoreId) :
    histories.after (deeds.map (Entry.done store)) id =
      if store = id then histories id ++ deeds else histories id := by
  induction deeds generalizing histories with
  | nil => simp [after]
  | cons deed rest ih =>
      refine (ih (histories.record (.done store deed))).trans ?_
      by_cases same : store = id
      · simp [record, same]
      · simp [record, same]

end Histories

/-- What a journal says of a store since it was last created. -/
def Entry.historyOf (id : StoreId) (journal : List Entry) : List Deed :=
  Histories.none.after journal id

namespace Service

/-! ## Entries of items and reports -/

/-- The deeds of an accepted copy. -/
def copyDeeds (service : Service) (order : CopyOrder) : List Deed :=
  match service.registry.get? order.source, service.registry.get? order.destination,
      WindowKind.ofCode order.windowCode with
  | some source, some destination, .ok kind =>
      let window := Window.ofKind kind order.start order.stop
      (destination.admitted (source.selected window)).map
        (Deed.filed · destination.capacity)
  | _, _, _ => []

/-- Entries of an item if it is accepted. -/
def acceptedEntries (service : Service) : Item → List Entry
  | .create definition => [.created definition.id]
  | .act id (.resize size) => [.done id (.resized size)]
  | .act id (.deleteContent limit) => [.done id (.trimmed limit)]
  | .copy order => (service.copyDeeds order).map (.done order.destination)
  | _ => []

/-- Entries of an item.  An item that is rejected, or ends in an internal
error, leaves none. -/
def itemEntries (service : Service) (item : Item) : List Entry :=
  if (service.perform item).2.isClean then service.acceptedEntries item else []

def itemsEntries (service : Service) : List Item → List Entry
  | [] => []
  | item :: rest =>
      service.itemEntries item ++ (service.perform item).1.itemsEntries rest

/-- Entries of a report, which is stored with the clock as it stands. -/
def reportEntries (service : Service) (serviceType : UInt8) (data : List UInt8) :
    List Entry :=
  match (service.storeReport serviceType data).2.1,
      service.router.destination? serviceType with
  | .ok (.stored _), some id =>
      match service.registry.get? id with
      | some store => [.done id (.filed ⟨service.clock.reading, data⟩ store.capacity)]
      | none => []
  | _, _ => []

/-- Entries of an operation. -/
def entries (service : Service) : Operation → List Entry
  | .execute request => service.itemsEntries (request.items service.registry)
  | .report serviceType data => service.reportEntries serviceType data
  | _ => []

/-- The journal of a run. -/
def journal (service : Service) : List Operation → List Entry
  | [] => []
  | operation :: rest =>
      service.entries operation ++ (service.operate operation).1.journal rest

/-! ## Every step follows the rule -/

/-- Every store holds what its history leaves it. -/
def Retains (service : Service) (histories : Histories) : Prop :=
  ∀ id store, service.registry.get? id = some store → store.Retains (histories id)

variable {service : Service} {histories : Histories}

/-- A change of one store extends its history and no other. -/
theorem Retains.modify (retains : service.Retains histories) {target : StoreId}
    {before : PacketStore} (found : service.registry.get? target = some before)
    (change : PacketStore → PacketStore) (deeds : List Deed)
    (changed : (change before).Retains (histories target ++ deeds)) :
    Retains { service with registry := service.registry.modify target change }
      (histories.after (deeds.map (Entry.done target))) := by
  intro id store held
  rw [Registry.get?_modify] at held
  rw [Histories.after_done]
  by_cases same : target = id
  · subst same
    rw [if_pos rfl, found] at held
    cases held
    rw [if_pos rfl]
    exact changed
  · rw [if_neg same] at held ⊢
    exact retains id store held

/-- An action extends the history of its store, if it bears on the content. -/
theorem Retains.act (retains : service.Retains histories) (sound : service.Sound)
    {target : StoreId} {before : PacketStore}
    (found : service.registry.get? target = some before) (action : Action) :
    Retains
      { service with
        registry := service.registry.modify target
          fun store => action.effect service.config store }
      (histories.after (service.acceptedEntries (.act target action))) := by
  have kept := retains target before found
  cases action with
  | resize size =>
      exact retains.modify found _ [.resized size] (kept.resize size)
  | deleteContent limit =>
      exact retains.modify found _ [.trimmed limit]
        (kept.deleteUntil (sound.stores found) limit)
  | _ =>
      refine retains.modify found _ [] ?_
      rw [List.append_nil]
      exact kept.of_packets_eq rfl

theorem Retains.insert (retains : service.Retains histories) (id : StoreId)
    {store : PacketStore} (empty : store.Retains []) :
    Retains
      { service with
        registry := { service.registry with
          stores := service.registry.stores.insert id store } }
      (histories.after [.created id]) := by
  intro other held found
  have history_eq : histories.after [.created id] other =
      if id = other then [] else histories other := rfl
  rw [Registry.get?_insert] at found
  rw [history_eq]
  by_cases same : id = other
  · rw [if_pos same] at found ⊢
    cases found
    exact empty
  · rw [if_neg same] at found ⊢
    exact retains other held found

theorem Retains.perform (retains : service.Retains histories) (sound : service.Sound)
    (item : Item) :
    (service.perform item).1.Retains (histories.after (service.itemEntries item)) := by
  have outcome := service.outcome_perform item
  unfold itemEntries
  generalize service.perform item = result at outcome
  cases outcome with
  | refused unclean =>
      simp only [unclean, Bool.false_eq_true, if_false]
      exact retains
  | acted found free =>
      simp only [Emission.isClean_ofNotices, if_true]
      exact retains.act sound found _
  | created absent room channel size =>
      simp only [Emission.isClean_ofNotices, if_true]
      exact retains.insert _ (PacketStore.retains_create _ _ _)
  | @deleted target before found free unrouted =>
      intro id store held
      rw [Registry.get?_remove] at held
      split at held
      · cases held
      · exact retains id store held
  | @copied order kind source destination different sourceFound destinationFound known =>
      have kept := retains _ _ destinationFound
      have sourceSound := sound.stores sourceFound
      cases answered : (source.copyWindow destination
          (Window.ofKind kind order.start order.stop)).2 with
      | ok outcome =>
          simp only [Emission.isClean_ofNotices, if_true]
          refine retains.modify destinationFound _ (service.copyDeeds order) ?_
          simp only [copyDeeds, sourceFound, destinationFound, known]
          exact kept.copyWindow answered
      | error cause =>
          simp only [Emission.isClean_rejection, Bool.false_eq_true, if_false]
          have unchanged := PacketStore.copyWindow_eq_of_error sourceSound.ordered
            sourceSound.nonempty answered
          refine retains.modify destinationFound _ [] ?_
          rw [List.append_nil, unchanged]
          exact kept

theorem Retains.performEach (retains : service.Retains histories)
    (sound : service.Sound) (items : List Item) :
    (service.performEach items).1.Retains
      (histories.after (service.itemsEntries items)) := by
  induction items generalizing service histories with
  | nil => exact retains
  | cons item rest ih =>
      rw [itemsEntries, Histories.after_append]
      exact ih (retains.perform sound item) (sound.perform item)

theorem Retains.storeReport (retains : service.Retains histories) (serviceType : UInt8)
    (data : List UInt8) :
    (service.storeReport serviceType data).1.Retains
      (histories.after (service.reportEntries serviceType data)) := by
  have outcome := service.outcome_storeReport serviceType data
  unfold reportEntries
  generalize (service.storeReport serviceType data).2.1 = answer at outcome
  generalize (service.storeReport serviceType data).1 = next at outcome
  cases outcome with
  | dropped unstored =>
      split
      · exact absurd rfl (unstored _)
      · exact retains
  | stored routed found enabled short taken =>
      simp only [routed, found]
      exact retains.modify found _ [_] ((retains _ _ found).takes taken)

/-- Every operation that does not replace all stores follows the rule. -/
theorem Retains.operate (retains : service.Retains histories) (sound : service.Sound)
    {operation : Operation} (lasting : operation.replacesStores = false) :
    (service.operate operation).1.Retains
      (histories.after (service.entries operation)) := by
  cases operation with
  | execute request => exact retains.performEach sound _
  | report serviceType data => exact retains.storeReport serviceType data
  | route serviceType store =>
      simp only [Service.operate]
      split <;> exact retains
  | setClock tag => exact retains
  | advanceClock duration => exact retains
  | unroute serviceType => exact retains
  | clearRoutes => exact retains
  | reset => cases lasting
  | restore snapshot => cases lasting

theorem Retains.run (retains : service.Retains histories) (sound : service.Sound)
    {operations : List Operation}
    (lasting : ∀ operation ∈ operations, operation.replacesStores = false) :
    (service.run operations).1.Retains
      (histories.after (service.journal operations)) := by
  induction operations generalizing service histories with
  | nil => exact retains
  | cons operation rest ih =>
      obtain ⟨first, others⟩ := List.forall_mem_cons.mp lasting
      rw [journal, Histories.after_append]
      exact ih (retains.operate sound first) (sound.operate operation) others

/-- In every state of every run of a service started from a checked
configuration, each store holds the longest part, counted from the newest
packet, of what it accepted since its creation that all capacities in force and
all deletions allowed at their time. -/
theorem every_store_keeps_the_longest_part {config : Config}
    (valid : config.check = .ok ()) (clock : Clock) :
    ∃ fresh notices, start config clock = .ok (fresh, notices) ∧
      ∀ operations : List Operation,
        (∀ operation ∈ operations, operation.replacesStores = false) →
        ∀ id store, (fresh.run operations).1.registry.get? id = some store →
          Deed.KeepLongest (Entry.historyOf id (fresh.journal operations))
            store.packets := by
  obtain ⟨router, started⟩ := exists_start_eq_ok valid clock
  refine ⟨_, _, started, ?_⟩
  intro operations lasting
  have sound := sound_of_start_eq_ok started
  have empty : Retains ⟨config, Registry.empty config.maxStores.toNat, router, clock⟩
      Histories.none := by
    intro id store found
    cases found
  exact empty.run sound lasting

/-- Of two reports of three bytes, a store of five bytes keeps the second. -/
theorem small_store_keeps_the_longest_part :
    let id : StoreId := ⟨"log", by decide, by decide⟩
    let operations : List Operation :=
      [.execute (.createStores [⟨id, 5, .circular, 1⟩]), .execute (.enableStorage []),
        .route 3 id, .report 3 [1, 2, 3], .setClock 9, .report 3 [4, 5, 6]]
    ∃ fresh notices store, start Config.standard ⟨7⟩ = .ok (fresh, notices) ∧
      (fresh.run operations).1.registry.get? id = some store ∧
      store.packets = [⟨9, [4, 5, 6]⟩] ∧
      Deed.KeepLongest (Entry.historyOf id (fresh.journal operations))
        store.packets := by
  intro id operations
  obtain ⟨fresh, notices, started, retained⟩ :=
    every_store_keeps_the_longest_part (rfl : Config.standard.check = .ok ()) ⟨7⟩
  have fresh_eq : start Config.standard ⟨7⟩ =
      .ok (⟨Config.standard, Registry.empty 4, Router.empty, ⟨7⟩⟩, []) := rfl
  rw [fresh_eq] at started
  cases started
  have lasting : ∀ operation ∈ operations, operation.replacesStores = false := by
    decide
  have found : ((run ⟨Config.standard, Registry.empty 4, Router.empty, ⟨7⟩⟩
      operations).1.registry.get? id).map PacketStore.packets =
        some [⟨9, [4, 5, 6]⟩] := by
    decide +kernel
  obtain ⟨store, held, packets_eq⟩ := Option.map_eq_some_iff.mp found
  exact ⟨_, _, store, fresh_eq, held, packets_eq, retained operations lasting id store held⟩

end Service

end OnboardStorage
