import OnboardStorage.Proofs.PacketStore.Insertion
import OnboardStorage.Service

/-!
# Filing a telemetry report

A report passes the routing table, the registry, the storage flag, the limit of the
platform and the rules of the store it is routed to, in this order, and the first of
them that stands against it answers it.  A report that is not stored leaves the whole
service as it was.  One that is stored becomes the newest packet of its store, which
gives up as few packets for it as it can; and nothing else changes.  All of this holds
in every state, be it reached by a run or not.
-/

namespace OnboardStorage.Service

/-- What stands against filing a message into `store`, under the limit of the platform
and the rules of the store. -/
def filingGrounds (service : Service) (store : PacketStore) (data : List UInt8) :
    List (Ground (Except Refusal Insertion)) :=
  ⟨store.storageEnabled = false, .ok .storageDisabled⟩ ::
    ⟨service.config.maxMessageBytes.toNat < data.length,
      .error (.exceedsMessageLimit data.length
        service.config.maxMessageBytes.toNat)⟩ ::
    (store.refusalGrounds ⟨service.clock.reading, data⟩).map (Ground.map .error)

/-- What a report is answered with when it is not stored. -/
def reportGrounds (service : Service) (serviceType : UInt8) (data : List UInt8) :
    List (Ground (Except Refusal Insertion)) :=
  match service.router.destination? serviceType with
  | none => [⟨True, .ok .notRouted⟩]
  | some id =>
      match service.registry.get? id with
      | none => [⟨True, .error .unknownStore⟩]
      | some store => service.filingGrounds store data

/-- What storing `packet` in the store named `id` makes of a service, when `evicted`
packets make room for it. -/
structure Files (service : Service) (id : StoreId) (store : PacketStore)
    (packet : Packet) (evicted : Nat) (next : Service) : Prop where
  config : next.config = service.config
  router : next.router = service.router
  clock : next.clock = service.clock
  limit : next.registry.limit = service.registry.limit
  others : ∀ other, other ≠ id → next.registry.get? other = service.registry.get? other
  grown : next.registry.get? id = some { store with
    content := .ofPackets (store.packets.drop evicted ++ [packet]) }
  evicted_le : evicted ≤ store.packets.length
  fits : Packet.totalSize (store.packets.drop evicted ++ [packet]) ≤ store.capacity.toNat
  needed : ∀ fewer < evicted,
    store.capacity.toNat < Packet.totalSize (store.packets.drop fewer ++ [packet])
  unmoved : store.kind = .bounded → evicted = 0

variable {service : Service}

theorem files_modify {id : StoreId} {store grown : PacketStore} {packet : Packet}
    {evicted : Nat} (found : service.registry.get? id = some store)
    (taken : store.Takes packet grown evicted)
    (unmoved : store.kind = .bounded → evicted = 0) :
    service.Files id store packet evicted
      { service with registry := service.registry.modify id fun _ => grown } where
  config := rfl
  router := rfl
  clock := rfl
  limit := rfl
  others other different := by
    rw [Registry.get?_modify, if_neg different.symm]
  grown := by
    rw [Registry.get?_modify, if_pos rfl, found, taken.grown_eq]
    rfl
  evicted_le := taken.evicted_le
  fits := by
    rw [← taken.packets]
    exact taken.fits
  needed := taken.needed
  unmoved := unmoved

/-- A message for a store that exists is answered by the first ground, and the service
stays as it was; without one the store takes it. -/
theorem exists_decision_filing {serviceType : UInt8} {id : StoreId} {store : PacketStore}
    (routed : service.router.destination? serviceType = some id)
    (found : service.registry.get? id = some store) (data : List UInt8) :
    ∃ decision, Decides (service.filingGrounds store data) decision ∧
      match decision with
      | some answer =>
          (service.storeReport serviceType data).1 = service ∧
            (service.storeReport serviceType data).2.1 = answer
      | none => ∃ evicted,
          (service.storeReport serviceType data).2.1 = .ok (.stored evicted) ∧
          service.Files id store ⟨service.clock.reading, data⟩ evicted
            (service.storeReport serviceType data).1 := by
  simp only [storeReport, routed, found]
  cases enabled : store.storageEnabled with
  | false => exact ⟨_, .here enabled, rfl, rfl⟩
  | true =>
      have passes : ¬ store.storageEnabled = false := by simp [enabled]
      by_cases long : service.config.maxMessageBytes.toNat < data.length
      · exact ⟨_, .later passes (.here long), by simp [long]⟩
      rcases PacketStore.exists_decision_file enabled ⟨service.clock.reading, data⟩ with
        ⟨decision, decides, outcome⟩
      refine ⟨_, .later passes (.later long (decides.map Except.error)), ?_⟩
      cases decision with
      | some refusal =>
          simp [long, outcome, Registry.modify_const_eq_self found]
      | none =>
          rcases outcome with ⟨grown, evicted, filed, taken, unmoved⟩
          refine ⟨evicted, ?_, ?_⟩
          · simp [long, filed]
          · simpa [long, filed] using files_modify found taken unmoved

/-- A report is answered by the first ground that stands against storing it, and the
service stays as it was.  Without one it is stored in the store it is routed to,
stamped with the reading of the clock. -/
theorem report_is_filed_or_changes_nothing (service : Service) (serviceType : UInt8)
    (data : List UInt8) :
    ∃ decision, Decides (service.reportGrounds serviceType data) decision ∧
      match decision with
      | some answer =>
          (service.storeReport serviceType data).1 = service ∧
            (service.storeReport serviceType data).2.1 = answer
      | none => ∃ id store evicted,
          service.router.destination? serviceType = some id ∧
          service.registry.get? id = some store ∧
          (service.storeReport serviceType data).2.1 = .ok (.stored evicted) ∧
          service.Files id store ⟨service.clock.reading, data⟩ evicted
            (service.storeReport serviceType data).1 := by
  cases routed : service.router.destination? serviceType with
  | none =>
      simp only [reportGrounds, storeReport, routed]
      exact ⟨_, .here trivial, trivial, rfl⟩
  | some id =>
      cases found : service.registry.get? id with
      | none =>
          simp only [reportGrounds, storeReport, routed, found]
          exact ⟨_, .here trivial, trivial, rfl⟩
      | some store =>
          have grounds_eq : service.reportGrounds serviceType data =
              service.filingGrounds store data := by
            simp only [reportGrounds, routed, found]
          rw [grounds_eq]
          rcases exists_decision_filing routed found data with ⟨decision, decides, outcome⟩
          refine ⟨decision, decides, ?_⟩
          cases decision with
          | some answer => exact outcome
          | none =>
              rcases outcome with ⟨evicted, answered, files⟩
              exact ⟨id, store, evicted, rfl, found, answered, files⟩

end OnboardStorage.Service
