import OnboardStorage.Proofs.Outcome

/-!
# Where a store comes from

A store that is found after an item, or after a telemetry report, was either
found before under the same identifier or is the outcome of exactly one change:
an action that nothing stood against, a creation, a copy into it or a report
filed into it.  A condition on stores is therefore kept by the service as soon
as each of these keeps it.
-/

namespace OnboardStorage.Service

/-- Where a store found under `id` after one step of `service` comes from. -/
inductive StoreOrigin (service : Service) (id : StoreId) : PacketStore → Prop
  | kept {store : PacketStore} (found : service.registry.get? id = some store) :
      StoreOrigin service id store
  | acted {store : PacketStore} {action : Action}
      (found : service.registry.get? id = some store)
      (free : action.obstacle? service.config store = none) :
      StoreOrigin service id (action.effect service.config store)
  | created {capacity : UInt32} {kind : StoreKind} {channel : UInt8}
      (size : service.config.acceptsStoreSize capacity = true)
      (valid : service.config.virtualChannels.contains channel = true) :
      StoreOrigin service id (PacketStore.create capacity kind channel)
  | copied {other : StoreId} {source destination : PacketStore} (window : Window)
      (sourceFound : service.registry.get? other = some source)
      (destinationFound : service.registry.get? id = some destination) :
      StoreOrigin service id (source.copyWindow destination window).1
  | filed {store grown : PacketStore} {packet : Packet} {evicted : Nat}
      (found : service.registry.get? id = some store)
      (short : packet.size ≤ service.config.maxMessageBytes.toNat)
      (taken : store.Takes packet grown evicted) :
      StoreOrigin service id grown

variable {service : Service} {id : StoreId} {after : PacketStore}

theorem origin_of_get?_modify {target : StoreId} {change : PacketStore → PacketStore}
    (changed : ∀ {before}, service.registry.get? target = some before →
      service.StoreOrigin target (change before))
    (found : (service.registry.modify target change).get? id = some after) :
    service.StoreOrigin id after := by
  rw [Registry.get?_modify] at found
  split at found
  · rename_i same
    subst same
    rcases Option.map_eq_some_iff.mp found with ⟨before, held, rfl⟩
    exact changed held
  · exact .kept found

theorem origin_perform {item : Item}
    (found : (service.perform item).1.registry.get? id = some after) :
    service.StoreOrigin id after := by
  have outcome := service.outcome_perform item
  generalize service.perform item = result at outcome found
  cases outcome with
  | refused unclean => exact .kept found
  | acted targetFound free =>
      apply origin_of_get?_modify _ found
      intro before held
      rw [targetFound] at held
      cases held
      exact .acted targetFound free
  | created absent room channel size =>
      rw [Registry.get?_insert] at found
      split at found
      · cases found
        exact .created size channel
      · exact .kept found
  | deleted targetFound free unrouted =>
      rw [Registry.get?_remove] at found
      split at found
      · cases found
      · exact .kept found
  | copied different sourceFound destinationFound known =>
      apply origin_of_get?_modify _ found
      intro before held
      exact .copied _ sourceFound destinationFound

theorem origin_storeReport {serviceType : UInt8} {data : List UInt8}
    (found : (service.storeReport serviceType data).1.registry.get? id = some after) :
    service.StoreOrigin id after := by
  have outcome := service.outcome_storeReport serviceType data
  generalize (service.storeReport serviceType data).2.1 = answer at outcome
  generalize (service.storeReport serviceType data).1 = next at outcome found
  cases outcome with
  | dropped unstored => exact .kept found
  | stored routed targetFound enabled short taken =>
      apply origin_of_get?_modify _ found
      intro before held
      have small : Packet.size ⟨service.clock.reading, data⟩ ≤
          service.config.maxMessageBytes.toNat := short
      exact .filed targetFound small taken

end OnboardStorage.Service
