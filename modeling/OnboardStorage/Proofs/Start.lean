import OnboardStorage.Proofs.Check
import OnboardStorage.Service

/-!
# Starting the service

A configuration is checked before its routes are put into a routing table of
bounded size.  The check leaves nothing for the table to refuse: whatever
passes it starts a service.
-/

namespace OnboardStorage

namespace Config

/-- No route is reported exactly when no service type occurs twice. -/
theorem repeatedRoute?_eq_none_iff {index : Nat} {seen : List UInt8}
    {routes : List Route} :
    repeatedRoute? index seen routes = none ↔
      (routes.map Route.serviceType).Nodup ∧
        ∀ route ∈ routes, route.serviceType ∉ seen := by
  induction routes generalizing index seen with
  | nil => simp [repeatedRoute?]
  | cons route rest ih =>
      rw [repeatedRoute?]
      by_cases repeated : route.serviceType ∈ seen
      · simp [repeated]
      · rw [if_neg repeated, ih, List.map_cons, List.nodup_cons, List.forall_mem_cons]
        simp only [List.mem_cons, not_or, List.mem_map, not_exists, not_and]
        constructor
        · rintro ⟨distinct, unseen⟩
          exact ⟨⟨fun other member => (unseen other member).1, distinct⟩, repeated,
            fun other member => (unseen other member).2⟩
        · rintro ⟨⟨fresh, distinct⟩, -, unseen⟩
          exact ⟨distinct, fun other member => ⟨fresh other member, unseen other member⟩⟩

/-- The configurations that describe a platform. -/
theorem check_eq_ok_iff {config : Config} :
    config.check = .ok () ↔
      (0 < config.maxStores.toNat ∧ config.maxStores.toNat ≤ Limits.stores) ∧
      config.maxStoreBytes ≠ 0 ∧
      (0 < config.maxMessageBytes.toNat ∧
        config.maxMessageBytes.toNat ≤ Limits.messageBytes) ∧
      config.virtualChannels.lowest ≤ config.virtualChannels.highest ∧
      config.routes.length ≤ Limits.routes ∧
      (config.routes.map Route.serviceType).Nodup := by
  have distinct : repeatedRoute? 0 [] config.routes = none ↔
      (config.routes.map Route.serviceType).Nodup := by
    rw [repeatedRoute?_eq_none_iff]
    simp
  unfold check
  simp only [refusing_eq_ok_iff, not_or, Nat.not_lt, UInt8.not_lt, ← distinct,
    Nat.pos_iff_ne_zero, ne_eq]
  cases repeatedRoute? 0 [] config.routes with
  | some found => simp
  | none => simp

end Config

namespace Router

/-- A table takes as many routes as it has room for. -/
theorem exists_routeAll_eq_ok {router : Router} {routes : List Route}
    (room : router.size + routes.length ≤ Limits.routes) :
    ∃ extended, router.routeAll routes = .ok extended := by
  induction routes generalizing router with
  | nil => exact ⟨router, rfl⟩
  | cons route rest ih =>
      rw [List.length_cons] at room
      have free : ¬ ((router.destination? route.serviceType).isNone ∧
          Limits.routes ≤ router.size) := by
        rintro ⟨-, full⟩
        omega
      have grown := router.routes.size_insert_le route.serviceType route.store
      have extendedRoom : (⟨router.routes.insert route.serviceType route.store⟩ :
          Router).size + rest.length ≤ Limits.routes := by
        simp only [size] at room ⊢
        omega
      obtain ⟨extended, added⟩ := ih extendedRoom
      refine ⟨extended, ?_⟩
      rw [routeAll, Router.route, if_neg free]
      exact added

end Router

namespace Service

/-- A checked configuration starts a service without stores. -/
theorem exists_start_eq_ok {config : Config} (valid : config.check = .ok ())
    (clock : Clock) :
    ∃ router, start config clock =
      .ok (⟨config, Registry.empty config.maxStores.toNat, router, clock⟩,
        config.routes.map fun route => .routing route.serviceType route.store) := by
  have room : Router.empty.size + config.routes.length ≤ Limits.routes := by
    have bounded := (Config.check_eq_ok_iff.mp valid).2.2.2.2.1
    have emptySize : Router.empty.size = 0 := rfl
    omega
  obtain ⟨router, routed⟩ := Router.exists_routeAll_eq_ok room
  refine ⟨router, ?_⟩
  rw [start, valid]
  simp only [Router.ofRoutes, routed]

/-- What is known of a service that was started. -/
theorem eq_of_start_eq_ok {config : Config} {clock : Clock} {fresh : Service}
    {notices : List Notice} (started : start config clock = .ok (fresh, notices)) :
    config.check = .ok () ∧ fresh.config = config ∧ fresh.clock = clock ∧
      fresh.registry = Registry.empty config.maxStores.toNat := by
  unfold start at started
  split at started
  · cases started
  · rename_i valid
    split at started
    · cases started
    · cases started
      exact ⟨valid, rfl, rfl, rfl⟩

end Service

end OnboardStorage
