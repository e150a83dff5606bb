import OnboardStorage.Proofs.Soundness.Run

/-!
# What a replay depends on

The lines of a replay depend on configuration, routes and stores, but not on
the clock the replay starts with: a step that stamps a packet sets the clock
first, and no other step looks at it.  Position only numbers the lines.

A sound service is restored from its own snapshot, by any service of the same
configuration and with the very same stores.  So a replay may be interrupted
between any two steps and taken up by a fresh service.
-/

namespace OnboardStorage

/-- A line that stands behind a number of other steps. -/
def Line.shift (steps : Nat) (line : Line) : Line :=
  { line with position := steps + line.position }

theorem Event.lines_shift (steps position : Nat) (events : List Event) :
    Event.lines (steps + position) events =
      (Event.lines position events).map (Line.shift steps) := by
  rw [lines, lines, List.map_map]
  rfl

namespace Service

/-- The service with another clock. -/
def withClock (service : Service) (clock : Clock) : Service :=
  { service with clock := clock }

/-! ## Clocks -/

theorem perform_withClock (service : Service) (clock : Clock) (item : Item) :
    (service.withClock clock).perform item =
      ((service.perform item).1.withClock clock, (service.perform item).2) := by
  cases item with
  | act id action =>
      simp only [perform, act, withClock]
      cases service.registry.get? id with
      | none => rfl
      | some store =>
          cases obstacle : action.obstacle? service.config store <;>
            simp only [obstacle]
  | create definition =>
      have same : (service.withClock clock).creationObstacle? definition =
          service.creationObstacle? definition := rfl
      simp only [perform, create, same]
      cases service.creationObstacle? definition with
      | some cause => rfl
      | none =>
          have registry_eq : (service.withClock clock).registry = service.registry := rfl
          simp only [registry_eq]
          cases service.registry.create definition.id (PacketStore.create definition.size
            definition.kind definition.virtualChannel) <;> rfl
  | delete id =>
      have same : (service.withClock clock).deletionObstacle? id =
          service.deletionObstacle? id := rfl
      simp only [perform, delete, same]
      cases service.deletionObstacle? id with
      | none => rfl
      | some cause => cases cause <;> rfl
  | copy order =>
      have registry_eq : (service.withClock clock).registry = service.registry := rfl
      simp only [perform, copy, registry_eq]
      split
      · rfl
      · split
        · rfl
        · split
          · rfl
          · simp only [copyBetween, registry_eq]
            cases service.registry.sourceAndDestination? order.source
              order.destination <;> rfl

theorem performEach_withClock (service : Service) (clock : Clock) (items : List Item) :
    (service.withClock clock).performEach items =
      ((service.performEach items).1.withClock clock, (service.performEach items).2) := by
  induction items generalizing service with
  | nil => rfl
  | cons item rest ih =>
      rw [performEach_cons, performEach_cons, perform_withClock, ih]

theorem execute_withClock (service : Service) (clock : Clock) (request : Request) :
    (service.withClock clock).execute request =
      ((service.execute request).1.withClock clock, (service.execute request).2) := by
  simp only [execute]
  rw [show (service.withClock clock).registry = service.registry from rfl,
    performEach_withClock]

/-- A step does the same whatever the clock shows before it. -/
theorem take_withClock (service : Service) (clock : Clock) (step : Step) :
    ∃ shown, (service.withClock clock).take step =
      ((service.take step).1.withClock shown, (service.take step).2) := by
  cases step with
  | execute request =>
      refine ⟨clock, ?_⟩
      simp only [take, execute_withClock]
  | telemetry serviceType time payload =>
      exact ⟨(service.take (.telemetry serviceType time payload)).1.clock, rfl⟩

/-- A replay does the same whatever the clock shows before it. -/
theorem replay_withClock (service : Service) (clock : Clock) (position : Nat)
    (steps : List Step) :
    ∃ shown, (service.withClock clock).replay position steps =
      ((service.replay position steps).1.withClock shown,
        (service.replay position steps).2) := by
  induction steps generalizing service clock position with
  | nil => exact ⟨clock, rfl⟩
  | cons step rest ih =>
      obtain ⟨between, taken⟩ := service.take_withClock clock step
      obtain ⟨shown, others⟩ := ih (service.take step).1 between (position + 1)
      refine ⟨shown, ?_⟩
      rw [replay_cons, replay_cons, taken, others]

/-! ## Positions -/

/-- A replay that is numbered from later on differs in the numbers only. -/
theorem replay_shift (service : Service) (steps position : Nat) (script : List Step) :
    service.replay (steps + position) script =
      ((service.replay position script).1,
        (service.replay position script).2.1.map (Line.shift steps),
        (service.replay position script).2.2) := by
  induction script generalizing service position with
  | nil => rfl
  | cons step rest ih =>
      rw [replay_cons, replay_cons, Nat.add_assoc, ih, Event.lines_shift, List.map_append]

/-- Each line of a replay has the position of one of its steps. -/
theorem position_lt_of_mem_replay (service : Service) {position : Nat}
    {script : List Step} {line : Line}
    (member : line ∈ (service.replay position script).2.1) :
    line.position < position + script.length := by
  induction script generalizing service position with
  | nil => cases member
  | cons step rest ih =>
      rw [replay_cons] at member
      rw [List.length_cons]
      rcases List.mem_append.mp member with own | later
      · obtain ⟨event, _, rfl⟩ := List.mem_map.mp own
        exact Nat.lt_add_of_pos_right (Nat.succ_pos _)
      · have bounded := ih _ later
        omega

/-! ## Soundness -/

variable {service : Service}

theorem Sound.take (sound : service.Sound) (step : Step) :
    (service.take step).1.Sound := by
  cases step with
  | execute request => exact sound.execute request
  | telemetry serviceType time payload =>
      have set : Sound { service with clock := service.clock.set time } := { sound with }
      exact set.storeReport serviceType payload

theorem take_frame (service : Service) (step : Step) :
    (service.take step).1.config = service.config ∧
      (service.take step).1.router = service.router := by
  cases step with
  | execute request =>
      obtain ⟨config_eq, router_eq, -⟩ := service.execute_frame request
      exact ⟨config_eq, router_eq⟩
  | telemetry serviceType time payload =>
      obtain ⟨config_eq, router_eq, -⟩ :=
        storeReport_frame { service with clock := service.clock.set time } serviceType
          payload
      exact ⟨config_eq, router_eq⟩

theorem Sound.replay (sound : service.Sound) (position : Nat) (steps : List Step) :
    (service.replay position steps).1.Sound := by
  induction steps generalizing service position with
  | nil => exact sound
  | cons step rest ih => exact ih (sound.take step) (position + 1)

theorem replay_frame (service : Service) (position : Nat) (steps : List Step) :
    (service.replay position steps).1.config = service.config ∧
      (service.replay position steps).1.router = service.router := by
  induction steps generalizing service position with
  | nil => exact ⟨rfl, rfl⟩
  | cons step rest ih =>
      obtain ⟨config_eq, router_eq⟩ := service.take_frame step
      obtain ⟨restConfig, restRouter⟩ := ih (service.take step).1 (position + 1)
      exact ⟨restConfig.trans config_eq, restRouter.trans router_eq⟩

/-! ## Restoring -/

/-- The snapshot of a sound service describes its registry. -/
theorem Sound.toRegistry_snapshot (sound : service.Sound) :
    service.snapshot.toRegistry service.config = .ok service.registry := by
  rw [Snapshot.toRegistry_eq_ok_iff]
  refine ⟨?_, service.registry.ids_nodup, ?_, ?_⟩
  · rw [← sound.limit_eq]
    exact sound.size_le
  · rintro ⟨id, store⟩ listed
    exact sound.stores (OrderedMap.mem_entries_iff.mp listed)
  · rw [← sound.limit_eq]
    exact congrArg (Registry.mk service.registry.limit)
      (OrderedMap.insertAll_entries service.registry.stores).symm

/-- Any service of the same configuration takes over the stores of a sound one
by way of its snapshot. -/
theorem Sound.restore_snapshot (sound : service.Sound) {other : Service}
    (config_eq : other.config = service.config) :
    other.restore service.snapshot =
      .ok ({ other with registry := service.registry },
        [.restored service.registry.size]) := by
  rw [restore, config_eq, sound.toRegistry_snapshot]

end Service

end OnboardStorage
