import OnboardStorage.Action
import OnboardStorage.Proofs.PacketStore.Copy
import OnboardStorage.Proofs.PacketStore.Resizing
import Mathlib.Data.List.DropRight

/-!
# Doing the same to a store once more

An action that is attempted again finds what it would make.  Attempts that differ may
stand between the two: of several starts of a retrieval the first settles the store, and
of several changes of capacity the last does, since a capacity that was passed through
has nothing left to evict.  A copy finds its destination filled, or it has copied
nothing and copies nothing again.
-/

namespace OnboardStorage

namespace PacketStore

/-! ## Copies -/

/-- A copy into what it has made changes nothing, whether or not it was carried out. -/
theorem copyWindow_copyWindow (source destination : PacketStore) (window : Window) :
    (source.copyWindow (source.copyWindow destination window).1 window).1 =
      (source.copyWindow destination window).1 := by
  by_cases filled : (source.copyWindow destination window).1.packets = []
  · have empty : destination.packets = [] := by
      by_contra held
      rw [copyWindow_of_packets_ne_nil held] at filled
      exact held filled
    have unchanged : (source.copyWindow destination window).1 = destination := by
      have content_eq : (source.copyWindow destination window).1.content =
          destination.content := PacketQueue.ext_packets (filled.trans empty.symm)
      rw [copyWindow_settings, content_eq]
    rw [unchanged, unchanged]
  · rw [copyWindow_of_packets_ne_nil filled]

end PacketStore

namespace Action

/-! ## Actions -/

/-- The store after an attempt at the action, be it carried out or not. -/
def attempt (config : Config) (action : Action) (store : PacketStore) : PacketStore :=
  match action.obstacle? config store with
  | none => action.effect config store
  | some _ => store

variable {config : Config} {store : PacketStore} {action : Action}

theorem attempt_of_free (free : action.obstacle? config store = none) :
    action.attempt config store = action.effect config store := by
  rw [attempt, free]

theorem attempt_of_obstacle {cause : Rejection}
    (obstacle : action.obstacle? config store = some cause) :
    action.attempt config store = store := by
  rw [attempt, obstacle]

theorem heededPriority_heeded (capabilities : Capabilities) (changed : PacketStore)
    (priority : Option UInt16)
    (heeded : changed.retrievalPriority = heededPriority capabilities store priority) :
    heededPriority capabilities changed priority =
      heededPriority capabilities store priority := by
  unfold heededPriority at heeded ⊢
  rw [heeded]
  cases capabilities.prioritizedRetrieval <;> cases priority <;> rfl

/-- An action carried out twice has the effect of one. -/
theorem effect_effect (config : Config) (store : PacketStore) (action : Action) :
    action.effect config (action.effect config store) = action.effect config store := by
  cases action with
  | startTimeRange range priority =>
      simp only [effect]
      rw [heededPriority_heeded _ _ _ rfl]
  | resumeOpen priority =>
      simp only [effect]
      rw [heededPriority_heeded _ _ _ rfl]
  | deleteContent limit =>
      have packets_eq : ((store.deleteUntil limit).1.deleteUntil limit).1.packets =
          (store.deleteUntil limit).1.packets := by
        rw [PacketStore.packets_deleteUntil, PacketStore.packets_deleteUntil,
          List.dropWhile_idempotent]
      exact congrArg (fun content => { store with content := content })
        (PacketQueue.ext_packets packets_eq)
  | resize size =>
      have packets_eq := (store.resize size).1.packets_resize_of_le
        (store.shrinks_resize size).fits
      exact congrArg (fun content => { store with capacity := size, content := content })
        (PacketQueue.ext_packets packets_eq)
  | _ => rfl

/-- A second attempt at the same action changes nothing. -/
theorem attempt_attempt (config : Config) (action : Action) (store : PacketStore) :
    action.attempt config (action.attempt config store) = action.attempt config store := by
  cases free : action.obstacle? config store with
  | some cause => rw [attempt_of_obstacle free, attempt_of_obstacle free]
  | none =>
      rw [attempt_of_free free]
      cases again : action.obstacle? config (action.effect config store) with
      | some cause => exact attempt_of_obstacle again
      | none => rw [attempt_of_free again, effect_effect]

/-- A start that changes nothing changes nothing after other starts either: a retrieval
that was started stands in its way. -/
theorem attempt_start_start {range other : TimeRange} {priority otherPriority : Option UInt16}
    (settled : attempt config (.startTimeRange range priority) store = store) :
    attempt config (.startTimeRange range priority)
        (attempt config (.startTimeRange other otherPriority) store) =
      attempt config (.startTimeRange other otherPriority) store := by
  cases free : obstacle? config store (.startTimeRange other otherPriority) with
  | some cause =>
      rw [attempt_of_obstacle free]
      exact settled
  | none =>
      rw [attempt_of_free free]
      cases again : obstacle? config (effect config store (.startTimeRange other otherPriority))
          (.startTimeRange range priority) with
      | some cause => exact attempt_of_obstacle again
      | none =>
          have unblocked := (Option.or_eq_none_iff.mp again).1
          have inactive :=
            (refusing_eq_none_iff.mp (refusing_eq_none_iff.mp unblocked).2).1
          exact absurd rfl inactive

/-- What stands in the way of a change of capacity does not depend on the capacity. -/
theorem obstacle?_resize_attempt (size other : UInt32) :
    obstacle? config (attempt config (.resize other) store) (.resize size) =
      obstacle? config store (.resize size) := by
  cases free : obstacle? config store (.resize other) with
  | some cause => rw [attempt_of_obstacle free]
  | none =>
      rw [attempt_of_free free]
      rfl

/-- Of two changes of capacity the first may be left out if it is attempted again. -/
theorem attempt_resize_resize (config : Config) (store : PacketStore) (first second : UInt32) :
    attempt config (.resize first)
        (attempt config (.resize second) (attempt config (.resize first) store)) =
      attempt config (.resize first) (attempt config (.resize second) store) := by
  cases firstFree : obstacle? config store (.resize first) with
  | some cause => rw [attempt_of_obstacle firstFree]
  | none =>
      have firstAgain : obstacle? config (attempt config (.resize second) store)
          (.resize first) = none := by
        rw [obstacle?_resize_attempt, firstFree]
      cases secondFree : obstacle? config store (.resize second) with
      | some cause =>
          have secondAgain : obstacle? config (attempt config (.resize first) store)
              (.resize second) = some cause := by
            rw [obstacle?_resize_attempt, secondFree]
          rw [attempt_of_obstacle secondAgain, attempt_of_obstacle secondFree,
            attempt_attempt]
      | none =>
          have secondAgain : obstacle? config (attempt config (.resize first) store)
              (.resize second) = none := by
            rw [obstacle?_resize_attempt, secondFree]
          have firstThird : obstacle? config (attempt config (.resize second)
              (attempt config (.resize first) store)) (.resize first) = none := by
            rw [obstacle?_resize_attempt, obstacle?_resize_attempt, firstFree]
          rw [attempt_of_free firstThird, attempt_of_free secondAgain,
            attempt_of_free firstAgain, attempt_of_free firstFree,
            attempt_of_free secondFree]
          exact store.resize_resize_resize first second

end Action

end OnboardStorage
