import OnboardStorage.Proofs.Commands
import OnboardStorage.Proofs.Verdict.Law

/-!
# A batch is the sequence of its items

A telecommand that carries a list is carried out entry by entry.  Where it is cut
makes no difference: one telecommand with two lists joined does what the two
telecommands do in turn, although entries may repeat and earlier ones change what
later ones meet.

The empty list is no batch without items.  In telecommands that list stores it stands
for all of them, in ascending order and as they are when the telecommand arrives; so
both parts of a cut have to be nonempty.
-/

namespace OnboardStorage

namespace Service

/-- A nonempty batch carries out its entries in turn and adds one notice. -/
theorem execute_batch (service : Service) {command : BatchCommand}
    {entries : List command.Entry} (nonempty : entries ≠ []) :
    service.execute (command.request entries) =
      ((service.performEach (entries.map command.item)).1,
        .ofNotices [.executing (command.request entries).messageType] ++
          (service.performEach (entries.map command.item)).2) := by
  simp only [execute, BatchCommand.items_request nonempty, BatchCommand.reporting_request,
    Emission.append_silent]

/-- A telecommand for all stores is the one that lists them in ascending order. -/
theorem execute_all (service : Service) (command : StoresCommand) :
    service.execute (command.request []) =
      service.execute (command.request service.registry.ids) := by
  simp only [execute, StoresCommand.items_request, StoresCommand.reporting_request,
    Registry.targets_ids, command.messageType_request [] service.registry.ids]

/-- Without stores, a telecommand for all of them is only logged. -/
theorem execute_all_of_ids_eq_nil {service : Service} (command : StoresCommand)
    (none : service.registry.ids = []) :
    service.execute (command.request []) =
      (service, .ofNotices [.executing (command.request []).messageType]) := by
  have noTargets : service.registry.targets [] = [] := none
  simp only [execute, command.items_request, command.reporting_request, noTargets,
    List.map_nil, performEach_nil, Emission.append_silent]

theorem execute_summary (service : Service) (stores : List StoreId) :
    service.execute (.reportContentSummary stores) =
      (service, .ofNotices [.executing .reportContentSummary] ++
        service.registry.summaryEmission (service.registry.targets stores)) :=
  rfl

/-- A summary of stores that are listed fails for the missing ones and reports on the
others. -/
theorem execute_summary_of_ne_nil (service : Service) {stores : List StoreId}
    (nonempty : stores ≠ []) :
    (service.execute (.reportContentSummary stores)).2.reports =
        [.contentSummary
          (stores.filterMap fun id => (service.registry.get? id).map (·.summary id))] ∧
      (service.execute (.reportContentSummary stores)).2.failures =
        ((stores.filter fun id => !service.registry.contains id).map
          fun id => ⟨.reportContentSummary, some id, .storeMissing⟩) ∧
      (service.execute (.reportContentSummary stores)).2.internalErrors = [] := by
  rw [execute_summary, Registry.targets_of_ne_nil _ nonempty, Registry.summaryEmission_eq]
  exact ⟨rfl, rfl, rfl⟩

/-! ## Cutting a batch -/

/-- One telecommand leads to the state that two others lead to in turn, and fails as
they do. -/
structure DoneInTurn (service : Service) (whole first second : Request) : Prop where
  state : (service.execute whole).1 = ((service.execute first).1.execute second).1
  failures : (service.execute whole).2.failures =
    (service.execute first).2.failures ++
      ((service.execute first).1.execute second).2.failures
  internalErrors : (service.execute whole).2.internalErrors =
    (service.execute first).2.internalErrors ++
      ((service.execute first).1.execute second).2.internalErrors

theorem doneInTurn_batch (service : Service) {command : BatchCommand}
    {first second : List command.Entry} (firstNonempty : first ≠ [])
    (secondNonempty : second ≠ []) :
    service.DoneInTurn (command.request (first ++ second)) (command.request first)
      (command.request second) := by
  have whole : first ++ second ≠ [] := List.append_ne_nil_of_left_ne_nil firstNonempty _
  constructor
  all_goals
    rw [service.execute_batch whole, service.execute_batch firstNonempty,
      execute_batch _ secondNonempty, List.map_append, performEach_append]
  · rfl
  · rfl

theorem doneInTurn_summary (service : Service) {first second : List StoreId}
    (firstNonempty : first ≠ []) (secondNonempty : second ≠ []) :
    service.DoneInTurn (.reportContentSummary (first ++ second))
      (.reportContentSummary first) (.reportContentSummary second) := by
  have whole : first ++ second ≠ [] := List.append_ne_nil_of_left_ne_nil firstNonempty _
  rcases service.execute_summary_of_ne_nil whole with ⟨-, wholeFailures, wholeErrors⟩
  rcases service.execute_summary_of_ne_nil firstNonempty with ⟨-, firstFailures, firstErrors⟩
  rcases service.execute_summary_of_ne_nil secondNonempty with
    ⟨-, secondFailures, secondErrors⟩
  have unchanged : (service.execute (.reportContentSummary first)).1 = service := rfl
  constructor
  · rfl
  · rw [unchanged, wholeFailures, firstFailures, secondFailures, List.filter_append,
      List.map_append]
  · rw [unchanged, wholeErrors, firstErrors, secondErrors]
    rfl

/-- A batch with two nonempty lists joined does what the two batches do in turn.  Where
the empty list stands for all stores it is the ascending list of them, and without
stores it does nothing.  A summary of two lists joined fails as the two summaries do,
and its one report consists of theirs. -/
theorem batch_is_the_sequence_of_its_items (service : Service) :
    (∀ (command : BatchCommand) (first second : List command.Entry),
      first ≠ [] → second ≠ [] →
        service.DoneInTurn (command.request (first ++ second)) (command.request first)
          (command.request second)) ∧
    (service.registry.ids.Pairwise (· < ·) ∧
      ∀ id, id ∈ service.registry.ids ↔ service.registry.contains id = true) ∧
    (∀ command : StoresCommand,
      service.execute (command.request []) =
        service.execute (command.request service.registry.ids) ∧
      (service.registry.ids = [] →
        (service.execute (command.request [])).1 = service ∧
        (service.execute (command.request [])).2.failures = [])) ∧
    (service.execute (.reportContentSummary []) =
        service.execute (.reportContentSummary service.registry.ids) ∧
      (service.registry.ids = [] →
        (service.execute (.reportContentSummary [])).1 = service ∧
        (service.execute (.reportContentSummary [])).2.failures = [])) ∧
    ∀ first second : List StoreId, first ≠ [] → second ≠ [] →
      service.DoneInTurn (.reportContentSummary (first ++ second))
        (.reportContentSummary first) (.reportContentSummary second) ∧
      ∃ begun ended : List ContentSummary,
        (service.execute (.reportContentSummary first)).2.reports =
          [.contentSummary begun] ∧
        (service.execute (.reportContentSummary second)).2.reports =
          [.contentSummary ended] ∧
        (service.execute (.reportContentSummary (first ++ second))).2.reports =
          [.contentSummary (begun ++ ended)] := by
  constructor
  · intro command first second firstNonempty secondNonempty
    exact service.doneInTurn_batch firstNonempty secondNonempty
  constructor
  · exact ⟨service.registry.ids_ascending, fun id => Registry.mem_ids_iff⟩
  constructor
  · intro command
    constructor
    · exact service.execute_all command
    · intro none
      rw [execute_all_of_ids_eq_nil command none]
      exact ⟨rfl, rfl⟩
  constructor
  · constructor
    · simp only [execute_summary, Registry.targets_ids]
    · intro none
      have noTargets : service.registry.targets [] = [] := none
      rw [execute_summary, noTargets]
      exact ⟨rfl, rfl⟩
  · intro first second firstNonempty secondNonempty
    constructor
    · exact service.doneInTurn_summary firstNonempty secondNonempty
    · have whole : first ++ second ≠ [] := List.append_ne_nil_of_left_ne_nil firstNonempty _
      refine ⟨_, _, (service.execute_summary_of_ne_nil firstNonempty).1,
        (service.execute_summary_of_ne_nil secondNonempty).1, ?_⟩
      rw [(service.execute_summary_of_ne_nil whole).1, List.filterMap_append]

/-- Of a store that is deleted twice, the second deletion fails, be it in the same
telecommand or in another one. -/
theorem second_deletion_fails_in_any_batch :
    let id : StoreId := ⟨"log", by decide, by decide⟩
    let service : Service :=
      ⟨Config.standard, ⟨4, OrderedMap.empty.insert id (PacketStore.create 100 .circular 1)⟩,
        Router.empty, ⟨7⟩⟩
    (service.execute (.deleteStores [id, id])).2.failures =
        [⟨.deleteStores, some id, .storeMissing⟩] ∧
      service.DoneInTurn (.deleteStores [id, id]) (.deleteStores [id]) (.deleteStores [id]) := by
  intro id service
  constructor
  · decide +kernel
  · exact (batch_is_the_sequence_of_its_items service).1 (.onStores .deleteStores) [id] [id]
      (by simp) (by simp)

end Service

end OnboardStorage
