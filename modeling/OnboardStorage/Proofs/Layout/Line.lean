import OnboardStorage.Proofs.Loading
import OnboardStorage.Proofs.Json.OneLine

/-!
# Output lines are read back

The text of an output line is one line of JSON.  It stands for a record of two fields,
the position of the step and the event, in whatever order their names put them.
-/

namespace OnboardStorage

/-! ## Records in order -/

namespace Datum

theorem insertField_perm (field : String × Datum) (fields : List (String × Datum)) :
    (insertField field fields).Perm (field :: fields) := by
  induction fields with
  | nil => exact .refl _
  | cons other rest ih =>
      rw [insertField]
      split
      · exact .refl _
      · exact (ih.cons other).trans (.swap field other rest)

/-- No field is lost or changed in name when a record is put in order. -/
theorem sortedFields_perm (fields : List (String × Datum)) :
    (sortedFields fields).Perm (fields.map fun field => (field.1, field.2.sorted)) := by
  induction fields with
  | nil => exact .refl _
  | cons field rest ih =>
      rw [sortedFields, List.map_cons]
      exact (insertField_perm _ _).trans (ih.cons _)

theorem sortedItems_eq (items : List Datum) : sortedItems items = items.map sorted := by
  induction items with
  | nil => rfl
  | cons item rest ih => rw [sortedItems, ih, List.map_cons]

/-- Data that is put in order stays legible. -/
theorem Legible.sorted {datum : Datum} {depth : Nat} (legible : datum.Legible depth) :
    datum.sorted.Legible depth := by
  induction depth generalizing datum with
  | zero =>
      cases datum with
      | list items => cases legible
      | record fields => cases legible
      | _ => exact legible
  | succ depth ih =>
      cases datum with
      | list items =>
          rw [Datum.sorted, sortedItems_eq]
          intro item member
          rcases List.mem_map.mp member with ⟨given, listed, rfl⟩
          exact ih (legible given listed)
      | record fields =>
          rw [Datum.sorted]
          intro field member
          rcases List.mem_map.mp ((sortedFields_perm fields).mem_iff.mp member) with
            ⟨given, listed, rfl⟩
          exact ih (legible given listed)
      | _ => exact legible

end Datum

/-! ## Levels of an event -/

theorem legible_tagToDatum (tag : Option TimeTag) (depth : Nat) :
    (tagToDatum tag).Legible depth := by
  cases tag with
  | none => exact Datum.legible_null depth
  | some tag => exact Datum.legible_ofNat tag.toNat depth

/-- A report lists the records of stores. -/
theorem Report.legible_toDatum (report : Report) (depth : Nat) :
    report.toDatum.Legible (depth + 3) := by
  cases report with
  | status stores =>
      simp [toDatum, StoreStatus.toDatum, StoreId.toDatum, OpenRetrieval.toDatum]
  | configuration stores =>
      simp [toDatum, StoreConfiguration.toDatum, StoreId.toDatum, StoreKind.toDatum]
  | contentSummary stores =>
      simp [toDatum, ContentSummary.toDatum, StoreId.toDatum, legible_tagToDatum]

theorem Failure.legible_toDatum (failure : Failure) (depth : Nat) :
    failure.toDatum.Legible (depth + 1) := by
  have store : (Datum.ofOption StoreId.toDatum failure.store).Legible depth := by
    cases failure.store with
    | none => exact Datum.legible_null depth
    | some id => exact Datum.legible_text id.text depth
  simp [toDatum, store, MessageType.toDatum]

theorem Insertion.legible_toDatum (outcome : Insertion) (depth : Nat) :
    outcome.toDatum.Legible (depth + 2) := by
  cases outcome <;> simp [toDatum]

namespace Line

end Line

end OnboardStorage
