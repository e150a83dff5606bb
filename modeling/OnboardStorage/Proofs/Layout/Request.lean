import OnboardStorage.Layout.Request
import OnboardStorage.Proofs.Layout.Store

/-!
# Telecommands are read back

A request is held back until its command is known, so each of its parts has to be of the
kind that can be; words of at most 32 bits and identifiers are.  What remains of the
record then is read under the names that the command asks for.
-/

namespace OnboardStorage

open Datum

theorem Command.tag?_name (origin : Origin) (command : Command) :
    (Datum.text command.name).tag? origin all name = some command := by
  cases command <;> rfl

/-! ## Items -/

@[simp]
theorem StoreDefinition.ofDatum?_toDatum (origin : Origin) (definition : StoreDefinition) :
    ofDatum? origin definition.toDatum = some definition := by
  rw [toDatum, ofDatum?, fields?_record (by simp)]
  simp (disch := decide) [lookup_cons_of_ne, required]

@[simp]
theorem StoreResize.ofDatum?_toDatum (origin : Origin) (resize : StoreResize) :
    ofDatum? origin resize.toDatum = some resize := by
  rw [toDatum, ofDatum?, fields?_record (by simp)]
  simp (disch := decide) [lookup_cons_of_ne, required]

/-- A priority that may be absent is read back. -/
theorem optional_priority (priority : Option UInt16) :
    optional word16? (some (ofOption (fun level => ofNat level.toNat) priority)) =
      some priority := by
  apply optional_ofOption
  · intro level equal
    cases equal
  · exact word16?_ofNat

@[simp]
theorem RetrievalStart.ofDatum?_toDatum (origin : Origin) (retrieval : RetrievalStart) :
    ofDatum? origin retrieval.toDatum = some retrieval := by
  rw [toDatum, ofDatum?, fields?_record (by simp)]
  simp (disch := decide) [lookup_cons_of_ne, required, optional_priority]

namespace Request

/-! ## Requests -/

@[simp]
theorem storesOfDatum?_storesToDatum (stores : List StoreId) :
    storesOfDatum? (storesToDatum stores) = some stores :=
  listOf?_map fun id _ => id.ofDatum?_toDatum

theorem aboutStores?_record (make : List StoreId → Request) (stores : List StoreId) :
    aboutStores? make (.record [("stores", storesToDatum stores)]) = some (make stores) := by
  rw [aboutStores?, fields?_record (by simp)]
  simp [defaulted]

theorem aboutStore?_record (make : StoreId → Request) (store : StoreId) :
    aboutStore? make (.record [("store", store.toDatum)]) = some (make store) := by
  rw [aboutStore?, fields?_record (by simp)]
  simp [required]

theorem nodup_toFields (request : Request) : (request.toFields.map Prod.fst).Nodup := by
  cases request <;> simp [toFields]

/-- The fields of a request are read back under its command. -/
theorem ofFields?_toFields (request : Request) :
    ofFields? request.command (.record request.toFields) = some request := by
  have different := request.nodup_toFields
  cases request with
  | enableStorage stores => exact aboutStores?_record _ stores
  | disableStorage stores => exact aboutStores?_record _ stores
  | reportContentSummary stores => exact aboutStores?_record _ stores
  | suspendOpenRetrieval stores => exact aboutStores?_record _ stores
  | abortTimeRangeRetrieval stores => exact aboutStores?_record _ stores
  | deleteStores stores => exact aboutStores?_record _ stores
  | changeTypeToCircular store => exact aboutStore?_record _ store
  | changeTypeToBounded store => exact aboutStore?_record _ store
  | startTimeRangeRetrieval retrievals =>
      have items : (Datum.list (retrievals.map RetrievalStart.toDatum)).listOf?
          (RetrievalStart.ofDatum? .held) = some retrievals :=
        listOf?_map fun retrieval _ => retrieval.ofDatum?_toDatum .held
      rw [command, ofFields?, fields?_record different]
      simp [toFields, required, items]
  | createStores definitions =>
      have items : (Datum.list (definitions.map StoreDefinition.toDatum)).listOf?
          (StoreDefinition.ofDatum? .held) = some definitions :=
        listOf?_map fun definition _ => definition.ofDatum?_toDatum .held
      rw [command, ofFields?, fields?_record different]
      simp [toFields, required, items]
  | resizeStores resizes =>
      have items : (Datum.list (resizes.map StoreResize.toDatum)).listOf?
          (StoreResize.ofDatum? .held) = some resizes :=
        listOf?_map fun resize _ => resize.ofDatum?_toDatum .held
      rw [command, ofFields?, fields?_record different]
      simp [toFields, required, items]
  | reportStatus => rfl
  | reportConfiguration => rfl
  | _ =>
      rw [command, ofFields?, fields?_record different]
      simp (disch := decide) [toFields, lookup_cons_of_ne, required, defaulted,
        optional_priority]

/-! ## Numbers that can be held back -/

theorem isHoldable_storesToDatum (stores : List StoreId) :
    (storesToDatum stores).isHoldable = true :=
  areHoldable_map fun _ _ => rfl

end Request

theorem isHoldable_priority (priority : Option UInt16) :
    (ofOption (fun level => ofNat level.toNat) priority).isHoldable = true := by
  cases priority with
  | none => rfl
  | some level => exact isHoldable_word (Nat.lt_trans level.toNat_lt (by decide))

theorem isHoldable_tag (tag : TimeTag) : (ofNat tag.toNat).isHoldable = true :=
  isHoldable_word tag.toNat_lt

theorem isHoldable_channel (channel : UInt8) : (ofNat channel.toNat).isHoldable = true :=
  isHoldable_word (Nat.lt_trans channel.toNat_lt (by decide))

theorem StoreDefinition.isHoldable_toDatum (definition : StoreDefinition) :
    definition.toDatum.isHoldable = true := by
  simp [toDatum, isHoldable, fieldsAreHoldable, StoreId.toDatum, StoreKind.toDatum,
    isHoldable_word definition.size.toNat_lt, isHoldable_channel]

theorem StoreResize.isHoldable_toDatum (resize : StoreResize) :
    resize.toDatum.isHoldable = true := by
  simp [toDatum, isHoldable, fieldsAreHoldable, StoreId.toDatum,
    isHoldable_word resize.size.toNat_lt]

theorem RetrievalStart.isHoldable_toDatum (retrieval : RetrievalStart) :
    retrieval.toDatum.isHoldable = true := by
  simp [toDatum, isHoldable, fieldsAreHoldable, StoreId.toDatum, isHoldable_priority,
    isHoldable_tag]

namespace Request

/-- Every field of a request can be held back. -/
theorem fieldsAreHoldable_toFields (request : Request) :
    fieldsAreHoldable request.toFields = true := by
  cases request with
  | startTimeRangeRetrieval retrievals =>
      have items : areHoldable (retrievals.map RetrievalStart.toDatum) = true :=
        areHoldable_map fun retrieval _ => retrieval.isHoldable_toDatum
      simp [toFields, fieldsAreHoldable, isHoldable, items]
  | createStores definitions =>
      have items : areHoldable (definitions.map StoreDefinition.toDatum) = true :=
        areHoldable_map fun definition _ => definition.isHoldable_toDatum
      simp [toFields, fieldsAreHoldable, isHoldable, items]
  | resizeStores resizes =>
      have items : areHoldable (resizes.map StoreResize.toDatum) = true :=
        areHoldable_map fun resize _ => resize.isHoldable_toDatum
      simp [toFields, fieldsAreHoldable, isHoldable, items]
  | _ =>
      simp [toFields, fieldsAreHoldable, isHoldable, isHoldable_storesToDatum,
        isHoldable_priority, isHoldable_channel, isHoldable_tag, StoreId.toDatum]

/-- Every request is read back from its written form, wherever it stands. -/
@[simp]
theorem ofDatum?_toDatum (origin : Origin) (request : Request) :
    ofDatum? origin request.toDatum = some request := by
  have untagged : "command" ∉ request.toFields.map Prod.fst := by
    cases request <;> simp [toFields]
  have holdable : (Datum.record request.toFields).isHoldable = true :=
    request.fieldsAreHoldable_toFields
  rw [toDatum, ofDatum?, tagged?_record_cons untagged]
  simp [Command.tag?_name, holdable, ofFields?_toFields]

end Request

end OnboardStorage
