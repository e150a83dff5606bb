import OnboardStorage.Proofs.Settings.Field

/-!
# What a record of items says of one store

A record lists items in the order in which they were carried out.  It says that a store
exists if the latest creation of that name has not been followed by a deletion, and that
each field holds what the last item since that creation set it to.

`Tallies` compares a record with what is found under one identifier.  It is carried
through an item by what the item does to the store it names; of other stores it changes
neither the fields nor what the record says.
-/

namespace OnboardStorage

/-! ## Latest creations -/

/-- A record that reaches back to the latest creation of a store named `id`, and the
items `since` then. -/
structure LatestCreation (record : List Item) (id : StoreId)
    (definition : StoreDefinition) (since : List Item) : Prop where
  id_eq : definition.id = id
  recorded : ∃ earlier, record = earlier ++ .create definition :: since
  latest : ∀ other, .create other ∈ since → other.id ≠ id

variable {record : List Item} {id : StoreId} {definition : StoreDefinition}
  {since : List Item}

theorem concat_eq_append_cons_iff {α : Type} {earlier rest behind : List α}
    {first last : α} :
    rest ++ [last] = earlier ++ first :: behind ↔
      (rest = earlier ∧ last = first ∧ behind = []) ∨
        ∃ before, behind = before ++ [last] ∧ rest = earlier ++ first :: before := by
  constructor
  · intro equal
    rcases behind.eq_nil_or_concat' with rfl | ⟨before, final, rfl⟩
    · rcases List.append_singleton_inj.mp equal with ⟨rest_eq, last_eq⟩
      exact Or.inl ⟨rest_eq, last_eq, rfl⟩
    · rw [← List.cons_append, ← List.append_assoc] at equal
      rcases List.append_singleton_inj.mp equal with ⟨rest_eq, rfl⟩
      exact Or.inr ⟨before, rfl, rest_eq⟩
  · rintro (⟨rfl, rfl, rfl⟩ | ⟨before, rfl, rfl⟩)
    · rfl
    · simp

theorem not_latestCreation_nil : ¬ LatestCreation [] id definition since := by
  rintro ⟨-, ⟨earlier, equal⟩, -⟩
  exact absurd equal (by simp)

/-- A creation that is added to a record is the latest one. -/
theorem latestCreation_create_iff {other : StoreDefinition} (same : other.id = id) :
    LatestCreation (record ++ [.create other]) id definition since ↔
      definition = other ∧ since = [] := by
  constructor
  · rintro ⟨id_eq, ⟨earlier, equal⟩, latest⟩
    rcases concat_eq_append_cons_iff.mp equal with ⟨-, item_eq, rfl⟩ | ⟨before, rfl, -⟩
    · cases item_eq
      exact ⟨rfl, rfl⟩
    · exact absurd same (latest other (List.mem_append_right _ List.mem_cons_self))
  · rintro ⟨rfl, rfl⟩
    exact ⟨same, ⟨record, rfl⟩, by simp⟩

/-- Any other item that is added to a record stands behind the latest creation. -/
theorem latestCreation_concat_iff {item : Item}
    (noCreation : ∀ other, item = .create other → other.id ≠ id) :
    LatestCreation (record ++ [item]) id definition since ↔
      ∃ before, since = before ++ [item] ∧ LatestCreation record id definition before := by
  constructor
  · rintro ⟨id_eq, ⟨earlier, equal⟩, latest⟩
    rcases concat_eq_append_cons_iff.mp equal with
      ⟨-, item_eq, -⟩ | ⟨before, rfl, record_eq⟩
    · exact absurd id_eq (noCreation definition item_eq)
    · refine ⟨before, rfl, id_eq, ⟨earlier, record_eq⟩, ?_⟩
      intro other member
      exact latest other (List.mem_append_left _ member)
  · rintro ⟨before, rfl, id_eq, ⟨earlier, rfl⟩, latest⟩
    refine ⟨id_eq, ⟨earlier, by simp⟩, ?_⟩
    intro other member
    rcases List.mem_append.mp member with among | last
    · exact latest other among
    · exact noCreation other (List.mem_singleton.mp last).symm

/-! ## What a record says of one store -/

/-- What is found under an identifier tallies with the record. -/
def Tallies (capabilities : Capabilities) (record : List Item) (id : StoreId) :
    Option PacketStore → Prop
  | none => ∀ definition since,
      LatestCreation record id definition since → .delete id ∈ since
  | some store =>
      (∃ definition since, LatestCreation record id definition since) ∧
      ∀ definition since, LatestCreation record id definition since →
        .delete id ∉ since ∧
        ∀ field : StoreField,
          field.read store = field.valueSince capabilities id definition since

/-- A status that shows what a record says of its store. -/
def StoreStatus.Shows (capabilities : Capabilities) (record : List Item)
    (status : StoreStatus) : Prop :=
  ∀ definition since, LatestCreation record status.storeId definition since →
    status.storageEnabled =
      StoreField.storageEnabled.valueSince capabilities status.storeId definition since ∧
    status.openRetrieval =
      StoreField.openRetrieval.valueSince capabilities status.storeId definition since ∧
    status.timeRangeActive = Option.isSome
      (StoreField.timeRangeRetrieval.valueSince capabilities status.storeId definition since)

/-- A configuration that shows what a record says of its store. -/
def StoreConfiguration.Shows (capabilities : Capabilities) (record : List Item)
    (shown : StoreConfiguration) : Prop :=
  ∀ definition since, LatestCreation record shown.storeId definition since →
    shown.size =
      StoreField.capacity.valueSince capabilities shown.storeId definition since ∧
    shown.kind =
      StoreField.kind.valueSince capabilities shown.storeId definition since ∧
    shown.virtualChannel =
      StoreField.virtualChannel.valueSince capabilities shown.storeId definition since

namespace Tallies

variable {capabilities : Capabilities} {found : Option PacketStore}
  {store other : PacketStore} {item : Item}

theorem of_read_eq (tallies : Tallies capabilities record id (some store))
    (same : ∀ field : StoreField, field.read other = field.read store) :
    Tallies capabilities record id (some other) := by
  rcases tallies with ⟨created, agrees⟩
  constructor
  · exact created
  · intro definition since latest
    rcases agrees definition since latest with ⟨present, values⟩
    exact ⟨present, fun field => (same field).trans (values field)⟩

/-- An item that is neither a creation nor a deletion sets some fields of the store and
leaves the others. -/
theorem concat (tallies : Tallies capabilities record id (some store))
    (noCreation : ∀ definition, item = .create definition → definition.id ≠ id)
    (noDeletion : item ≠ .delete id)
    (values : ∀ field : StoreField, field.read other =
      (item.sets? capabilities id field).getD (field.read store)) :
    Tallies capabilities (record ++ [item]) id (some other) := by
  rcases tallies with ⟨⟨definition, since, created⟩, agrees⟩
  constructor
  · exact ⟨definition, since ++ [item],
      (latestCreation_concat_iff noCreation).mpr ⟨since, rfl, created⟩⟩
  · intro definition since latest
    rcases (latestCreation_concat_iff noCreation).mp latest with ⟨before, rfl, earlier⟩
    rcases agrees definition before earlier with ⟨present, held⟩
    constructor
    · intro member
      rcases List.mem_append.mp member with among | last
      · exact present among
      · exact noDeletion (List.mem_singleton.mp last).symm
    · intro field
      rw [StoreField.valueSince_concat, values field, held field]

/-- An item about other stores, or about packets only, makes no difference. -/
theorem concat_of_unset (tallies : Tallies capabilities record id found)
    (noCreation : ∀ definition, item = .create definition → definition.id ≠ id)
    (noDeletion : item ≠ .delete id)
    (unset : ∀ field, item.sets? capabilities id field = none) :
    Tallies capabilities (record ++ [item]) id found := by
  cases found with
  | none =>
      intro definition since latest
      rcases (latestCreation_concat_iff noCreation).mp latest with ⟨before, rfl, earlier⟩
      exact List.mem_append_left _ (tallies definition before earlier)
  | some store =>
      apply tallies.concat noCreation noDeletion
      intro field
      rw [unset field]
      rfl

theorem concat_of_not_mem (tallies : Tallies capabilities record id found)
    (unnamed : id ∉ item.names) : Tallies capabilities (record ++ [item]) id found := by
  apply tallies.concat_of_unset
  · rintro definition rfl same
    exact unnamed (List.mem_singleton.mpr same.symm)
  · rintro rfl
    exact unnamed (List.mem_singleton.mpr rfl)
  · exact Item.sets?_of_not_mem unnamed

theorem act {config : Config}
    (tallies : Tallies config.capabilities record id (some store)) (action : Action) :
    Tallies config.capabilities (record ++ [.act id action]) id
      (some (action.effect config store)) := by
  apply tallies.concat
  · rintro definition ⟨⟩
  · rintro ⟨⟩
  · intro field
    rw [Item.sets?, if_pos rfl, StoreField.read_effect]

/-- A creation brings the initial values, whatever a store of that name held before. -/
theorem create (capabilities : Capabilities) (record : List Item)
    (definition : StoreDefinition) :
    Tallies capabilities (record ++ [.create definition]) definition.id
      (some (PacketStore.create definition.size definition.kind
        definition.virtualChannel)) := by
  constructor
  · exact ⟨definition, [], (latestCreation_create_iff rfl).mpr ⟨rfl, rfl⟩⟩
  · intro other since latest
    rcases (latestCreation_create_iff rfl).mp latest with ⟨rfl, rfl⟩
    constructor
    · exact List.not_mem_nil
    · intro field
      rw [StoreField.read_create, StoreField.valueSince_nil]

theorem delete (capabilities : Capabilities) (record : List Item) (id : StoreId) :
    Tallies capabilities (record ++ [.delete id]) id none := by
  intro definition since latest
  have noCreation : ∀ other, Item.delete id = .create other → other.id ≠ id := by
    rintro other ⟨⟩
  rcases (latestCreation_concat_iff noCreation).mp latest with ⟨before, rfl, -⟩
  exact List.mem_append_right _ List.mem_cons_self

/-- A store is there exactly if it has not been deleted since its latest creation. -/
theorem isSome_iff (tallies : Tallies capabilities record id found) :
    found.isSome = true ↔
      ∃ definition since, LatestCreation record id definition since ∧
        .delete id ∉ since := by
  cases found with
  | none =>
      constructor
      · rintro ⟨⟩
      · rintro ⟨definition, since, latest, present⟩
        exact absurd (tallies definition since latest) present
  | some store =>
      rcases tallies with ⟨⟨definition, since, created⟩, agrees⟩
      constructor
      · intro _
        exact ⟨definition, since, created, (agrees definition since created).1⟩
      · intro _
        rfl

theorem shows_status (tallies : Tallies capabilities record id (some store)) :
    (store.status id).Shows capabilities record := by
  intro definition since latest
  have values := (tallies.2 definition since latest).2
  exact ⟨values .storageEnabled, values .openRetrieval,
    congrArg Option.isSome (values .timeRangeRetrieval)⟩

theorem shows_configuration (tallies : Tallies capabilities record id (some store)) :
    (store.configuration id).Shows capabilities record := by
  intro definition since latest
  have values := (tallies.2 definition since latest).2
  exact ⟨values .capacity, values .kind, values .virtualChannel⟩

end Tallies

end OnboardStorage
