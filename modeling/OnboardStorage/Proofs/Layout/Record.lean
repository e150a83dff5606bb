import OnboardStorage.Layout.Record
import OnboardStorage.Lookup

/-!
# Values and fields are read back

What is needed of each reader of single values is that it undoes the writer of
those values.  A record whose fields have different names is read by its names,
whatever the layout and wherever it stands.
-/

namespace OnboardStorage.Datum

@[simp]
theorem natural?_ofNat {bound number : Nat} (small : number < bound) :
    (ofNat number).natural? bound = some number :=
  if_pos small

@[simp]
theorem word8?_ofNat (word : UInt8) : (ofNat word.toNat).word8? = some word := by
  rw [word8?, natural?_ofNat word.toNat_lt, Option.map_some, Nat.toUInt8_eq,
    UInt8.ofNat_toNat]

@[simp]
theorem word16?_ofNat (word : UInt16) : (ofNat word.toNat).word16? = some word := by
  rw [word16?, natural?_ofNat word.toNat_lt, Option.map_some, Nat.toUInt16_eq,
    UInt16.ofNat_toNat]

@[simp]
theorem word32?_ofNat (word : UInt32) : (ofNat word.toNat).word32? = some word := by
  rw [word32?, natural?_ofNat word.toNat_lt, Option.map_some, Nat.toUInt32_eq,
    UInt32.ofNat_toNat]

@[simp]
theorem word64?_ofNat (word : UInt64) : (ofNat word.toNat).word64? = some word := by
  rw [word64?, natural?_ofNat word.toNat_lt, Option.map_some, Nat.toUInt64_eq,
    UInt64.ofNat_toNat]

/-- A list is read back if each of its items is. -/
theorem listOf?_map {α : Type} {read : Datum → Option α} {write : α → Datum}
    {values : List α} (each : ∀ value ∈ values, read (write value) = some value) :
    (Datum.list (values.map write)).listOf? read = some values := by
  induction values with
  | nil => rfl
  | cons value rest ih =>
      have others := ih fun other member => each other (List.mem_cons_of_mem _ member)
      rw [listOf?] at others ⊢
      rw [List.map_cons, List.mapM_cons, each value List.mem_cons_self, others]
      rfl

/-- A value that may be absent is read back, since no value is written as
`null`. -/
theorem optional_ofOption {α : Type} {read : Datum → Option α} {write : α → Datum}
    (notNull : ∀ value, write value ≠ .null)
    (each : ∀ value, read (write value) = some value) (value : Option α) :
    optional read (some (ofOption write value)) = some value := by
  cases value with
  | none => rfl
  | some value =>
      have absent := notNull value
      rw [ofOption]
      unfold optional
      split
      · cases ‹some (write value) = none›
      · rename_i equal
        exact absurd (Option.some.inj equal) absent
      · rename_i datum _ equal
        cases equal
        rw [each value]
        rfl

/-- Fields of different names are found under them. -/
theorem fields?_record {origin : Origin} {layout : List String}
    {fields : List (String × Datum)} (different : (fields.map Prod.fst).Nodup) :
    (Datum.record fields).fields? origin layout =
      some fun name => fields.lookup name := by
  refine if_pos ?_
  rw [List.all_eq_true]
  intro name _
  have few : ((fields.map Prod.fst).filter fun other => other = name).length ≤ 1 := by
    have count := List.nodup_iff_count.mp different name
    rw [List.count, List.countP_eq_length_filter] at count
    exact count
  rw [List.filter_map, List.length_map] at few
  exact decide_eq_true few

/-- A record is tagged by its first field, if no other has that name. -/
theorem tagged?_record_cons {tag : String} {fields : List (String × Datum)}
    (untagged : tag ∉ fields.map Prod.fst) (value : Datum) :
    (record ((tag, value) :: fields)).tagged? tag = some (value, .record fields) := by
  have others : ∀ field ∈ fields, ¬ field.1 = tag := by
    rintro field member rfl
    exact untagged (List.mem_map.mpr ⟨field, member, rfl⟩)
  have none_tagged : fields.filter (fun field => field.1 = tag) = [] := by
    rw [List.filter_eq_nil_iff]
    intro field member same
    exact others field member (of_decide_eq_true same)
  have all_others : fields.filter (fun field => !decide (field.1 = tag)) = fields := by
    rw [List.filter_eq_self]
    intro field member
    simpa using others field member
  simp [tagged?, List.partition_eq_filter_filter, none_tagged, Function.comp_def, all_others]

end OnboardStorage.Datum
