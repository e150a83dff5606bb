import OnboardStorage.Lookup

/-!
# Finite maps in key order

A finite map is kept as its list of entries in strictly ascending key order,
and the order is part of the type.  Two maps that answer every look-up alike
are therefore equal (`OrderedMap.ext_get?`), and listing a map needs no
sorting.

Each operation is described through look-up alone: `get?_insert`,
`get?_erase` and `get?_modify` need no hypothesis about the keys involved.
-/

namespace OnboardStorage

universe u v

/-- A strict order in which any two distinct keys are comparable. -/
class KeyOrder (κ : Type u) [LT κ] : Prop where
  trans : ∀ {a b c : κ}, a < b → b < c → a < c
  irrefl : ∀ a : κ, ¬ a < a
  connex : ∀ a b : κ, a < b ∨ a = b ∨ b < a

/-- Entries in strictly ascending key order. -/
structure OrderedMap (κ : Type u) (α : Type v) [LT κ] where
  entries : List (κ × α)
  ascending : entries.Pairwise fun first second => first.1 < second.1

namespace OrderedMap

variable {κ : Type u} {α : Type v} [LT κ]

instance [DecidableEq κ] [DecidableEq α] : DecidableEq (OrderedMap κ α) :=
  fun left right =>
    decidable_of_iff (left.entries = right.entries)
      ⟨fun h => by cases left; cases right; cases h; rfl, fun h => by rw [h]⟩

/-- The map without entries. -/
def empty : OrderedMap κ α :=
  ⟨[], List.Pairwise.nil⟩

/-- Keys in ascending order. -/
def keys (map : OrderedMap κ α) : List κ :=
  map.entries.map Prod.fst

/-- Number of keys. -/
def size (map : OrderedMap κ α) : Nat :=
  map.entries.length

theorem keys_ascending (map : OrderedMap κ α) :
    map.keys.Pairwise (· < ·) :=
  List.pairwise_map.mpr map.ascending

@[simp]
theorem length_keys (map : OrderedMap κ α) : map.keys.length = map.size := by
  simp [keys, size]

/-! ## Look-up -/

/-- The value held under `key`, if any. -/
def get? [DecidableEq κ] (map : OrderedMap κ α) (key : κ) : Option α :=
  map.entries.lookup key

/-- Whether a value is held under `key`. -/
def contains [DecidableEq κ] (map : OrderedMap κ α) (key : κ) : Bool :=
  (map.get? key).isSome

@[simp]
theorem get?_empty [DecidableEq κ] (key : κ) :
    (empty : OrderedMap κ α).get? key = none :=
  rfl

/-- A key is listed exactly when look-up finds it. -/
theorem mem_keys_iff [DecidableEq κ] {map : OrderedMap κ α} {key : κ} :
    key ∈ map.keys ↔ (map.get? key).isSome := by
  rw [keys, get?, Option.isSome_iff_ne_none, ne_eq, lookup_eq_none_iff_notMem,
    Decidable.not_not]

/-! ## Insertion -/

/-- Put an entry at its place, over an entry of the same key. -/
def insertEntry [DecidableEq κ] [DecidableLT κ] (key : κ) (value : α) :
    List (κ × α) → List (κ × α)
  | [] => [(key, value)]
  | (other, kept) :: rest =>
      if key < other then (key, value) :: (other, kept) :: rest
      else if other = key then (key, value) :: rest
      else (other, kept) :: insertEntry key value rest

theorem mem_insertEntry [DecidableEq κ] [DecidableLT κ] {key : κ} {value : α}
    {entries : List (κ × α)} {entry : κ × α}
    (hmem : entry ∈ insertEntry key value entries) :
    entry = (key, value) ∨ entry ∈ entries := by
  induction entries with
  | nil => simpa [insertEntry] using hmem
  | cons first rest ih =>
      simp only [insertEntry] at hmem
      split at hmem
      · simpa using hmem
      · split at hmem
        · rcases List.mem_cons.mp hmem with h | h
          · exact Or.inl h
          · exact Or.inr (List.mem_cons_of_mem _ h)
        · rcases List.mem_cons.mp hmem with h | h
          · exact Or.inr (h ▸ List.mem_cons_self)
          · exact (ih h).imp_right (List.mem_cons_of_mem _)

theorem insertEntry_ascending [DecidableEq κ] [DecidableLT κ] [KeyOrder κ]
    (key : κ) (value : α) {entries : List (κ × α)}
    (hentries : entries.Pairwise fun first second => first.1 < second.1) :
    (insertEntry key value entries).Pairwise
      fun first second => first.1 < second.1 := by
  induction entries with
  | nil => simp [insertEntry]
  | cons first rest ih =>
      have hrest := (List.pairwise_cons.mp hentries).2
      have hfirst := (List.pairwise_cons.mp hentries).1
      simp only [insertEntry]
      split
      · rename_i hlt
        refine List.pairwise_cons.mpr ⟨?_, hentries⟩
        intro entry hmem
        rcases List.mem_cons.mp hmem with rfl | h
        · exact hlt
        · exact KeyOrder.trans hlt (hfirst entry h)
      · split
        · rename_i heq
          refine List.pairwise_cons.mpr ⟨?_, hrest⟩
          intro entry hmem
          exact heq ▸ hfirst entry hmem
        · rename_i hnot hne
          refine List.pairwise_cons.mpr ⟨?_, ih hrest⟩
          intro entry hmem
          rcases mem_insertEntry hmem with rfl | h
          · rcases KeyOrder.connex first.1 key with h | h | h
            · exact h
            · exact absurd h hne
            · exact absurd h hnot
          · exact hfirst entry h

/-- Hold `value` under `key`, in place of any value held there before. -/
def insert [DecidableEq κ] [DecidableLT κ] [KeyOrder κ]
    (map : OrderedMap κ α) (key : κ) (value : α) : OrderedMap κ α :=
  ⟨insertEntry key value map.entries,
    insertEntry_ascending key value map.ascending⟩

theorem lookup_insertEntry [DecidableEq κ] [DecidableLT κ] (key other : κ)
    (value : α) (entries : List (κ × α)) :
    (insertEntry key value entries).lookup other =
      if key = other then some value else entries.lookup other := by
  induction entries with
  | nil => rw [insertEntry, lookup_cons_ite]
  | cons first rest ih =>
      simp only [insertEntry]
      split
      · rw [lookup_cons_ite]
      · split
        · rename_i heq
          by_cases h : key = other <;> simp [lookup_cons_ite, heq, h]
        · rename_i hne
          by_cases h : first.1 = other
          · have hkey : ¬ key = other := fun hk => hne (h.trans hk.symm)
            simp [lookup_cons_ite, h, hkey]
          · simp [lookup_cons_ite, h, ih]

theorem get?_insert [DecidableEq κ] [DecidableLT κ] [KeyOrder κ]
    (map : OrderedMap κ α) (key other : κ) (value : α) :
    (map.insert key value).get? other =
      if key = other then some value else map.get? other :=
  lookup_insertEntry key other value map.entries

theorem size_insert_le [DecidableEq κ] [DecidableLT κ] [KeyOrder κ]
    (map : OrderedMap κ α) (key : κ) (value : α) :
    (map.insert key value).size ≤ map.size + 1 := by
  suffices bounded : ∀ entries : List (κ × α),
      (insertEntry key value entries).length ≤ entries.length + 1 from
    bounded map.entries
  intro entries
  induction entries with
  | nil => exact Nat.le_refl _
  | cons first rest ih =>
      simp only [insertEntry]
      split
      · exact Nat.le_refl _
      · split
        · exact Nat.le_succ _
        · exact Nat.succ_le_succ ih

/-- A new key adds one entry. -/
theorem size_insert_of_get?_eq_none [DecidableEq κ] [DecidableLT κ] [KeyOrder κ]
    {map : OrderedMap κ α} {key : κ} (absent : map.get? key = none) (value : α) :
    (map.insert key value).size = map.size + 1 := by
  suffices counted : ∀ entries : List (κ × α), entries.lookup key = none →
      (insertEntry key value entries).length = entries.length + 1 from
    counted map.entries absent
  intro entries missing
  induction entries with
  | nil => rfl
  | cons first rest ih =>
      by_cases same : first.1 = key
      · simp [lookup_cons_ite, same] at missing
      · rw [lookup_cons_ite, if_neg same] at missing
        simp only [insertEntry, if_neg same]
        split
        · rfl
        · simp [ih missing]

/-! ## Removal -/

/-- Hold nothing under `key`. -/
def erase [DecidableEq κ] (map : OrderedMap κ α) (key : κ) : OrderedMap κ α :=
  ⟨map.entries.filter fun entry => entry.1 ≠ key, map.ascending.filter _⟩

theorem get?_erase [DecidableEq κ] (map : OrderedMap κ α) (key other : κ) :
    (map.erase key).get? other = if key = other then none else map.get? other := by
  suffices h : ∀ entries : List (κ × α),
      (entries.filter fun entry => entry.1 ≠ key).lookup other =
        if key = other then none else entries.lookup other from h map.entries
  intro entries
  induction entries with
  | nil => simp
  | cons first rest ih =>
      by_cases hfirst : first.1 = key
      · rw [List.filter_cons_of_neg (by simpa using hfirst), ih]
        by_cases h : key = other
        · simp [h]
        · simp [lookup_cons_ite, h, hfirst]
      · rw [List.filter_cons_of_pos (by simpa using hfirst)]
        by_cases h : first.1 = other
        · have hkey : ¬ key = other := fun hk => hfirst (h.trans hk.symm)
          simp [lookup_cons_ite, h, hkey]
        · simpa [lookup_cons_ite, h] using ih

theorem size_erase_le [DecidableEq κ] (map : OrderedMap κ α) (key : κ) :
    (map.erase key).size ≤ map.size :=
  List.length_filter_le _ _

/-! ## Change in place -/

/-- Replace the value under `key` by its image; other keys keep theirs. -/
def modify [DecidableEq κ] (map : OrderedMap κ α) (key : κ) (change : α → α) :
    OrderedMap κ α :=
  ⟨map.entries.map fun entry =>
      if entry.1 = key then (entry.1, change entry.2) else entry,
    List.pairwise_map.mpr (map.ascending.imp fun {first second} h => by
      have hkey : ∀ entry : κ × α,
          (if entry.1 = key then (entry.1, change entry.2) else entry).1 =
            entry.1 := fun entry => by split <;> rfl
      rw [hkey, hkey]
      exact h)⟩

@[simp]
theorem keys_modify [DecidableEq κ] (map : OrderedMap κ α) (key : κ)
    (change : α → α) : (map.modify key change).keys = map.keys := by
  simp only [keys, modify, List.map_map]
  apply List.map_congr_left
  intro entry _
  simp only [Function.comp_apply]
  split <;> rfl

@[simp]
theorem size_modify [DecidableEq κ] (map : OrderedMap κ α) (key : κ)
    (change : α → α) : (map.modify key change).size = map.size := by
  simp [size, modify]

theorem get?_modify [DecidableEq κ] (map : OrderedMap κ α) (key other : κ)
    (change : α → α) :
    (map.modify key change).get? other =
      if key = other then (map.get? other).map change else map.get? other := by
  suffices h : ∀ entries : List (κ × α),
      (entries.map fun entry =>
          if entry.1 = key then (entry.1, change entry.2) else entry).lookup other =
        if key = other then (entries.lookup other).map change
        else entries.lookup other from h map.entries
  intro entries
  induction entries with
  | nil => simp
  | cons first rest ih =>
      rw [List.map_cons]
      by_cases hfirst : first.1 = key
      · by_cases h : key = other
        · simp [lookup_cons_ite, hfirst, h]
        · have hother : ¬ first.1 = other := fun ho => h (hfirst.symm.trans ho)
          simpa [lookup_cons_ite, hfirst, h, hother] using ih
      · rw [if_neg hfirst]
        by_cases h : first.1 = other
        · have hkey : ¬ key = other := fun hk => hfirst (h.trans hk.symm)
          simp [lookup_cons_ite, h, hkey]
        · simpa [lookup_cons_ite, h] using ih

/-! ## Entries -/

theorem keys_nodup [KeyOrder κ] (map : OrderedMap κ α) : map.keys.Nodup := by
  refine map.keys_ascending.imp ?_
  rintro key _ before rfl
  exact KeyOrder.irrefl key before

/-- The entries of a map are what its look-ups find. -/
theorem mem_entries_iff [DecidableEq κ] [KeyOrder κ] {map : OrderedMap κ α}
    {key : κ} {value : α} :
    (key, value) ∈ map.entries ↔ map.get? key = some value :=
  (lookup_eq_some_iff_of_nodup map.keys_nodup).symm

/-! ## Equality -/

theorem entries_nodup [KeyOrder κ] (map : OrderedMap κ α) : map.entries.Nodup := by
  refine map.ascending.imp ?_
  rintro entry _ before rfl
  exact KeyOrder.irrefl entry.1 before

/-- A map is determined by its look-ups. -/
theorem ext_get? [DecidableEq κ] [KeyOrder κ] {left right : OrderedMap κ α}
    (hget : ∀ key, left.get? key = right.get? key) : left = right := by
  have hmem : ∀ entry, entry ∈ left.entries ↔ entry ∈ right.entries := by
    rintro ⟨key, value⟩
    rw [mem_entries_iff, mem_entries_iff, hget]
  have hperm : left.entries.Perm right.entries :=
    (List.perm_ext_iff_of_nodup left.entries_nodup right.entries_nodup).mpr hmem
  -- Two orders of the same entries that both ascend are the same order.
  have hentries : left.entries = right.entries := by
    apply hperm.eq_of_pairwise _ left.ascending right.ascending
    intro first second _ _ before after
    exact absurd (KeyOrder.trans before after) (KeyOrder.irrefl _)
  cases left
  cases right
  cases hentries
  rfl

/-! ## Many entries -/

/-- Hold every listed value under its key, later ones in place of earlier. -/
def insertAll [DecidableEq κ] [DecidableLT κ] [KeyOrder κ] (map : OrderedMap κ α)
    (entries : List (κ × α)) : OrderedMap κ α :=
  entries.foldl (fun grown entry => grown.insert entry.1 entry.2) map

@[simp]
theorem insertAll_nil [DecidableEq κ] [DecidableLT κ] [KeyOrder κ]
    (map : OrderedMap κ α) : map.insertAll [] = map :=
  rfl

@[simp]
theorem insertAll_cons [DecidableEq κ] [DecidableLT κ] [KeyOrder κ]
    (map : OrderedMap κ α) (entry : κ × α) (rest : List (κ × α)) :
    map.insertAll (entry :: rest) = (map.insert entry.1 entry.2).insertAll rest :=
  rfl

theorem get?_insertAll [DecidableEq κ] [DecidableLT κ] [KeyOrder κ]
    {entries : List (κ × α)} (distinct : (entries.map Prod.fst).Nodup)
    (map : OrderedMap κ α) (key : κ) :
    (map.insertAll entries).get? key = (entries.lookup key).or (map.get? key) := by
  induction entries generalizing map with
  | nil => rfl
  | cons first rest ih =>
      rw [List.map_cons, List.nodup_cons] at distinct
      rw [insertAll_cons, ih distinct.2, get?_insert]
      by_cases same : first.1 = key
      · have fresh : rest.lookup key = none :=
          lookup_eq_none_iff_notMem.mpr (same ▸ distinct.1)
        simp [lookup_cons_ite, same, fresh]
      · simp [lookup_cons_ite, same]

theorem size_insertAll_le [DecidableEq κ] [DecidableLT κ] [KeyOrder κ]
    (map : OrderedMap κ α) (entries : List (κ × α)) :
    (map.insertAll entries).size ≤ map.size + entries.length := by
  induction entries generalizing map with
  | nil => exact Nat.le_refl _
  | cons first rest ih =>
      have one := map.size_insert_le first.1 first.2
      have others := ih (map.insert first.1 first.2)
      rw [insertAll_cons, List.length_cons]
      omega

theorem insertAll_concat [DecidableEq κ] [DecidableLT κ] [KeyOrder κ]
    (map : OrderedMap κ α) (entries : List (κ × α)) (last : κ × α) :
    map.insertAll (entries ++ [last]) = (map.insertAll entries).insert last.1 last.2 := by
  rw [insertAll, List.foldl_append]
  rfl

/-- New entries under distinct keys are all added. -/
theorem size_insertAll_of_forall_get?_eq_none [DecidableEq κ] [DecidableLT κ] [KeyOrder κ]
    {map : OrderedMap κ α} {entries : List (κ × α)}
    (distinct : (entries.map Prod.fst).Nodup)
    (absent : ∀ entry ∈ entries, map.get? entry.1 = none) :
    (map.insertAll entries).size = map.size + entries.length := by
  induction entries generalizing map with
  | nil => rfl
  | cons first rest ih =>
      rw [List.map_cons, List.nodup_cons] at distinct
      have absentOfRest : ∀ entry ∈ rest,
          (map.insert first.1 first.2).get? entry.1 = none := by
        intro entry listed
        have different : first.1 ≠ entry.1 := fun same =>
          distinct.1 (same ▸ List.mem_map_of_mem listed)
        rw [get?_insert, if_neg different]
        exact absent entry (List.mem_cons_of_mem _ listed)
      rw [insertAll_cons, ih distinct.2 absentOfRest,
        size_insert_of_get?_eq_none (absent first List.mem_cons_self), List.length_cons]
      omega

/-- A map is rebuilt from its entries. -/
theorem insertAll_entries [DecidableEq κ] [DecidableLT κ] [KeyOrder κ]
    (map : OrderedMap κ α) : empty.insertAll map.entries = map := by
  apply ext_get?
  intro key
  rw [get?_insertAll map.keys_nodup, get?_empty, Option.or_none]
  rfl

end OrderedMap

end OnboardStorage
