import OnboardStorage.OrderedMap
import Mathlib.Data.List.Basic
import Mathlib.Data.Set.Card

/-!
# Finite maps, described and kept

What a finite map holds can be described as a partial function together with the number
of its keys, without saying how the entries are kept.  They may be kept in key order, as
in `OrderedMap`, or in slots: a new entry takes the slot behind the last one, an entry of
a known key is replaced in its slot, and the entry of the last slot moves to the place of
one that is removed.

The order of the slots depends on everything that has happened to them.  Look-up, sorting
the keys and every change come to the same as in key order, as long as no key has two
slots.

Where each call keeps two states related and is answered alike from both, so do calls in
turn; one step is all that has to be compared.
-/

namespace OnboardStorage

universe u v

/-! ## Partial maps -/

/-- At most one value for each key. -/
abbrev PartialMap (κ : Type u) (α : Type v) :=
  κ → Option α

namespace PartialMap

variable {κ : Type u} {α : Type v}

/-- The map without entries. -/
def empty : PartialMap κ α :=
  fun _ => none

/-- Number of keys that have a value. -/
noncomputable def count (map : PartialMap κ α) : Nat :=
  {key | (map key).isSome}.ncard

end PartialMap

namespace OrderedMap

variable {κ : Type u} {α : Type v} [LT κ] [DecidableEq κ]

theorem card_toFinset_keys [KeyOrder κ] (map : OrderedMap κ α) :
    map.keys.toFinset.card = map.size := by
  rw [List.toFinset_card_of_nodup map.keys_nodup, length_keys]

/-- An ordered map has as many entries as keys that look-up finds. -/
theorem count_get? [KeyOrder κ] (map : OrderedMap κ α) :
    PartialMap.count map.get? = map.size := by
  have keys_eq : {key | (map.get? key).isSome} = (map.keys.toFinset : Set κ) := by
    ext key
    simp [mem_keys_iff]
  rw [PartialMap.count, keys_eq, Set.ncard_coe_finset, card_toFinset_keys]

theorem get?_insert_eq_update [DecidableLT κ] [KeyOrder κ] (map : OrderedMap κ α) (key : κ)
    (value : α) : (map.insert key value).get? = Function.update map.get? key (some value) := by
  funext other
  rw [get?_insert, Function.update_apply, if_congr eq_comm rfl rfl]

theorem get?_erase_eq_update (map : OrderedMap κ α) (key : κ) :
    (map.erase key).get? = Function.update map.get? key none := by
  funext other
  rw [get?_erase, Function.update_apply, if_congr eq_comm rfl rfl]

theorem get?_modify_eq_update (map : OrderedMap κ α) (key : κ) (change : α → α) :
    (map.modify key change).get? =
      Function.update map.get? key ((map.get? key).map change) := by
  funext other
  rw [get?_modify, Function.update_apply]
  by_cases same : key = other
  · rw [if_pos same, if_pos same.symm, same]
  · rw [if_neg same, if_neg (Ne.symm same)]

end OrderedMap

/-! ## Slots -/

namespace Slots

variable {κ : Type u} {α : Type v}

section Lookup

variable [DecidableEq κ]

/-- The order of slots with distinct keys has no bearing on look-up. -/
theorem lookup_eq_of_perm {first second : List (κ × α)} (perm : first.Perm second)
    (distinct : (first.map Prod.fst).Nodup) (key : κ) :
    first.lookup key = second.lookup key := by
  apply Option.ext
  intro value
  rw [lookup_eq_some_iff_of_nodup distinct,
    lookup_eq_some_iff_of_nodup ((perm.map Prod.fst).nodup_iff.mp distinct)]
  exact perm.mem_iff

end Lookup

/-! ### Filling a slot -/

section Filling

variable [DecidableEq κ]

/-- The slots with `value` under `key`: in its slot if it has one, else behind the last. -/
def put (key : κ) (value : α) : List (κ × α) → List (κ × α)
  | [] => [(key, value)]
  | (other, kept) :: rest =>
      if other = key then (key, value) :: rest else (other, kept) :: put key value rest

theorem lookup_put (key other : κ) (value : α) (slots : List (κ × α)) :
    (put key value slots).lookup other =
      if key = other then some value else slots.lookup other := by
  induction slots with
  | nil => rw [put, lookup_cons_ite]
  | cons first rest ih =>
      simp only [put]
      split
      · rename_i known
        by_cases same : key = other <;> simp [lookup_cons_ite, known, same]
      · rename_i unknown
        by_cases here : first.1 = other
        · have different : key ≠ other := fun same => unknown (here.trans same.symm)
          simp [lookup_cons_ite, here, different]
        · simp [lookup_cons_ite, here, ih]

theorem mem_map_fst_put {key other : κ} {value : α} {slots : List (κ × α)} :
    other ∈ (put key value slots).map Prod.fst ↔
      other = key ∨ other ∈ slots.map Prod.fst := by
  induction slots with
  | nil => simp [put]
  | cons first rest ih =>
      simp only [put]
      split
      · rename_i known
        simp [known]
      · rw [List.map_cons, List.mem_cons, ih, List.map_cons, List.mem_cons]
        exact or_left_comm

theorem nodup_put {slots : List (κ × α)} (distinct : (slots.map Prod.fst).Nodup) (key : κ)
    (value : α) : ((put key value slots).map Prod.fst).Nodup := by
  induction slots with
  | nil => exact List.nodup_singleton key
  | cons first rest ih =>
      rw [List.map_cons, List.nodup_cons] at distinct
      simp only [put]
      split
      · rename_i known
        rw [List.map_cons, List.nodup_cons]
        exact ⟨known ▸ distinct.1, distinct.2⟩
      · rename_i unknown
        rw [List.map_cons, List.nodup_cons, mem_map_fst_put, not_or]
        exact ⟨⟨unknown, distinct.1⟩, ih distinct.2⟩

end Filling

/-! ### Removing a slot -/

section Removal

variable [DecidableEq κ]

/-- The slots without that of `key`: the entry of the last slot moves there. -/
def vacate (key : κ) (slots : List (κ × α)) : List (κ × α) :=
  slots.getLast?.elim [] fun last =>
    slots.dropLast.map fun slot => if slot.1 = key then last else slot

theorem map_fill_eq_self {key : κ} {slots : List (κ × α)}
    (others : ∀ slot ∈ slots, slot.1 ≠ key) (last : κ × α) :
    (slots.map fun slot => if slot.1 = key then last else slot) = slots := by
  rw [List.map_congr_left fun slot listed => if_neg (others slot listed)]
  exact List.map_id' slots

theorem filter_eq_self_of_forall_ne {key : κ} {slots : List (κ × α)}
    (others : ∀ slot ∈ slots, slot.1 ≠ key) :
    (slots.filter fun slot => slot.1 ≠ key) = slots :=
  List.filter_eq_self.mpr fun slot listed => decide_eq_true (others slot listed)

theorem map_fill_perm {key : κ} {slots : List (κ × α)}
    (distinct : (slots.map Prod.fst).Nodup) (member : key ∈ slots.map Prod.fst)
    (last : κ × α) :
    (slots.map fun slot => if slot.1 = key then last else slot).Perm
      (last :: slots.filter fun slot => slot.1 ≠ key) := by
  induction slots with
  | nil => cases member
  | cons first rest ih =>
      rw [List.map_cons, List.nodup_cons] at distinct
      by_cases same : first.1 = key
      · have others : ∀ slot ∈ rest, slot.1 ≠ key := fun slot listed isKey =>
          distinct.1 (same.trans isKey.symm ▸ List.mem_map_of_mem listed)
        rw [List.map_cons, if_pos same, List.filter_cons_of_neg (by simpa using same),
          map_fill_eq_self others, filter_eq_self_of_forall_ne others]
      · have later : key ∈ rest.map Prod.fst := by
          rw [List.map_cons, List.mem_cons] at member
          exact member.resolve_left (Ne.symm same)
        rw [List.map_cons, if_neg same, List.filter_cons_of_pos (by simpa using same)]
        exact ((ih distinct.2 later).cons first).trans (List.Perm.swap _ _ _)

theorem vacate_perm {key : κ} {slots : List (κ × α)}
    (distinct : (slots.map Prod.fst).Nodup) (member : key ∈ slots.map Prod.fst) :
    (vacate key slots).Perm (slots.filter fun slot => slot.1 ≠ key) := by
  have filled : slots ≠ [] := by
    rintro rfl
    cases member
  rcases slots.eq_nil_or_concat.resolve_left filled with ⟨front, last, rfl⟩
  rw [List.concat_eq_append] at distinct member ⊢
  rw [List.map_append, List.nodup_append] at distinct
  have vacate_eq : vacate key (front ++ [last]) =
      front.map fun slot => if slot.1 = key then last else slot := by
    rw [vacate, List.getLast?_concat, List.dropLast_concat]
    rfl
  rw [vacate_eq, List.filter_append]
  by_cases same : last.1 = key
  · have others : ∀ slot ∈ front, slot.1 ≠ key := by
      intro slot listed isKey
      have different := distinct.2.2 slot.1 (List.mem_map_of_mem listed) last.1 (by simp)
      exact different (isKey.trans same.symm)
    rw [map_fill_eq_self others, filter_eq_self_of_forall_ne others]
    simp [same]
  · have early : key ∈ front.map Prod.fst := by
      rw [List.map_append, List.mem_append] at member
      apply member.resolve_right
      simpa using Ne.symm same
    have last_kept : ([last].filter fun slot => slot.1 ≠ key) = [last] := by
      simp [same]
    rw [last_kept]
    exact (map_fill_perm distinct.1 early last).trans
      (List.perm_append_singleton _ _).symm

theorem nodup_vacate {key : κ} {slots : List (κ × α)}
    (distinct : (slots.map Prod.fst).Nodup) (member : key ∈ slots.map Prod.fst) :
    ((vacate key slots).map Prod.fst).Nodup := by
  rw [((vacate_perm distinct member).map Prod.fst).nodup_iff]
  exact distinct.sublist (List.filter_sublist.map _)

end Removal

/-! ### Slots in key order -/

section Order

variable [LT κ] [DecidableEq κ] [DecidableLT κ] [KeyOrder κ]

omit [DecidableEq κ] in
/-- Sorting leaves nothing of the order in which distinct keys are given. -/
theorem mergeSort_eq_of_perm {keys ascending : List κ} (perm : keys.Perm ascending)
    (strict : ascending.Pairwise (· < ·)) :
    (keys.mergeSort fun left right => !(right < left)) = ascending := by
  have sorted : (keys.mergeSort fun left right => !(right < left)).Pairwise
      fun left right => ¬ right < left := by
    have transitive (first second third : κ) (earlier : (!(second < first)) = true)
        (later : (!(third < second)) = true) : (!(third < first)) = true := by
      simp only [Bool.not_eq_true', decide_eq_false_iff_not] at earlier later ⊢
      intro before
      rcases KeyOrder.connex second first with less | same | more
      · exact earlier less
      · exact later (same ▸ before)
      · exact later (KeyOrder.trans before more)
    have total (first second : κ) :
        (!(second < first) || !(first < second)) = true := by
      simp only [Bool.or_eq_true, Bool.not_eq_true', decide_eq_false_iff_not]
      rw [← Classical.not_and_iff_not_or_not]
      rintro ⟨before, after⟩
      exact KeyOrder.irrefl _ (KeyOrder.trans before after)
    exact (List.pairwise_mergeSort transitive total _).imp fun ordered => by
      simpa using ordered
  have weakly : ascending.Pairwise fun left right => ¬ right < left :=
    strict.imp fun before after => KeyOrder.irrefl _ (KeyOrder.trans before after)
  apply List.Perm.eq_of_pairwise _ sorted weakly ((List.mergeSort_perm _ _).trans perm)
  intro left right _ _ notAfter notBefore
  rcases KeyOrder.connex left right with before | same | after
  · exact absurd before notBefore
  · exact same
  · exact absurd after notAfter

/-- The map of the entries in the slots. -/
def ordered (slots : List (κ × α)) : OrderedMap κ α :=
  OrderedMap.empty.insertAll slots

theorem get?_ordered {slots : List (κ × α)} (distinct : (slots.map Prod.fst).Nodup)
    (key : κ) : (ordered slots).get? key = slots.lookup key := by
  rw [ordered, OrderedMap.get?_insertAll distinct, OrderedMap.get?_empty, Option.or_none]

/-- The slots are the entries in key order, in some order. -/
theorem perm_entries {slots : List (κ × α)} (distinct : (slots.map Prod.fst).Nodup) :
    slots.Perm (ordered slots).entries := by
  have nodup_of_keys {entries : List (κ × α)}
      (distinct : (entries.map Prod.fst).Nodup) : entries.Nodup :=
    List.Pairwise.of_map Prod.fst (fun _ _ different => mt (congrArg Prod.fst) different)
      distinct
  rw [List.perm_ext_iff_of_nodup (nodup_of_keys distinct)
    (nodup_of_keys (ordered slots).keys_nodup)]
  rintro ⟨key, value⟩
  rw [OrderedMap.mem_entries_iff, get?_ordered distinct,
    lookup_eq_some_iff_of_nodup distinct]

theorem ordered_put {slots : List (κ × α)} (distinct : (slots.map Prod.fst).Nodup)
    (key : κ) (value : α) : ordered (put key value slots) = (ordered slots).insert key value := by
  apply OrderedMap.ext_get?
  intro other
  rw [get?_ordered (nodup_put distinct key value), lookup_put, OrderedMap.get?_insert,
    get?_ordered distinct]

theorem ordered_vacate {key : κ} {slots : List (κ × α)}
    (distinct : (slots.map Prod.fst).Nodup) (member : key ∈ slots.map Prod.fst) :
    ordered (vacate key slots) = (ordered slots).erase key := by
  have distinctRest := nodup_vacate distinct member
  have perm : (vacate key slots).Perm
      ((ordered slots).entries.filter fun slot => slot.1 ≠ key) :=
    (vacate_perm distinct member).trans ((perm_entries distinct).filter _)
  apply OrderedMap.ext_get?
  intro other
  rw [get?_ordered distinctRest]
  exact lookup_eq_of_perm perm distinctRest other

end Order

end Slots

/-! ## Calls in turn -/

section InTurn

variable {σ τ γ ρ : Type}

/-- Calls made in turn: the state that they lead to, and the replies. -/
def inTurn (step : σ → γ → σ × ρ) (state : σ) : List γ → σ × List ρ
  | [] => (state, [])
  | call :: rest =>
      ((inTurn step (step state call).1 rest).1,
        (step state call).2 :: (inTurn step (step state call).1 rest).2)

/-- States that each call keeps related and answers alike stay related under all calls
in turn, and these are answered alike. -/
theorem inTurn_related {step : σ → γ → σ × ρ} {other : τ → γ → τ × ρ}
    (Related : σ → τ → Prop)
    (kept : ∀ state twin call, Related state twin →
      Related (step state call).1 (other twin call).1 ∧
        (step state call).2 = (other twin call).2)
    {state : σ} {twin : τ} (start : Related state twin) (calls : List γ) :
    Related (inTurn step state calls).1 (inTurn other twin calls).1 ∧
      (inTurn step state calls).2 = (inTurn other twin calls).2 := by
  induction calls generalizing state twin with
  | nil => exact ⟨start, rfl⟩
  | cons call rest ih =>
      rcases kept state twin call start with ⟨related, reply⟩
      rcases ih related with ⟨final, replies⟩
      refine ⟨final, ?_⟩
      rw [inTurn, inTurn, reply, replies]

end InTurn

end OnboardStorage
