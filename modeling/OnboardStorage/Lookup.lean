/-!
# Look-up in a list of entries

Entries are looked up by `List.lookup`, which finds the first one under a key.  Where
no key is used twice the first one is the only one, and what is found is what is listed.
-/

namespace OnboardStorage

universe u v

variable {κ : Type u} {α : Type v}

theorem lookup_cons_of_ne [BEq κ] [LawfulBEq κ] {key other : κ} (different : key ≠ other)
    (value : α) (rest : List (κ × α)) :
    ((other, value) :: rest).lookup key = rest.lookup key := by
  rw [List.lookup_cons, beq_eq_false_iff_ne.mpr different]

theorem lookup_cons_ite [DecidableEq κ] (key : κ) (entry : κ × α) (rest : List (κ × α)) :
    (entry :: rest).lookup key =
      if entry.1 = key then some entry.2 else rest.lookup key := by
  split
  · rename_i same
    subst same
    exact List.lookup_cons_self
  · rename_i different
    exact lookup_cons_of_ne (Ne.symm different) entry.2 rest

theorem lookup_eq_none_iff_notMem [BEq κ] [LawfulBEq κ] {key : κ}
    {entries : List (κ × α)} :
    entries.lookup key = none ↔ key ∉ entries.map Prod.fst := by
  rw [List.lookup_eq_none_iff]
  constructor
  · intro others listed
    rcases List.mem_map.mp listed with ⟨entry, member, rfl⟩
    exact bne_iff_ne.mp (others entry member) rfl
  · rintro unlisted entry member
    apply bne_iff_ne.mpr
    rintro rfl
    exact unlisted (List.mem_map_of_mem member)

theorem lookup_eq_some_iff_of_nodup [DecidableEq κ] {key : κ} {value : α}
    {entries : List (κ × α)} (distinct : (entries.map Prod.fst).Nodup) :
    entries.lookup key = some value ↔ (key, value) ∈ entries := by
  induction entries with
  | nil => simp
  | cons first rest ih =>
      rw [List.map_cons, List.nodup_cons] at distinct
      rw [lookup_cons_ite]
      by_cases same : first.1 = key
      · have fresh : (key, value) ∉ rest := fun member =>
          distinct.1 (same ▸ List.mem_map_of_mem member)
        rcases first with ⟨other, held⟩
        subst same
        simp [fresh, eq_comm]
      · have different : (key, value) ≠ first := fun equal =>
          same (congrArg Prod.fst equal).symm
        simp [same, ih distinct.2, different]

end OnboardStorage
