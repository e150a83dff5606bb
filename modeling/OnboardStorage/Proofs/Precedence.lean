/-!
# Grounds in order of precedence

A ground is a condition together with the answer it leads to.  Of a list of
grounds the first one whose condition holds decides, and where none holds there
is no answer.  Checks that the service makes one after another are compared with
such lists; the lemmas here take off one check and one ground at a time.
-/

namespace OnboardStorage

/-- A condition and the answer that it leads to. -/
structure Ground (α : Type) where
  applies : Prop
  answer : α

/-- The same condition with another answer. -/
def Ground.map {α β : Type} (change : α → β) (ground : Ground α) : Ground β :=
  ⟨ground.applies, change ground.answer⟩

/-- The first ground that applies decides; without one there is no answer. -/
inductive Decides {α : Type} : List (Ground α) → Option α → Prop
  | free : Decides [] none
  | here {ground : Ground α} {rest : List (Ground α)} (applies : ground.applies) :
      Decides (ground :: rest) (some ground.answer)
  | later {ground : Ground α} {rest : List (Ground α)} {decision : Option α}
      (passes : ¬ ground.applies) (others : Decides rest decision) :
      Decides (ground :: rest) decision

namespace Decides

variable {α β : Type} {ground : Ground α} {grounds rest : List (Ground α)}
  {decision : Option α} {condition : Prop} [Decidable condition]

/-- A refusal in front of other checks is a ground in front of other grounds. -/
theorem refusing (same : ground.applies ↔ condition)
    (others : ¬ condition → Decides rest decision) :
    Decides (ground :: rest) (if condition then some ground.answer else decision) := by
  by_cases holds : condition
  · rw [if_pos holds]
    exact .here (same.mpr holds)
  · rw [if_neg holds]
    exact .later (fun applies => holds (same.mp applies)) (others holds)

/-- A refusal with no further check behind it is the one ground. -/
theorem refusal (same : ground.applies ↔ condition) :
    Decides [ground] (if condition then some ground.answer else none) :=
  refusing same fun _ => .free

/-- A requirement in front of other checks is a ground that it fails. -/
theorem requiring (same : ground.applies ↔ ¬ condition)
    (others : condition → Decides rest decision) :
    Decides (ground :: rest) (if condition then decision else some ground.answer) := by
  by_cases holds : condition
  · rw [if_pos holds]
    exact .later (fun applies => same.mp applies holds) (others holds)
  · rw [if_neg holds]
    exact .here (same.mpr holds)

/-- A requirement with no further check behind it is the one ground. -/
theorem requirement (same : ground.applies ↔ ¬ condition) :
    Decides [ground] (if condition then none else some ground.answer) :=
  requiring same fun _ => .free

/-- Further grounds count where the first ones leave the decision open. -/
theorem append {further : Option α} (first : Decides grounds decision)
    (second : decision = none → Decides rest further) :
    Decides (grounds ++ rest) (decision.or further) := by
  induction first with
  | free => exact second rfl
  | here applies => exact .here applies
  | later passes others ih => exact .later passes (ih second)

theorem map (decides : Decides grounds decision) (change : α → β) :
    Decides (grounds.map (Ground.map change)) (decision.map change) := by
  induction decides with
  | free => exact .free
  | here applies => exact .here applies
  | later passes others ih => exact .later passes ih

/-- There is one decision. -/
theorem unique {other : Option α} (decides : Decides grounds decision)
    (again : Decides grounds other) : decision = other := by
  induction decides with
  | free =>
      cases again
      rfl
  | here applies =>
      cases again with
      | here _ => rfl
      | later passes _ => exact absurd applies passes
  | later passes others ih =>
      cases again with
      | here applies => exact absurd applies passes
      | later _ again => exact ih again

/-- Every answer comes from a ground that applies. -/
theorem exists_mem (decides : Decides grounds decision) :
    ∀ answer ∈ decision, ∃ ground ∈ grounds, ground.applies ∧ ground.answer = answer := by
  induction decides with
  | free => nofun
  | here applies =>
      intro answer given
      exact ⟨_, List.mem_cons_self, applies, Option.some.inj given⟩
  | later passes others ih =>
      intro answer given
      rcases ih answer given with ⟨ground, listed, applies, equal⟩
      exact ⟨ground, List.mem_cons_of_mem _ listed, applies, equal⟩

theorem eq_none_iff (decides : Decides grounds decision) :
    decision = none ↔ ∀ ground ∈ grounds, ¬ ground.applies := by
  induction decides with
  | free => simp
  | here applies => simp [applies]
  | later passes others ih => simp [passes, ih]

/-- What the first ground that applies answers is the decision. -/
theorem eq_some {earlier later : List (Ground α)}
    (decides : Decides (earlier ++ ground :: later) decision)
    (passed : ∀ other ∈ earlier, ¬ other.applies) (applies : ground.applies) :
    decision = some ground.answer := by
  induction earlier with
  | nil =>
      cases decides with
      | here _ => rfl
      | later passes others => exact absurd applies passes
  | cons first rest ih =>
      rcases List.forall_mem_cons.mp passed with ⟨passes, restPassed⟩
      cases decides with
      | here firstApplies => exact absurd firstApplies passes
      | later _ others => exact ih others restPassed

end Decides

end OnboardStorage
