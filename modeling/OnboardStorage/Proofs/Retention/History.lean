import OnboardStorage.Proofs.PacketStore.Copy
import OnboardStorage.Proofs.Soundness.Store

/-!
# What a store keeps of what it accepted

The history of a store lists, from its creation on, the packets it accepted,
the capacities it was given and the limits it was cleared up to.  Each of these
deeds restricts what may be left of the packets accepted so far.  The rule of
retention is stated without a store: skip as few of the oldest packets as all
deeds together require.

A store never looks back further than its own content, so the rule has to be
met by what each deed does to that content alone.  This is enough because a
deed that allows a content allows each later part of it: packets that earlier
deeds made the store give up need not be considered again.
-/

namespace OnboardStorage

/-- Something that bears on the content of a store. -/
inductive Deed where
  /-- A packet is accepted while `capacity` is in force. -/
  | filed (packet : Packet) (capacity : UInt32)
  | resized (capacity : UInt32)
  /-- The content is deleted up to `limit`. -/
  | trimmed (limit : TimeTag)
  deriving DecidableEq, Repr

namespace Deed

/-- What may be left of the packets accepted so far, at the time of a deed. -/
def Allows : Deed → List Packet → Prop
  | .filed _ capacity, packets | .resized capacity, packets =>
      Packet.totalSize packets ≤ capacity.toNat
  | .trimmed limit, packets => ∀ packet ∈ packets, limit < packet.timeTag

/-- The packets that histories accept, oldest first. -/
def accepted : List Deed → List Packet
  | [] => []
  | .filed packet _ :: rest => packet :: accepted rest
  | .resized _ :: rest | .trimmed _ :: rest => accepted rest

/-- Every deed of a history allows what is left of the packets accepted up to
it when the first `skipped` are gone. -/
def AllowSkipping (history : List Deed) (skipped : Nat) : Prop :=
  ∀ earlier deed later, history = earlier ++ deed :: later →
    deed.Allows ((accepted (earlier ++ [deed])).drop skipped)

/-- What is left when no more packets are skipped than the deeds require. -/
def KeepLongest (history : List Deed) (kept : List Packet) : Prop :=
  ∃ skipped ≤ (accepted history).length,
    kept = (accepted history).drop skipped ∧
    AllowSkipping history skipped ∧
    ∀ fewer < skipped, ¬ AllowSkipping history fewer

@[simp]
theorem accepted_append (first second : List Deed) :
    accepted (first ++ second) = accepted first ++ accepted second := by
  induction first with
  | nil => rfl
  | cons deed rest ih =>
      cases deed with
      | filed packet capacity => exact congrArg (packet :: ·) ih
      | resized capacity => exact ih
      | trimmed limit => exact ih

/-- A deed that allows packets allows each later part of them. -/
theorem Allows.of_suffix {deed : Deed} {packets later : List Packet}
    (allowed : deed.Allows packets) (suffix : later <:+ packets) :
    deed.Allows later := by
  obtain ⟨gone, rfl⟩ := suffix
  cases deed with
  | filed packet capacity =>
      rw [Allows, Packet.totalSize_append] at allowed
      exact Nat.le_trans (Nat.le_add_left _ _) allowed
  | resized capacity =>
      rw [Allows, Packet.totalSize_append] at allowed
      exact Nat.le_trans (Nat.le_add_left _ _) allowed
  | trimmed limit =>
      intro packet member
      exact allowed packet (List.mem_append_right _ member)

theorem AllowSkipping.mono {history : List Deed} {fewer more : Nat}
    (allowed : AllowSkipping history fewer) (le : fewer ≤ more) :
    AllowSkipping history more := by
  intro earlier deed later equal
  refine (allowed earlier deed later equal).of_suffix ?_
  obtain ⟨extra, rfl⟩ := Nat.exists_eq_add_of_le le
  rw [← List.drop_drop]
  exact List.drop_suffix _ _

/-- The last deed of a history is one more condition beside the earlier ones. -/
theorem allowSkipping_concat_iff {history : List Deed} {deed : Deed} {skipped : Nat} :
    AllowSkipping (history ++ [deed]) skipped ↔
      AllowSkipping history skipped ∧
      deed.Allows ((accepted (history ++ [deed])).drop skipped) := by
  constructor
  · intro allowed
    refine ⟨?_, allowed history deed [] rfl⟩
    rintro earlier given later rfl
    exact allowed earlier given (later ++ [deed]) (by simp)
  · rintro ⟨before, last⟩ earlier given later equal
    rcases List.eq_nil_or_concat later with rfl | ⟨others, final, rfl⟩
    · obtain ⟨rfl, same⟩ := List.append_inj' equal rfl
      cases same
      exact last
    · rw [List.concat_eq_append, ← List.cons_append, ← List.append_assoc] at equal
      exact before earlier given others (List.append_inj' equal rfl).1

theorem keepLongest_nil : KeepLongest [] [] := by
  refine ⟨0, Nat.le_refl _, rfl, ?_, ?_⟩
  · intro earlier deed later equal
    cases earlier <;> cases equal
  · intro fewer less
    cases less

/-- A store that meets a new deed by giving up as few packets of its own
content as it can follows the rule. -/
theorem KeepLongest.concat {history : List Deed} {kept : List Packet}
    (longest : KeepLongest history kept) {deed : Deed} {given : Nat}
    (given_le : given ≤ kept.length)
    (allowed : deed.Allows ((kept ++ accepted [deed]).drop given))
    (needed : ∀ fewer < given,
      ¬ deed.Allows ((kept ++ accepted [deed]).drop fewer)) :
    KeepLongest (history ++ [deed]) ((kept ++ accepted [deed]).drop given) := by
  obtain ⟨skipped, skipped_le, rfl, before, fewest⟩ := longest
  have drop_eq : ∀ count, (accepted (history ++ [deed])).drop (skipped + count) =
      ((accepted history).drop skipped ++ accepted [deed]).drop count := by
    intro count
    rw [accepted_append, ← List.drop_drop, List.drop_append_of_le_length skipped_le]
  have length_eq : ((accepted history).drop skipped).length =
      (accepted history).length - skipped := List.length_drop
  refine ⟨skipped + given, ?_, (drop_eq given).symm, ?_, ?_⟩
  · rw [accepted_append, List.length_append]
    omega
  · rw [allowSkipping_concat_iff, drop_eq]
    exact ⟨before.mono (Nat.le_add_right _ _), allowed⟩
  · intro fewer less wrong
    obtain ⟨earlier, last⟩ := allowSkipping_concat_iff.mp wrong
    rcases Nat.lt_or_ge fewer skipped with small | large
    · exact fewest fewer small earlier
    · obtain ⟨count, rfl⟩ := Nat.exists_eq_add_of_le large
      rw [drop_eq] at last
      exact needed count (Nat.lt_of_add_lt_add_left less) last

end Deed

/-! ## Stores that follow the rule -/

namespace PacketStore

/-- A content that is what the rule of retention leaves. -/
def Retains (store : PacketStore) (history : List Deed) : Prop :=
  Deed.KeepLongest history store.packets

variable {store : PacketStore} {history : List Deed}

theorem retains_create (capacity : UInt32) (kind : StoreKind) (channel : UInt8) :
    (create capacity kind channel).Retains [] :=
  Deed.keepLongest_nil

/-- Packets are all that retention is about. -/
theorem Retains.of_packets_eq (retains : store.Retains history) {other : PacketStore}
    (packets_eq : other.packets = store.packets) : other.Retains history := by
  rw [Retains, packets_eq]
  exact retains

theorem Retains.takes (retains : store.Retains history) {packet : Packet}
    {grown : PacketStore} {evicted : Nat} (taken : store.Takes packet grown evicted) :
    grown.Retains (history ++ [.filed packet store.capacity]) := by
  have drop_eq : ∀ count ≤ evicted,
      (store.packets ++ Deed.accepted [.filed packet store.capacity]).drop count =
        store.packets.drop count ++ [packet] := fun count le =>
    List.drop_append_of_le_length (Nat.le_trans le taken.evicted_le)
  have fits := taken.fits
  rw [taken.packets] at fits
  rw [Retains, taken.packets, ← drop_eq evicted (Nat.le_refl _)]
  refine Deed.KeepLongest.concat retains taken.evicted_le ?_ ?_
  · rw [drop_eq evicted (Nat.le_refl _)]
    exact fits
  · intro fewer less
    rw [drop_eq fewer (Nat.le_of_lt less)]
    exact Nat.not_le.mpr (taken.needed fewer less)

theorem Retains.resize (retains : store.Retains history) (capacity : UInt32) :
    (store.resize capacity).1.Retains (history ++ [.resized capacity]) := by
  have shrunk := store.shrinks_resize capacity
  have accepted_eq : store.packets ++ Deed.accepted [.resized capacity] =
      store.packets := List.append_nil _
  have fits := shrunk.fits
  rw [shrunk.packets] at fits
  rw [Retains, shrunk.packets, ← accepted_eq]
  refine Deed.KeepLongest.concat retains shrunk.evicted_le ?_ ?_
  · rw [accepted_eq]
    exact fits
  · intro fewer less
    rw [accepted_eq]
    exact Nat.not_le.mpr (shrunk.needed fewer less)

/-- Deleting from the front takes away all packets up to the limit, because a
sound store is in time order. -/
theorem Retains.deleteUntil {config : Config} (retains : store.Retains history)
    (sound : store.Sound config) (limit : TimeTag) :
    (store.deleteUntil limit).1.Retains (history ++ [.trimmed limit]) := by
  obtain ⟨deleted, trimmed⟩ := trims_deleteUntil sound.ordered limit
  have accepted_eq : store.packets ++ Deed.accepted [.trimmed limit] =
      store.packets := List.append_nil _
  have cleared := trimmed.cleared
  rw [trimmed.packets] at cleared
  rw [Retains, trimmed.packets, ← accepted_eq]
  refine Deed.KeepLongest.concat retains trimmed.deleted_le ?_ ?_
  · rw [accepted_eq]
    exact cleared
  · intro fewer less allowed
    rw [accepted_eq] at allowed
    obtain ⟨packet, member, old⟩ := trimmed.needed fewer less
    exact UInt32.not_lt.mpr old (allowed packet member)

/-- Packets admitted in turn are filed in turn. -/
theorem Retains.acceptEach {packets : List Packet} (retains : store.Retains history)
    {count evicted rejected : Nat} {outcome : CopyOutcome}
    (completed : (store.acceptEach count evicted rejected packets).2 = .ok outcome) :
    (store.acceptEach count evicted rejected packets).1.Retains
      (history ++ (store.admitted packets).map (Deed.filed · store.capacity)) := by
  induction packets generalizing store history count evicted rejected with
  | nil =>
      rw [admitted, List.map_nil, List.append_nil]
      exact retains
  | cons packet rest ih =>
      unfold PacketStore.acceptEach at completed ⊢
      unfold admitted
      cases accepted : store.accept packet with
      | mk next answer =>
      cases answer with
      | ok dropped =>
          have taken := takes_of_accept_eq_ok accepted
          have capacity_eq : next.capacity = store.capacity := by rw [taken.settings]
          simp only [accepted] at completed ⊢
          have later := ih (retains.takes taken) completed
          rw [capacity_eq, List.append_assoc] at later
          exact later
      | error refusal =>
          have unchanged := (accept_eq_error_iff.mp accepted).1
          subst unchanged
          cases refusal with
          | storeFull =>
              simp only [accepted] at completed ⊢
              exact ih retains completed
          | exceedsCapacity size capacity =>
              simp only [accepted] at completed ⊢
              exact ih retains completed
          | _ => simp [accepted] at completed

/-- An accepted copy files the packets it admits. -/
theorem Retains.copyWindow (retains : store.Retains history) {source : PacketStore}
    {window : Window} {outcome : CopyOutcome}
    (accepted : (source.copyWindow store window).2 = .ok outcome) :
    (source.copyWindow store window).1.Retains
      (history ++
        (store.admitted (source.selected window)).map
          (Deed.filed · store.capacity)) := by
  have same := copyWindow_eq_of_ok accepted
  rw [same] at accepted ⊢
  exact retains.acceptEach accepted

end PacketStore

end OnboardStorage
