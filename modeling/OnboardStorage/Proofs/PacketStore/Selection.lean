import OnboardStorage.Proofs.PacketStore.Copy
import OnboardStorage.Proofs.PacketStore.TimeOrder
import OnboardStorage.Proofs.Precedence

/-!
# What a window selects, and what stands against copying it

A window is described by the bounds that it has.  From a source in time order the
scan, which stops at the first tag past the window, selects the packets between the
bounds and no others; and the two ends of the source tell whether there are any.
The grounds against a copy are conditions on all packets of the source.
-/

namespace OnboardStorage

namespace Window

/-- The first tag between the bounds, if there is a lower bound. -/
def start? : Window → Option TimeTag
  | .between start _ | .atOrAfter start => some start
  | .atOrBefore _ => none

/-- The last tag between the bounds, if there is an upper bound. -/
def stop? : Window → Option TimeTag
  | .between _ stop | .atOrBefore stop => some stop
  | .atOrAfter _ => none

/-- Whether `tag` lies between the bounds. -/
def Bounds (window : Window) (tag : TimeTag) : Prop :=
  (∀ start ∈ window.start?, start ≤ tag) ∧ ∀ stop ∈ window.stop?, tag ≤ stop

theorem contains_iff {window : Window} {tag : TimeTag} :
    window.contains tag = true ↔ window.Bounds tag := by
  cases window <;> simp [contains, Bounds, start?, stop?]

instance (window : Window) (tag : TimeTag) : Decidable (window.Bounds tag) :=
  decidable_of_iff _ contains_iff

theorem isPast_iff {window : Window} {tag : TimeTag} :
    window.isPast tag = true ↔ ∃ stop ∈ window.stop?, stop < tag := by
  cases window <;> simp [isPast, stop?]

/-- A window misses a span that ends before its start or begins after its end. -/
theorem misses_iff {window : Window} {oldest newest : TimeTag} :
    ¬ window.overlaps oldest newest = true ↔
      (∃ start ∈ window.start?, newest < start) ∨
        ∃ stop ∈ window.stop?, stop < oldest := by
  cases window with
  | between start stop =>
      simp only [overlaps, Bool.and_eq_true, decide_eq_true_eq,
        Decidable.not_and_iff_not_or_not, UInt32.not_le]
      simp [start?, stop?, or_comm]
  | atOrAfter start => simp [overlaps, start?, stop?, UInt32.not_le]
  | atOrBefore stop => simp [overlaps, start?, stop?, UInt32.not_le]

/-- A window with two bounds that are not in order is the one fault. -/
theorem decides_fault? (window : Window) :
    Decides
      [⟨∃ start ∈ window.start?, ∃ stop ∈ window.stop?, stop ≤ start,
        Rejection.windowInvalid⟩]
      window.fault? := by
  cases window with
  | between start stop =>
      apply Decides.requirement
      simp [start?, stop?, UInt32.not_lt]
  | atOrAfter start | atOrBefore stop =>
      apply Decides.later _ .free
      simp [start?, stop?]

end Window

namespace PacketStore

/-! ## Selected packets -/

/-- The packets whose tags lie between the bounds of a window. -/
def within (store : PacketStore) (window : Window) : List Packet :=
  store.packets.filter fun packet => window.Bounds packet.timeTag

/-- Behind a packet that is past the window no packet lies between its bounds. -/
theorem filter_takeWhile_eq {packets : List Packet} (window : Window)
    (ordered : packets.Pairwise fun older newer => older.timeTag ≤ newer.timeTag) :
    ((packets.takeWhile fun packet => !window.isPast packet.timeTag).filter
        fun packet => window.contains packet.timeTag) =
      packets.filter fun packet => window.Bounds packet.timeTag := by
  induction packets with
  | nil => rfl
  | cons packet rest ih =>
      rcases List.pairwise_cons.mp ordered with ⟨later, restOrdered⟩
      by_cases past : window.isPast packet.timeTag = true
      · rcases Window.isPast_iff.mp past with ⟨stop, bound, before⟩
        have outside : ∀ other ∈ packet :: rest, ¬ window.Bounds other.timeTag := by
          intro other member bounds
          have reached := bounds.2 stop bound
          rcases List.mem_cons.mp member with rfl | behind
          · exact UInt32.not_le.mpr before reached
          · exact UInt32.not_le.mpr before
              (UInt32.le_trans (later other behind) reached)
        rw [List.takeWhile_cons_of_neg (by simp [past]), List.filter_nil, eq_comm,
          List.filter_eq_nil_iff]
        intro other member
        simpa using outside other member
      · rw [List.takeWhile_cons_of_pos (by simp [past]), List.filter_cons, List.filter_cons,
          ih restOrdered]
        simp only [Window.contains_iff, decide_eq_true_eq]

theorem selected_eq_within {store : PacketStore} (window : Window)
    (ordered : store.packets.Pairwise fun older newer => older.timeTag ≤ newer.timeTag) :
    store.selected window = store.within window :=
  filter_takeWhile_eq window ordered

/-! ## Grounds against a copy -/

/-- What stands against copying a window into a store. -/
def copyGrounds (source destination : PacketStore) (window : Window) :
    List (Ground Rejection) :=
  [⟨destination.packets ≠ [], .destinationNotEmpty⟩,
    ⟨source.packets = [], .copyFailed⟩,
    ⟨∃ start ∈ window.start?, ∃ stop ∈ window.stop?, stop ≤ start, .windowInvalid⟩,
    ⟨(∃ start ∈ window.start?, ∀ packet ∈ source.packets, packet.timeTag < start) ∨
        ∃ stop ∈ window.stop?, ∀ packet ∈ source.packets, stop < packet.timeTag,
      .windowMissesPackets⟩]

/-- A copy from a store in time order is checked by its grounds. -/
theorem decides_copyObstacle? {source : PacketStore}
    (ordered : source.packets.Pairwise fun older newer => older.timeTag ≤ newer.timeTag)
    (destination : PacketStore) (window : Window) :
    Decides (source.copyGrounds destination window)
      (source.copyObstacle? destination window) := by
  apply Decides.refusing
  · simp [isEmpty]
  intro _
  cases first : source.oldestTag? with
  | none => exact .here (oldestTag?_eq_none_iff.mp first)
  | some oldest =>
      have filled : source.packets ≠ [] := by
        intro empty
        rw [oldestTag?_eq_none_iff.mpr empty] at first
        cases first
      cases last : source.newestTag? with
      | none => exact absurd (newestTag?_eq_none_iff.mp last) filled
      | some newest =>
          apply Decides.later filled
          apply window.decides_fault?.append
          intro _
          apply Decides.requirement
          simp only [forall_tag_lt_iff ordered last, forall_lt_tag_iff ordered first]
          exact Window.misses_iff.symm

end PacketStore

end OnboardStorage
