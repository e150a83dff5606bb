import OnboardStorage.Proofs.PacketStore.Selection

/-!
# What a copy leaves in its destination

A copy that nothing stands against offers the packets of its window to an empty
store, one after another.  Each of them is taken, or it is passed over for want of
room.  A circular destination ends with the longest part at the end of those packets
that could fit at all; a bounded one with the packets that fitted beside the ones
kept before them.  The counts of the copy add up to the packets of the window.
-/

namespace OnboardStorage

namespace Packet

/-- The longest part at the end of `offered` of at most `capacity` bytes. -/
structure LongestEnd (capacity : Nat) (offered kept : List Packet) : Prop where
  suffix : kept <:+ offered
  fits : totalSize kept ≤ capacity
  longest : ∀ other, other <:+ offered → totalSize other ≤ capacity →
    other.length ≤ kept.length

/-- Keep each packet that fits beside those kept before it. -/
def keepFitting (capacity : Nat) (kept offered : List Packet) : List Packet :=
  offered.foldl
    (fun kept packet =>
      if totalSize kept + packet.size ≤ capacity then kept ++ [packet] else kept)
    kept

/-- The packets that are no larger than `capacity`. -/
def fittingAlone (capacity : Nat) (packets : List Packet) : List Packet :=
  packets.filter fun packet => packet.size ≤ capacity

theorem longestEnd_self {capacity : Nat} {packets : List Packet}
    (fits : totalSize packets ≤ capacity) : LongestEnd capacity packets packets where
  suffix := List.suffix_rfl
  fits := fits
  longest := fun _ suffix _ => suffix.length_le

/-- What has been given up for want of room would not fit beside further packets. -/
theorem LongestEnd.append {capacity : Nat} {offered kept further final : List Packet}
    (first : LongestEnd capacity offered kept)
    (second : LongestEnd capacity (kept ++ further) final) :
    LongestEnd capacity (offered ++ further) final := by
  have inside : kept ++ further <:+ offered ++ further := by
    rcases first.suffix with ⟨gone, rfl⟩
    exact ⟨gone, (List.append_assoc gone kept further).symm⟩
  constructor
  · exact second.suffix.trans inside
  · exact second.fits
  · intro other isEnd fits
    rcases Nat.lt_or_ge (kept ++ further).length other.length with long | short
    · -- Such a part ends with all further packets, so its front is an end of `offered`.
      rw [List.length_append] at long
      have wide : further.length ≤ other.length := by omega
      rcases List.suffix_of_suffix_length_le (List.suffix_append offered further) isEnd wide
        with ⟨front, rfl⟩
      rcases isEnd with ⟨gone, equal⟩
      rw [← List.append_assoc] at equal
      rw [totalSize_append] at fits
      have small := first.longest front ⟨gone, List.append_cancel_right equal⟩ (by omega)
      rw [List.length_append] at long
      omega
    · exact second.longest other (List.suffix_of_suffix_length_le isEnd inside short) fits

end Packet

namespace PacketStore

variable {store grown result : PacketStore} {packet : Packet} {rest packets : List Packet}
  {admitted evicted rejected : Nat} {outcome : CopyOutcome}

/-! ## Packets offered in turn -/

theorem Takes.longestEnd (taken : store.Takes packet grown evicted) :
    Packet.LongestEnd store.capacity.toNat (store.packets ++ [packet]) grown.packets := by
  have packets_eq : grown.packets = (store.packets ++ [packet]).drop evicted := by
    rw [taken.packets, List.drop_append_of_le_length taken.evicted_le]
  constructor
  · rw [packets_eq]
    exact List.drop_suffix _ _
  · exact taken.fits
  · intro other isEnd fits
    have short := isEnd.length_le
    rw [List.suffix_iff_eq_drop] at isEnd
    rw [packets_eq, List.length_drop]
    apply Nat.le_of_not_lt
    intro longer
    have fewer : (store.packets ++ [packet]).length - other.length < evicted := by omega
    have lacking := taken.needed _ fewer
    have early : (store.packets ++ [packet]).length - other.length ≤ store.packets.length :=
      Nat.le_trans (Nat.le_of_lt fewer) taken.evicted_le
    rw [← List.drop_append_of_le_length early, ← isEnd] at lacking
    omega

/-- What becomes of a store to which packets are offered in turn, and of the counts,
which start at those given. -/
structure Ends (store : PacketStore) (packets : List Packet) (admitted evicted rejected : Nat)
    (result : PacketStore) (outcome : CopyOutcome) : Prop where
  circular : store.kind = .circular →
    Packet.totalSize store.packets ≤ store.capacity.toNat →
    Packet.LongestEnd store.capacity.toNat
        (store.packets ++ Packet.fittingAlone store.capacity.toNat packets)
        result.packets ∧
      outcome.rejected + (Packet.fittingAlone store.capacity.toNat packets).length =
        rejected + packets.length
  bounded : store.kind = .bounded →
    result.packets = Packet.keepFitting store.capacity.toNat store.packets packets ∧
      outcome.evicted = evicted
  counted : admitted = evicted + store.packets.length →
    outcome.copied = result.packets.length ∧
      outcome.copied + outcome.evicted + outcome.rejected =
        admitted + rejected + packets.length

theorem ends_nil (store : PacketStore) (admitted evicted rejected : Nat) :
    store.Ends [] admitted evicted rejected store
      ⟨admitted - evicted, evicted, rejected⟩ where
  circular := by
    intro _ fits
    simpa [Packet.fittingAlone] using Packet.longestEnd_self fits
  bounded := fun _ => ⟨rfl, rfl⟩
  counted := by
    intro kept
    constructor
    · exact Nat.sub_eq_of_eq_add' kept
    · simp only [List.length_nil]
      omega

theorem Ends.of_taken {given : Nat}
    (later : grown.Ends rest (admitted + 1) (evicted + given) rejected result outcome)
    (room : ¬ store.LacksRoom packet) (taken : store.Takes packet grown given)
    (unmoved : store.kind = .bounded → given = 0) :
    store.Ends (packet :: rest) admitted evicted rejected result outcome := by
  have kind_eq : grown.kind = store.kind := by rw [taken.settings]
  have capacity_eq : grown.capacity = store.capacity := by rw [taken.settings]
  rcases not_or.mp room with ⟨small, spare⟩
  constructor
  · intro circular fits
    have alone : Packet.fittingAlone store.capacity.toNat (packet :: rest) =
        packet :: Packet.fittingAlone store.capacity.toNat rest :=
      List.filter_cons_of_pos (by simpa using small)
    have grownFits := taken.fits
    rcases later.circular (kind_eq.trans circular) (capacity_eq ▸ grownFits) with
      ⟨restEnd, restCount⟩
    rw [capacity_eq] at restEnd restCount
    constructor
    · have whole := taken.longestEnd.append restEnd
      rw [List.append_assoc, List.singleton_append] at whole
      rw [alone]
      exact whole
    · rw [alone, List.length_cons, List.length_cons]
      omega
  · intro bounded
    have fitting : Packet.totalSize store.packets + packet.size ≤ store.capacity.toNat :=
      Nat.not_lt.mp fun full => spare ⟨bounded, full⟩
    rcases later.bounded (kind_eq.trans bounded) with ⟨packets_eq, evicted_eq⟩
    rw [unmoved bounded] at evicted_eq
    constructor
    · rw [packets_eq, capacity_eq, taken.packets, unmoved bounded, List.drop_zero]
      simp only [Packet.keepFitting, List.foldl_cons, fitting, if_true]
    · exact evicted_eq
  · intro kept
    have length_eq : grown.packets.length = store.packets.length - given + 1 := by
      rw [taken.packets, List.length_append, List.length_drop, List.length_singleton]
    have evicted_le := taken.evicted_le
    rcases later.counted (by omega) with ⟨copied_eq, total⟩
    constructor
    · exact copied_eq
    · rw [List.length_cons]
      omega

theorem Ends.of_passed
    (later : store.Ends rest admitted evicted (rejected + 1) result outcome)
    (lacking : store.LacksRoom packet) :
    store.Ends (packet :: rest) admitted evicted rejected result outcome := by
  constructor
  · intro circular fits
    have large : store.capacity.toNat < packet.size := by
      rcases lacking with large | ⟨bounded, -⟩
      · exact large
      · rw [circular] at bounded
        cases bounded
    have alone : Packet.fittingAlone store.capacity.toNat (packet :: rest) =
        Packet.fittingAlone store.capacity.toNat rest :=
      List.filter_cons_of_neg (by simpa using large)
    rcases later.circular circular fits with ⟨restEnd, restCount⟩
    rw [alone, List.length_cons]
    constructor
    · exact restEnd
    · omega
  · intro bounded
    have overfull : ¬ Packet.totalSize store.packets + packet.size ≤
        store.capacity.toNat := by
      rcases lacking with large | ⟨-, full⟩
      · omega
      · omega
    rcases later.bounded bounded with ⟨packets_eq, evicted_eq⟩
    constructor
    · rw [packets_eq]
      simp only [Packet.keepFitting, List.foldl_cons, overfull, if_false]
    · exact evicted_eq
  · intro kept
    rcases later.counted kept with ⟨copied_eq, total⟩
    constructor
    · exact copied_eq
    · rw [List.length_cons]
      omega

/-- Packets that follow a store are offered to it without a break. -/
theorem Follow.exists_ends (follow : Follow packets store)
    (admitted evicted rejected : Nat) :
    ∃ result outcome,
      store.acceptEach admitted evicted rejected packets = (result, .ok outcome) ∧
      store.Ends packets admitted evicted rejected result outcome := by
  induction packets generalizing store admitted evicted rejected with
  | nil => exact ⟨_, _, rfl, store.ends_nil admitted evicted rejected⟩
  | cons packet rest ih =>
      cases follow.outcome with
      | taken room taken unmoved restFollow continues =>
          rcases ih restFollow _ _ _ with ⟨result, outcome, completed, ends⟩
          exact ⟨result, outcome, (continues _ _ _).trans completed,
            ends.of_taken room taken unmoved⟩
      | passed lacking restFollow continues =>
          rcases ih restFollow _ _ _ with ⟨result, outcome, completed, ends⟩
          exact ⟨result, outcome, (continues _ _ _).trans completed,
            ends.of_passed lacking⟩

/-! ## Copies -/

/-- What a copy of the packets `selected` makes of an empty destination, and what it
counts. -/
structure CopiedInto (destination : PacketStore) (selected : List Packet)
    (result : PacketStore) (outcome : CopyOutcome) : Prop where
  settings : result = { destination with content := result.content }
  /-- The packets that could not fit at all are passed over; of the others, those that
  the destination does not hold in the end have made room for later ones. -/
  circular : destination.kind = .circular →
    Packet.LongestEnd destination.capacity.toNat
        (Packet.fittingAlone destination.capacity.toNat selected) result.packets ∧
      outcome.rejected + (Packet.fittingAlone destination.capacity.toNat selected).length =
        selected.length
  bounded : destination.kind = .bounded →
    result.packets = Packet.keepFitting destination.capacity.toNat [] selected ∧
      outcome.evicted = 0
  copied_eq : outcome.copied = result.packets.length
  total : outcome.copied + outcome.evicted + outcome.rejected = selected.length

/-- From a source in time order without empty messages, a copy into any store is
answered by the first ground that stands against it, and then the destination stays
as it was.  Without one it is carried out: the destination keeps of the packets of
the window as many as its rule allows, and the counts say which of them it holds,
which made room and which did not fit. -/
theorem copy_keeps_what_fits (source destination : PacketStore) (window : Window)
    (ordered : source.packets.Pairwise fun older newer => older.timeTag ≤ newer.timeTag)
    (nonempty : ∀ packet ∈ source.packets, packet.data ≠ []) :
    ∃ decision, Decides (source.copyGrounds destination window) decision ∧
      match decision with
      | some cause => source.copyWindow destination window = (destination, .error cause)
      | none => ∃ result outcome,
          source.copyWindow destination window = (result, .ok outcome) ∧
          destination.CopiedInto (source.within window) result outcome := by
  refine ⟨_, decides_copyObstacle? ordered destination window, ?_⟩
  cases obstacle : source.copyObstacle? destination window with
  | some cause => exact copyWindow_eq_of_copyObstacle? obstacle
  | none =>
      have empty := packets_eq_nil_of_free obstacle
      have follow := follow_selected ordered nonempty empty window
      rcases follow.exists_ends 0 0 0 with ⟨result, outcome, completed, ends⟩
      have carriedOut := (copyWindow_eq_of_free obstacle).trans completed
      have settings := source.copyWindow_settings destination window
      rw [carriedOut] at settings
      rw [selected_eq_within window ordered] at ends
      have circular := ends.circular
      have bounded := ends.bounded
      rw [empty] at circular bounded
      rcases ends.counted (by simp [empty]) with ⟨copied_eq, total⟩
      refine ⟨result, outcome, carriedOut, settings, ?_, bounded, copied_eq, ?_⟩
      · intro isCircular
        simpa using circular isCircular (Nat.zero_le _)
      · simpa using total

/-- Of four packets in a window the largest could not fit into a destination of six
bytes at all, and the oldest makes room for the others. -/
theorem small_store_keeps_the_last_of_a_window :
    let packet (tag : TimeTag) (size : Nat) : Packet := ⟨tag, List.replicate size 7⟩
    let source := { create 100 .circular 1 with
      content := .ofPackets
        [packet 10 4, packet 20 9, packet 20 3, packet 30 2, packet 40 1] }
    let destination := create 6 .circular 1
    (source.packets.Pairwise fun older newer => older.timeTag ≤ newer.timeTag) ∧
    (∀ packet ∈ source.packets, packet.data ≠ []) ∧
    ∃ result,
      source.copyWindow destination (.between 10 30) = (result, .ok ⟨2, 1, 1⟩) ∧
      result.packets = [packet 20 3, packet 30 2] ∧
      destination.CopiedInto (source.within (.between 10 30)) result ⟨2, 1, 1⟩ := by
  intro packet source destination
  have ordered : source.packets.Pairwise fun older newer =>
      older.timeTag ≤ newer.timeTag := by decide
  have nonempty : ∀ packet ∈ source.packets, packet.data ≠ [] := by decide
  have kept : (source.copyWindow destination (.between 10 30)).1.packets =
      [packet 20 3, packet 30 2] := by decide +kernel
  have counted : (source.copyWindow destination (.between 10 30)).2 = .ok ⟨2, 1, 1⟩ := rfl
  rcases copy_keeps_what_fits source destination (.between 10 30) ordered nonempty with
    ⟨decision, -, law⟩
  cases decision with
  | some cause =>
      rw [law] at counted
      cases counted
  | none =>
      rcases law with ⟨result, outcome, carriedOut, copied⟩
      rw [carriedOut] at kept counted
      cases counted
      exact ⟨ordered, nonempty, result, carriedOut, kept, copied⟩

end PacketStore

end OnboardStorage
