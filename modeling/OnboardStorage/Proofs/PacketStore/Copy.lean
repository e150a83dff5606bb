import OnboardStorage.PacketStore.Copy
import OnboardStorage.Proofs.PacketStore.Admission

/-!
# What a copy does to its destination

A copy changes nothing of its destination but the content, and of a store that
holds packets not even that.  The packets of a source in time order, without
empty messages, cannot break a copy off; so a copy that is rejected has left its
destination as it was.
-/

namespace OnboardStorage.PacketStore

/-- What every packet that a store takes preserves, holds when packets have been
admitted in turn. -/
theorem acceptEach_preserves {packets : List Packet} (Kept : PacketStore → Prop)
    (taken : ∀ {store grown packet evicted}, packet ∈ packets →
      store.Takes packet grown evicted → Kept store → Kept grown)
    {store : PacketStore} (start : Kept store) (admitted evicted rejected : Nat) :
    Kept (store.acceptEach admitted evicted rejected packets).1 := by
  induction packets generalizing store admitted evicted rejected with
  | nil => exact start
  | cons packet rest ih =>
      have others := @ih fun {_ _ _ _} member => taken (List.mem_cons_of_mem _ member)
      rcases accepted : store.accept packet with ⟨next, refusal | dropped⟩
      · have unchanged := (accept_eq_error_iff.mp accepted).1
        subst unchanged
        cases refusal with
        | storeFull | exceedsCapacity =>
            simp only [acceptEach, accepted]
            exact others start _ _ _
        | _ =>
            simp only [acceptEach, accepted]
            exact start
      · simp only [acceptEach, accepted]
        exact others (taken List.mem_cons_self (takes_of_accept_eq_ok accepted) start) _ _ _

theorem acceptEach_settings (store : PacketStore) (admitted evicted rejected : Nat)
    (packets : List Packet) :
    (store.acceptEach admitted evicted rejected packets).1 =
      { store with
        content := (store.acceptEach admitted evicted rejected packets).1.content } := by
  apply acceptEach_preserves fun next => next = { store with content := next.content }
  · intro earlier grown packet dropped _ taken kept
    exact taken.settings.trans (kept ▸ rfl)
  · rfl

/-! ## What stands against a copy -/

/-- The first reason, if any, not to copy the packets of `window` from `source` into
`destination`. -/
def copyObstacle? (source destination : PacketStore) (window : Window) :
    Option Rejection :=
  if !destination.isEmpty then some .destinationNotEmpty
  else match source.oldestTag?, source.newestTag? with
    | some oldest, some newest =>
        window.fault?.or
          (if window.overlaps oldest newest then none else some .windowMissesPackets)
    | _, _ => some .copyFailed

/-- A store is never copied into itself. -/
theorem copyObstacle?_self (store : PacketStore) (window : Window) :
    store.copyObstacle? store window =
      some (if !store.isEmpty then .destinationNotEmpty else .copyFailed) := by
  unfold copyObstacle? oldestTag? isEmpty
  cases store.packets with
  | nil => rfl
  | cons packet rest => rfl

/-- A copy that something stands against leaves its destination as it was; any other
admits the selected packets in turn. -/
theorem copyWindow_eq (source destination : PacketStore) (window : Window) :
    source.copyWindow destination window =
      match source.copyObstacle? destination window with
      | some cause => (destination, .error cause)
      | none => destination.acceptEach 0 0 0 (source.selected window) := by
  unfold copyWindow copyObstacle?
  by_cases filled : (!destination.isEmpty) = true
  · rw [if_pos filled, if_pos filled]
  rw [if_neg filled, if_neg filled]
  cases source.oldestTag? with
  | none => rfl
  | some oldest =>
      cases source.newestTag? with
      | none => rfl
      | some newest =>
          cases valid : window.fault? with
          | some cause => simp
          | none =>
              by_cases overlap : window.overlaps oldest newest = true
              · simp [overlap]
              · simp [overlap]

theorem copyWindow_eq_of_copyObstacle? {source destination : PacketStore}
    {window : Window} {cause : Rejection}
    (obstacle : source.copyObstacle? destination window = some cause) :
    source.copyWindow destination window = (destination, .error cause) := by
  rw [copyWindow_eq, obstacle]

theorem copyWindow_eq_of_free {source destination : PacketStore} {window : Window}
    (free : source.copyObstacle? destination window = none) :
    source.copyWindow destination window =
      destination.acceptEach 0 0 0 (source.selected window) := by
  rw [copyWindow_eq, free]

/-- An accepted copy admits the selected packets in turn. -/
theorem copyWindow_eq_of_ok {source destination : PacketStore} {window : Window}
    {outcome : CopyOutcome}
    (accepted : (source.copyWindow destination window).2 = .ok outcome) :
    source.copyWindow destination window =
      destination.acceptEach 0 0 0 (source.selected window) := by
  cases obstacle : source.copyObstacle? destination window with
  | none => exact copyWindow_eq_of_free obstacle
  | some cause =>
      rw [copyWindow_eq_of_copyObstacle? obstacle] at accepted
      cases accepted

theorem copyWindow_settings (source destination : PacketStore) (window : Window) :
    (source.copyWindow destination window).1 =
      { destination with
        content := (source.copyWindow destination window).1.content } := by
  rw [copyWindow_eq]
  cases source.copyObstacle? destination window with
  | some cause => rfl
  | none => exact acceptEach_settings _ _ _ _ _

/-- A store that holds packets is no destination. -/
theorem copyWindow_of_packets_ne_nil {destination : PacketStore}
    (filled : destination.packets ≠ []) (source : PacketStore) (window : Window) :
    source.copyWindow destination window =
      (destination, .error .destinationNotEmpty) := by
  apply copyWindow_eq_of_copyObstacle?
  simp [copyObstacle?, isEmpty, filled]

/-! ## Packets that cannot break a copy off -/

/-- Packets that are refused by a store for want of room only. -/
structure Follow (packets : List Packet) (store : PacketStore) : Prop where
  ordered : packets.Pairwise fun older newer => older.timeTag ≤ newer.timeTag
  nonempty : ∀ packet ∈ packets, packet.data ≠ []
  late : ∀ newest ∈ store.newestTag?, ∀ packet ∈ packets, newest ≤ packet.timeTag

theorem Takes.newestTag?_eq {store grown : PacketStore} {packet : Packet}
    {evicted : Nat} (taken : store.Takes packet grown evicted) :
    grown.newestTag? = some packet.timeTag := by
  rw [PacketStore.newestTag?_eq, taken.packets, List.getLast?_append]
  rfl

/-- Packets that follow a store follow it also without the first of them, taken
or not. -/
theorem Follow.tail {packet : Packet} {rest : List Packet} {store : PacketStore}
    (follow : Follow (packet :: rest) store) : Follow rest store where
  ordered := (List.pairwise_cons.mp follow.ordered).2
  nonempty other member := follow.nonempty other (List.mem_cons_of_mem _ member)
  late newest last other member :=
    follow.late newest last other (List.mem_cons_of_mem _ member)

theorem Follow.taken {packet : Packet} {rest : List Packet} {store grown : PacketStore}
    {evicted : Nat} (follow : Follow (packet :: rest) store)
    (taken : store.Takes packet grown evicted) : Follow rest grown where
  ordered := follow.tail.ordered
  nonempty := follow.tail.nonempty
  late := by
    intro newest last other member
    rw [taken.newestTag?_eq] at last
    cases last
    exact (List.pairwise_cons.mp follow.ordered).1 other member

/-- A packet for which a store has no room. -/
def LacksRoom (store : PacketStore) (packet : Packet) : Prop :=
  store.capacity.toNat < packet.size ∨
    store.kind = .bounded ∧
      store.capacity.toNat < Packet.totalSize store.packets + packet.size

/-- The one reason for refusing a packet that follows is want of room. -/
theorem Follow.refusal?_eq {packet : Packet} {rest : List Packet} {store : PacketStore}
    (follow : Follow (packet :: rest) store) :
    store.refusal? packet =
      if store.capacity.toNat < packet.size then
        some (.exceedsCapacity packet.size store.capacity.toNat)
      else if store.kind = .bounded ∧
          store.capacity.toNat < Packet.totalSize store.packets + packet.size then
        some .storeFull
      else none := by
  have nonempty := follow.nonempty packet List.mem_cons_self
  have late : store.newestTag?.filter (packet.timeTag < ·) = none := by
    cases last : store.newestTag? with
    | none => rfl
    | some newest =>
        have le := follow.late newest last packet List.mem_cons_self
        simp [Option.filter, UInt32.not_lt.mpr le]
  simp only [refusal?, List.isEmpty_iff, nonempty, if_false, late, storedBytes_eq]

/-- What comes of the first of the packets that follow a store. -/
inductive OfferOutcome (store : PacketStore) (packet : Packet) (rest : List Packet) : Prop
  | taken {grown : PacketStore} {evicted : Nat}
      (room : ¬ store.LacksRoom packet)
      (taken : store.Takes packet grown evicted)
      (unmoved : store.kind = .bounded → evicted = 0)
      (follow : Follow rest grown)
      (continues : ∀ admitted given rejected,
        store.acceptEach admitted given rejected (packet :: rest) =
          grown.acceptEach (admitted + 1) (given + evicted) rejected rest)
  /-- The packet is passed over, and the store stays as it was. -/
  | passed
      (lacking : store.LacksRoom packet)
      (follow : Follow rest store)
      (continues : ∀ admitted given rejected,
        store.acceptEach admitted given rejected (packet :: rest) =
          store.acceptEach admitted given (rejected + 1) rest)

theorem Follow.outcome {packet : Packet} {rest : List Packet} {store : PacketStore}
    (follow : Follow (packet :: rest) store) : store.OfferOutcome packet rest := by
  have refusal_eq := follow.refusal?_eq
  split at refusal_eq
  · rename_i large
    apply OfferOutcome.passed (Or.inl large) follow.tail
    intro admitted given rejected
    rw [acceptEach, accept_eq_error_iff.mpr ⟨rfl, refusal_eq⟩]
  split at refusal_eq
  · rename_i full
    apply OfferOutcome.passed (Or.inr full) follow.tail
    intro admitted given rejected
    rw [acceptEach, accept_eq_error_iff.mpr ⟨rfl, refusal_eq⟩]
  · rename_i small spare
    rcases exists_takes_of_free refusal_eq with ⟨grown, evicted, accepted, taken, unmoved⟩
    apply OfferOutcome.taken (not_or.mpr ⟨small, spare⟩) taken unmoved (follow.taken taken)
    intro admitted given rejected
    rw [acceptEach, accepted]

theorem Follow.acceptEach_completes {packets : List Packet} {store : PacketStore}
    (follow : Follow packets store) (admitted evicted rejected : Nat) :
    ∃ outcome, (store.acceptEach admitted evicted rejected packets).2 = .ok outcome := by
  induction packets generalizing store admitted evicted rejected with
  | nil => exact ⟨_, rfl⟩
  | cons packet rest ih =>
      cases follow.outcome with
      | taken room taken unmoved restFollow continues =>
          rw [continues]
          exact ih restFollow _ _ _
      | passed lacking restFollow continues =>
          rw [continues]
          exact ih restFollow _ _ _

/-- The packets of a window follow a store that has none, if those of the
source are in time order and not empty. -/
theorem follow_selected {source destination : PacketStore}
    (ordered : source.packets.Pairwise fun older newer => older.timeTag ≤ newer.timeTag)
    (nonempty : ∀ packet ∈ source.packets, packet.data ≠ [])
    (empty : destination.packets = []) (window : Window) :
    Follow (source.selected window) destination := by
  have sublist : List.Sublist (source.selected window) source.packets :=
    List.filter_sublist.trans (List.takeWhile_sublist _)
  have noTag : destination.newestTag? = none := by
    rw [newestTag?_eq, empty]
    rfl
  constructor
  · exact ordered.sublist sublist
  · exact fun packet member => nonempty packet (sublist.subset member)
  · intro newest last
    rw [noTag] at last
    cases last

/-- Only an empty store is copied into. -/
theorem packets_eq_nil_of_free {source destination : PacketStore} {window : Window}
    (free : source.copyObstacle? destination window = none) :
    destination.packets = [] := by
  have vacant := (refusing_eq_none_iff.mp free).1
  simpa [isEmpty] using vacant

/-- A copy that nothing stands against is never broken off, if the packets of the
source are in time order and not empty. -/
theorem exists_copyWindow_eq_ok {source destination : PacketStore} {window : Window}
    (ordered : source.packets.Pairwise fun older newer => older.timeTag ≤ newer.timeTag)
    (nonempty : ∀ packet ∈ source.packets, packet.data ≠ [])
    (free : source.copyObstacle? destination window = none) :
    ∃ outcome, (source.copyWindow destination window).2 = .ok outcome := by
  have follow := follow_selected ordered nonempty (packets_eq_nil_of_free free) window
  rw [copyWindow_eq_of_free free]
  exact follow.acceptEach_completes 0 0 0

/-- A rejected copy leaves its destination as it was. -/
theorem copyWindow_eq_of_error {source destination : PacketStore} {window : Window}
    {cause : Rejection}
    (ordered : source.packets.Pairwise fun older newer => older.timeTag ≤ newer.timeTag)
    (nonempty : ∀ packet ∈ source.packets, packet.data ≠ [])
    (rejected : (source.copyWindow destination window).2 = .error cause) :
    (source.copyWindow destination window).1 = destination := by
  cases obstacle : source.copyObstacle? destination window with
  | some cause => rw [copyWindow_eq_of_copyObstacle? obstacle]
  | none =>
      rcases exists_copyWindow_eq_ok ordered nonempty obstacle with ⟨outcome, completed⟩
      rw [completed] at rejected
      cases rejected

/-! ## Packets that are admitted -/

/-- The packets that a store admits when they are offered to it in turn. -/
def admitted (store : PacketStore) : List Packet → List Packet
  | [] => []
  | packet :: rest =>
      match store.accept packet with
      | (grown, .ok _) => packet :: grown.admitted rest
      | (left, .error _) => left.admitted rest

end OnboardStorage.PacketStore
