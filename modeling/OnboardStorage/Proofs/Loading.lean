import OnboardStorage.Loading
import OnboardStorage.Proofs.Json.RoundTrip
import OnboardStorage.Proofs.Layout.Store

/-!
# Saved snapshots are loaded

A snapshot is nested six levels deep, far less than the reader keeps, and all
of it is legible.  So the text of any snapshot is read back as that snapshot,
and a file that holds the text is loaded.
-/

namespace OnboardStorage

open Text

/-- A file that holds a text is a text file. -/
theorem fileText_toUTF8 (text : String) : fileText (.ok text.toUTF8) = .ok text := by
  have decoded : String.fromUTF8? text.toUTF8 = some text := by
    simp only [String.fromUTF8?, String.toUTF8_eq_toByteArray, dif_pos text.isValidUTF8]
    rfl
  rw [fileText, decoded]

/-- What is read from a text is loaded from a file that holds it. -/
theorem load_toUTF8 {α : Type} {read : String → Option α} {text : String} {value : α}
    (readable : read text = some value) : load read (.ok text.toUTF8) = .ok value := by
  rw [load, fileText_toUTF8]
  simp only [readable]

/-! ## Levels of a snapshot -/

theorem Packet.legible_toDatum (packet : Packet) (depth : Nat) :
    packet.toDatum.Legible (depth + 2) := by
  simp [toDatum]

theorem TimeRange.legible_toDatum (range : TimeRange) (depth : Nat) :
    range.toDatum.Legible (depth + 1) := by
  simp [toDatum]

/-- The fields of a store hold lists of packets, which hold lists of bytes. -/
theorem PacketStore.legible_toFields (store : PacketStore) (depth : Nat) :
    ∀ field ∈ store.toFields, field.2.Legible (depth + 3) := by
  have range : (Datum.ofOption TimeRange.toDatum store.timeRangeRetrieval).Legible
      (depth + 3) := by
    cases store.timeRangeRetrieval with
    | none => exact Datum.legible_null _
    | some range => exact range.legible_toDatum _
  simp [toFields, range, StoreKind.toDatum, OpenRetrieval.toDatum,
    Packet.legible_toDatum]

namespace Snapshot

theorem legible_entryToDatum (entry : StoreId × PacketStore) (depth : Nat) :
    (entryToDatum entry).Legible (depth + 4) := by
  obtain ⟨id, store⟩ := entry
  intro field member
  rcases List.mem_cons.mp member with rfl | ofStore
  · exact Datum.legible_text _ _
  · exact store.legible_toFields _ field ofStore

theorem legible_toDatum (snapshot : Snapshot) (depth : Nat) :
    snapshot.toDatum.Legible (depth + 6) := by
  intro field member
  rw [List.mem_singleton.mp member]
  intro written listed
  obtain ⟨entry, _, rfl⟩ := List.mem_map.mp listed
  exact legible_entryToDatum entry depth

/-! ## Snapshots as text -/

/-- Every snapshot is read back from its text. -/
theorem ofText?_toText (snapshot : Snapshot) :
    ofText? snapshot.toText = some snapshot := by
  have parsed : Json.parse snapshot.toText = some snapshot.toDatum :=
    Json.parse_writeIndented (snapshot.legible_toDatum 121)
  rw [ofText?, parsed, Option.bind_some, ofDatum?_toDatum]

/-- Every snapshot is loaded from a file that holds its text. -/
theorem load_toText (snapshot : Snapshot) :
    load (.ok snapshot.toText.toUTF8) = .ok snapshot :=
  load_toUTF8 snapshot.ofText?_toText

end Snapshot

end OnboardStorage
