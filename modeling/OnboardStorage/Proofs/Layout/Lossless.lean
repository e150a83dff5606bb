import OnboardStorage.Proofs.FileTree
import OnboardStorage.Proofs.Layout.Config
import OnboardStorage.Proofs.Layout.Request
import OnboardStorage.Proofs.Loading

/-!
# JSON loses nothing

Definitions of stores, requests, stores, snapshots and configurations are read back from
their own JSON text, whichever way it is written and whatever values they hold.  Nothing
is asked of a store but that it is one: packets may be out of order or exceed its
capacity.  Its byte count is not written and comes out as it was.

So a text may be rewritten: the text of the value that is read from it stands for that
value again.
-/

namespace OnboardStorage

open Text

/-- Read a value from a JSON text. -/
def decode {α : Type} (read : Datum → Option α) (text : String) : Option α :=
  (Json.parse text).bind read

/-- A written form that loses nothing in JSON. -/
structure Lossless {α : Type} (write : α → Datum) (read : Datum → Option α) : Prop where
  /-- A value is read back from its text on one line. -/
  oneLine : ∀ value, decode read (Json.write (write value)) = some value
  /-- A value is read back from its text on several lines. -/
  indented : ∀ value, decode read (Json.writeIndented (write value)) = some value
  /-- A text that is rewritten stands for the same value. -/
  rewritten : ∀ text value, decode read text = some value →
    decode read (Json.write (write value)) = decode read text

/-- A written form loses nothing in JSON if its data is legible and read back. -/
theorem Lossless.of_legible {α : Type} {write : α → Datum} {read : Datum → Option α}
    (legible : ∀ value, (write value).Legible Json.maxDepth)
    (reads : ∀ value, read (write value) = some value) : Lossless write read := by
  have oneLine (value : α) : decode read (Json.write (write value)) = some value := by
    rw [decode, Json.parse_write (legible value), Option.bind_some, reads]
  constructor
  · exact oneLine
  · intro value
    rw [decode, Json.parse_writeIndented (legible value), Option.bind_some, reads]
  · intro text value decoded
    rw [oneLine, decoded]

/-! ## Levels -/

theorem StoreDefinition.legible_toDatum (definition : StoreDefinition) (depth : Nat) :
    definition.toDatum.Legible (depth + 1) := by
  simp [toDatum, StoreId.toDatum, StoreKind.toDatum]

theorem StoreResize.legible_toDatum (resize : StoreResize) (depth : Nat) :
    resize.toDatum.Legible (depth + 1) := by
  simp [toDatum, StoreId.toDatum]

theorem legible_priority (priority : Option UInt16) (depth : Nat) :
    (Datum.ofOption (fun level => .ofNat level.toNat) priority).Legible depth := by
  cases priority with
  | none => exact Datum.legible_null depth
  | some level => exact Datum.legible_ofNat level.toNat depth

theorem RetrievalStart.legible_toDatum (retrieval : RetrievalStart) (depth : Nat) :
    retrieval.toDatum.Legible (depth + 1) := by
  simp [toDatum, StoreId.toDatum, legible_priority]

/-- The fields of a request hold lists of records at most. -/
theorem Request.legible_toDatum (request : Request) (depth : Nat) :
    request.toDatum.Legible (depth + 3) := by
  cases request <;>
    simp [toDatum, toFields, storesToDatum, StoreId.toDatum, legible_priority,
      StoreDefinition.legible_toDatum, StoreResize.legible_toDatum,
      RetrievalStart.legible_toDatum]

theorem VirtualChannels.legible_toDatum (range : VirtualChannels) (depth : Nat) :
    range.toDatum.Legible (depth + 1) := by
  simp [toDatum]

theorem Capabilities.legible_toDatum (capabilities : Capabilities) (depth : Nat) :
    capabilities.toDatum.Legible (depth + 1) := by
  simp [toDatum]

theorem Route.legible_toDatum (route : Route) (depth : Nat) :
    route.toDatum.Legible (depth + 1) := by
  simp [toDatum, StoreId.toDatum]

theorem Config.legible_toDatum (config : Config) (depth : Nat) :
    config.toDatum.Legible (depth + 3) := by
  simp [toDatum, VirtualChannels.legible_toDatum, Capabilities.legible_toDatum,
    Route.legible_toDatum]

/-! ## Saved snapshots -/

/-- A snapshot that is loaded wherever it has been saved. -/
def Snapshot.LoadsWhereSaved (snapshot : Snapshot) : Prop :=
  ∀ (tree after : FileTree) (path : String),
    tree.write path snapshot.toText = .ok after → load (after.read path) = .ok snapshot

theorem FileTree.read_of_write_eq_ok {tree after : FileTree} {path text : String}
    (written : tree.write path text = .ok after) : after.read path = .ok text.toUTF8 := by
  cases free : tree.target path with
  | error fault =>
      rw [write, free] at written
      cases written
  | ok place =>
      rcases keeps_of_target_eq_ok free text with ⟨kept, ran, content⟩
      rw [write_host written] at ran
      cases ran
      exact content

theorem Snapshot.loadsWhereSaved (snapshot : Snapshot) : snapshot.LoadsWhereSaved := by
  intro tree after path written
  rw [FileTree.read_of_write_eq_ok written, load_toText]

/-! ## Everything that is written -/

theorem StoreId.lossless : Lossless toDatum ofDatum? := by
  apply Lossless.of_legible
  · intro id
    exact Datum.legible_text id.text _
  · exact ofDatum?_toDatum

theorem StoreDefinition.lossless (origin : Origin) : Lossless toDatum (ofDatum? origin) := by
  apply Lossless.of_legible
  · intro definition
    exact definition.legible_toDatum 126
  · exact ofDatum?_toDatum origin

theorem Request.lossless (origin : Origin) : Lossless toDatum (ofDatum? origin) := by
  apply Lossless.of_legible
  · intro request
    exact request.legible_toDatum 124
  · exact ofDatum?_toDatum origin

theorem PacketStore.lossless (origin : Origin) : Lossless toDatum (ofDatum? origin) := by
  apply Lossless.of_legible
  · intro store
    exact store.legible_toFields 123
  · exact ofDatum?_toDatum origin

theorem Snapshot.lossless : Lossless toDatum ofDatum? := by
  apply Lossless.of_legible
  · intro snapshot
    exact snapshot.legible_toDatum 121
  · exact ofDatum?_toDatum

theorem Config.lossless (origin : Origin) : Lossless toDatum (ofDatum? origin) := by
  apply Lossless.of_legible
  · intro config
    exact config.legible_toDatum 124
  · exact ofDatum?_toDatum origin

/-- Nothing that is written as JSON is lost: values are read back as they were, a store
with the count of its bytes, and a snapshot from the file that it was saved to. -/
theorem json_loses_nothing :
    Lossless StoreId.toDatum StoreId.ofDatum? ∧
    (∀ origin, Lossless StoreDefinition.toDatum (StoreDefinition.ofDatum? origin)) ∧
    (∀ origin, Lossless Request.toDatum (Request.ofDatum? origin)) ∧
    (∀ origin, Lossless PacketStore.toDatum (PacketStore.ofDatum? origin)) ∧
    (∀ store : PacketStore, (decode (PacketStore.ofDatum? .plain)
      (Json.write store.toDatum)).map PacketStore.storedBytes =
        some (Packet.totalSize store.packets)) ∧
    Lossless Snapshot.toDatum Snapshot.ofDatum? ∧
    (∀ snapshot : Snapshot, snapshot.LoadsWhereSaved) ∧
    ∀ origin, Lossless Config.toDatum (Config.ofDatum? origin) := by
  have counted (store : PacketStore) : (decode (PacketStore.ofDatum? .plain)
      (Json.write store.toDatum)).map PacketStore.storedBytes =
        some (Packet.totalSize store.packets) := by
    rw [(PacketStore.lossless .plain).oneLine, Option.map_some, store.storedBytes_eq]
  exact ⟨StoreId.lossless, StoreDefinition.lossless, Request.lossless, PacketStore.lossless,
    counted, Snapshot.lossless, Snapshot.loadsWhereSaved, Config.lossless⟩

end OnboardStorage
