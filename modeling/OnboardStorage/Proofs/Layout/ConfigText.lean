import OnboardStorage.CommandLine.Tool
import OnboardStorage.Proofs.Layout.Config
import OnboardStorage.Proofs.Loading
import OnboardStorage.Proofs.Start
import OnboardStorage.Proofs.Toml.Sections

/-!
# Configurations are read back from their text

The text of a configuration has its single values, two tables and its routes in sections
of their own, so nothing falls into the wrong table; that there are no routes is a single
value.  All names are bare, all numbers of a configuration that is checked fit 63 bits,
and any text can be the level of the log or the identifier of a store.  So the text is
read back as the configuration, with comments in front of it and lines behind it.
-/

namespace OnboardStorage

open Text Datum

namespace Config

/-! ## Statements in sections -/

/-- The single values of a configuration. -/
def singleValues (config : Config) : List (String × Datum) :=
  [("max_packet_stores", .ofNat config.maxStores.toNat),
    ("max_packet_store_size_bytes", .ofNat config.maxStoreBytes.toNat),
    ("max_message_size_bytes", .ofNat config.maxMessageBytes.toNat),
    ("log_level", .text config.logLevel)]

/-- The tables that every configuration has. -/
def ownTables (config : Config) : List (String × List (String × Datum)) :=
  [("virtual_channels",
      [("min", .ofNat config.virtualChannels.lowest.toNat),
        ("max", .ofNat config.virtualChannels.highest.toNat)]),
    ("capabilities",
      [("concurrent_retrieval_requests", .flag config.capabilities.concurrentRetrieval),
        ("prioritizing_retrievals", .flag config.capabilities.prioritizedRetrieval)])]

/-- The fields of a route. -/
def routeFields (route : Route) : List (String × Datum) :=
  [("service_type", .ofNat route.serviceType.toNat), ("packet_store", route.store.toDatum)]

theorem statements_of_routes_eq_nil {config : Config} (noRoutes : config.routes = []) :
    config.statements =
      Toml.Fields.entryStatements (config.singleValues ++ [("routes", .list [])]) ++
        Toml.Fields.tableStatements config.ownTables := by
  rw [statements, noRoutes]
  rfl

theorem statements_of_routes_ne_nil {config : Config} (routed : config.routes ≠ []) :
    config.statements =
      Toml.Fields.entryStatements config.singleValues ++
        (Toml.Fields.tableStatements config.ownTables ++
          Toml.Fields.elementStatements "routes" (config.routes.map routeFields)) := by
  have some_routes : config.routes.isEmpty = false := by
    simpa [List.isEmpty_eq_false_iff] using routed
  rw [statements, some_routes, if_neg Bool.false_ne_true, List.append_nil, List.append_assoc,
    Toml.Fields.elementStatements, List.flatMap_map]
  rfl

/-! ## The data of the text -/

theorem map_record_ownTables (config : Config) :
    config.ownTables.map (fun table => (table.1, Datum.record table.2)) =
      [("virtual_channels", config.virtualChannels.toDatum),
        ("capabilities", config.capabilities.toDatum)] :=
  rfl

theorem nodup_ownTables (config : Config) :
    ∀ table ∈ config.ownTables, (table.2.map Prod.fst).Nodup := by
  simp [ownTables]

theorem map_record_routeFields (routes : List Route) :
    (routes.map routeFields).map Datum.record = routes.map Route.toDatum := by
  rw [List.map_map]
  rfl

/-- Without routes, the empty list of them stands among the single values. -/
theorem bind_assemble_of_routes_eq_nil {config : Config} (noRoutes : config.routes = []) :
    (Toml.assemble config.statements).bind (ofDatum? .table) = some config := by
  rw [statements_of_routes_eq_nil noRoutes,
    Toml.assemble_tables (by simp [singleValues, ownTables]) config.nodup_ownTables,
    Option.bind_some, map_record_ownTables, ofDatum?, fields?_record (by simp [singleValues])]
  rcases config with ⟨maxStores, maxStoreBytes, maxMessageBytes, logLevel, range, features, routes⟩
  cases noRoutes
  simp (disch := decide) [singleValues, lookup_cons_of_ne, defaulted, text?, listOf?]

/-- Routes stand behind everything else. -/
theorem bind_assemble_of_routes_ne_nil {config : Config} (routed : config.routes ≠ []) :
    (Toml.assemble config.statements).bind (ofDatum? .table) = some config := by
  have routes : (Datum.list (config.routes.map Route.toDatum)).listOf?
      (Route.ofDatum? .table) = some config.routes :=
    listOf?_map fun route _ => route.ofDatum?_toDatum .table
  rw [statements_of_routes_ne_nil routed,
    Toml.assemble_sections (by simp [singleValues, ownTables]) config.nodup_ownTables
      (by simp [singleValues, ownTables]) (by simpa using routed) (by simp [routeFields]),
    Option.bind_some, map_record_ownTables, map_record_routeFields, ofDatum?,
    fields?_record (by simp [singleValues])]
  simp (disch := decide) [singleValues, lookup_cons_of_ne, defaulted, text?, routes]

/-- The statements of a configuration stand for it. -/
theorem bind_assemble_statements (config : Config) :
    (Toml.assemble config.statements).bind (ofDatum? .table) = some config := by
  by_cases noRoutes : config.routes = []
  · exact bind_assemble_of_routes_eq_nil noRoutes
  · exact bind_assemble_of_routes_ne_nil noRoutes

/-! ## Reading the text -/

theorem isWritable_number {name : String} (bare : Toml.IsBareName name) {number : Nat}
    (small : number < Nat.pow 2 63) : (entry name (.ofNat number)).IsWritable := by
  apply Toml.isWritable_entry bare
  rw [Toml.valueText_ofNat small]
  rfl

theorem isWritable_routeStatements (route : Route) :
    ∀ statement ∈ routeStatements route, statement.IsWritable := by
  have small : route.serviceType.toNat < Nat.pow 2 63 :=
    Nat.lt_trans route.serviceType.toNat_lt (by decide)
  intro statement listed
  simp only [routeStatements, List.mem_cons, List.not_mem_nil, or_false] at listed
  rcases listed with rfl | rfl | rfl
  · exact Toml.isWritable_element (by decide)
  · exact isWritable_number (by decide) small
  · exact Toml.isWritable_entry (by decide) rfl

/-- Every statement of a checked configuration can be written: its numbers are within the
limits of the platform. -/
theorem isWritable_statements {config : Config} (valid : config.check = .ok ()) :
    ∀ statement ∈ config.statements, statement.IsWritable := by
  rcases check_eq_ok_iff.mp valid with ⟨⟨-, stores⟩, -, ⟨-, messages⟩, -⟩
  have fewStores : config.maxStores.toNat < Nat.pow 2 63 :=
    Nat.lt_of_le_of_lt stores (by decide)
  have shortMessages : config.maxMessageBytes.toNat < Nat.pow 2 63 :=
    Nat.lt_of_le_of_lt messages (by decide)
  have smallStores : config.maxStoreBytes.toNat < Nat.pow 2 63 :=
    Nat.lt_trans config.maxStoreBytes.toNat_lt (by decide)
  have smallChannel (channel : UInt8) : channel.toNat < Nat.pow 2 63 :=
    Nat.lt_trans channel.toNat_lt (by decide)
  have ofFlag {name : String} (bare : Toml.IsBareName name) (flag : Bool) :
      (entry name (.flag flag)).IsWritable := by
    apply Toml.isWritable_entry bare
    cases flag <;> rfl
  intro statement listed
  simp only [statements, List.mem_append, List.mem_cons, List.not_mem_nil, or_false] at listed
  rcases listed with (((rfl | rfl | rfl | rfl) | ofNone) |
    rfl | rfl | rfl | rfl | rfl | rfl) | ofRoutes
  · exact isWritable_number (by decide) fewStores
  · exact isWritable_number (by decide) smallStores
  · exact isWritable_number (by decide) shortMessages
  · exact Toml.isWritable_entry (by decide) rfl
  · split at ofNone
    · rw [List.mem_singleton.mp ofNone]
      exact Toml.isWritable_entry (by decide) rfl
    · cases ofNone
  · exact Toml.isWritable_table (by decide)
  · exact isWritable_number (by decide) (smallChannel _)
  · exact isWritable_number (by decide) (smallChannel _)
  · exact Toml.isWritable_table (by decide)
  · exact ofFlag (by decide) _
  · exact ofFlag (by decide) _
  · rcases List.mem_flatMap.mp ofRoutes with ⟨route, -, ofRoute⟩
    exact isWritable_routeStatements route statement ofRoute

/-- A checked configuration has a text, which is read back with any remarks in front of
it and behind it. -/
theorem exists_toText?_eq_some {config : Config} (valid : config.check = .ok ()) :
    ∃ text, config.toText? = some text ∧
      ∀ front back : String, Toml.Remarks front.toList → Toml.Remarks back.toList →
        ofText? (front ++ text ++ back) = some config := by
  have writable := isWritable_statements valid
  rcases Toml.exists_write_eq_some writable with ⟨text, written⟩
  refine ⟨text, written, ?_⟩
  intro front back before behind
  have bare : ∀ statement ∈ config.statements, statement.key.IsBare :=
    fun statement listed => (writable statement listed).bare
  rw [ofText?, Toml.parse_write written bare before behind, bind_assemble_statements]

/-! ## Loading the text -/

/-- A configuration that is read and passes its check is loaded. -/
theorem load_toUTF8 {config : Config} {text : String} (readable : ofText? text = some config)
    (valid : config.check = .ok ()) : load (.ok text.toUTF8) = .ok config := by
  rw [load, OnboardStorage.load_toUTF8 readable]
  dsimp only
  rw [valid]

theorem remarks_newline : Toml.Remarks "\n".toList :=
  .empty (List.forall_mem_nil _) .nil

/-- The comment in front of the example is two lines and an empty one. -/
theorem remarks_exampleComment : Toml.Remarks CommandLine.exampleComment.toList := by
  have lines : CommandLine.exampleComment.toList =
      [] ++ '#' :: (" PUS Storage platform configuration".toList ++ '\n' ::
        ([] ++ '#' :: (" Generated by pus-storagectl gen-config".toList ++ '\n' ::
          ([] ++ ['\n'])))) := by
    decide +kernel
  rw [lines]
  exact .comment (List.forall_mem_nil _) (List.all_eq_true.mp (by decide +kernel))
    (.comment (List.forall_mem_nil _) (List.all_eq_true.mp (by decide +kernel))
      remarks_newline)

/-- Every configuration that passes its check is written as a text, and it is what is
loaded from a file that holds the text, also with any comment lines in front of it and
lines behind it, as the example is generated. -/
theorem text_is_loaded_back {config : Config} (valid : config.check = .ok ()) :
    ∃ text, config.toText? = some text ∧
      load (.ok text.toUTF8) = .ok config ∧
      (∀ front back : String, Toml.Remarks front.toList → Toml.Remarks back.toList →
        load (.ok (front ++ text ++ back).toUTF8) = .ok config) ∧
      load (.ok (CommandLine.exampleComment ++ text ++ "\n").toUTF8) = .ok config := by
  rcases exists_toText?_eq_some valid with ⟨text, written, readable⟩
  have withRemarks (front back : String) (before : Toml.Remarks front.toList)
      (behind : Toml.Remarks back.toList) :
      load (.ok (front ++ text ++ back).toUTF8) = .ok config :=
    load_toUTF8 (readable front back before behind) valid
  refine ⟨text, written, ?_, withRemarks, ?_⟩
  · have alone := withRemarks "" "" .nil .nil
    rwa [String.empty_append, String.append_empty] at alone
  · exact withRemarks _ _ remarks_exampleComment remarks_newline

/-- A level with marks, a backslash, a line break and a control character, and stores
whose identifiers have marks of both kinds, are loaded back. -/
theorem odd_texts_are_loaded_back :
    let quotation : StoreId := ⟨"say \"a\" or 'b'", by decide, by decide⟩
    let lines : StoreId := ⟨"one\n'''two'''", by decide, by decide⟩
    let config : Config :=
      { Config.standard with
        logLevel := "\"\"\"\\\n\t\x07", routes := [⟨3, quotation⟩, ⟨5, lines⟩] }
    config.check = .ok () ∧
    ∃ text, config.toText? = some text ∧ load (.ok text.toUTF8) = .ok config ∧
      load (.ok ("# odd\n" ++ text ++ "\n").toUTF8) = .ok config := by
  intro quotation lines config
  have valid : config.check = .ok () := rfl
  rcases text_is_loaded_back valid with ⟨text, written, loaded, withRemarks, -⟩
  have comment : Toml.Remarks "# odd\n".toList := by
    have line : "# odd\n".toList = [] ++ '#' :: (" odd".toList ++ '\n' :: []) := by
      decide +kernel
    rw [line]
    exact .comment (List.forall_mem_nil _) (List.all_eq_true.mp (by decide +kernel)) .nil
  exact ⟨valid, text, written, loaded, withRemarks _ _ comment remarks_newline⟩

end Config

end OnboardStorage
