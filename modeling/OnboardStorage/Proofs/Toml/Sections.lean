import OnboardStorage.Lookup
import OnboardStorage.Proofs.Toml.Document

/-!
# Documents in sections

A document gives single values first, then tables under headers of their own, then
several tables of one name.  If no name is used twice in one place, its data is one
record of all that, and no value falls into another table than the one that is open.

A table is open at a place in the tree.  What is asked of such a place is that a change
of the table is the change of the whole tree; then entries are added to the table one by
one, wherever it stands.
-/

namespace OnboardStorage.Text.Toml

/-! ## Fields by name -/

theorem lookup_append_self {front : Fields} {name : String}
    (fresh : name ∉ front.map Prod.fst) (node : Node) :
    (front ++ [(name, node)]).lookup name = some node := by
  rw [List.lookup_append, lookup_eq_none_iff_notMem.mpr fresh, Option.none_or,
    List.lookup_cons_self]

namespace Fields

/-- A new field is the last one. -/
theorem put_of_notMem {fields : Fields} {name : String}
    (fresh : name ∉ fields.map Prod.fst) (node : Node) :
    fields.put name node = fields ++ [(name, node)] := by
  induction fields with
  | nil => rfl
  | cons field rest ih =>
      rw [List.map_cons, List.mem_cons, not_or] at fresh
      rw [put, if_neg (Ne.symm fresh.1), ih fresh.2, List.cons_append]

theorem put_append_self {front : Fields} {name : String}
    (fresh : name ∉ front.map Prod.fst) (before node : Node) :
    put (front ++ [(name, before)]) name node = front ++ [(name, node)] := by
  induction front with
  | nil => rw [List.nil_append, put, if_pos rfl]; rfl
  | cons field rest ih =>
      rw [List.map_cons, List.mem_cons, not_or] at fresh
      rw [List.cons_append, put, if_neg (Ne.symm fresh.1), ih fresh.2, List.cons_append]

/-! ## Places -/

/-- The table at a path is open: changing it changes the tree as `refill` says. -/
def IsOpenAt (opened : List String) (refill : Fields → Fields) : Prop :=
  ∀ (content : Fields) (change : TableOrigin → Fields → Option Fields),
    descend .implied change opened .header (refill content) =
      (change .header content).map refill

theorem isOpenAt_document : IsOpenAt [] id := by
  intro content change
  rw [Option.map_id]
  rfl

theorem isOpenAt_table {front : Fields} {name : String} (fresh : name ∉ front.map Prod.fst) :
    IsOpenAt [name] fun content => front ++ [(name, .table .header content)] := by
  intro content change
  rw [descend, lookup_append_self fresh]
  dsimp only
  rw [if_neg (by decide), descend]
  cases change .header content with
  | none => rfl
  | some inner => exact congrArg some (put_append_self fresh _ _)

/-- Of several tables of one name, the last one is open. -/
theorem isOpenAt_element {front : Fields} {name : String} (fresh : name ∉ front.map Prod.fst)
    (elements : List Fields) :
    IsOpenAt [name] fun content => front ++ [(name, .tables (elements ++ [content]))] := by
  intro content change
  rw [descend, lookup_append_self fresh]
  dsimp only
  rw [List.getLast?_concat, Option.getD_some, List.dropLast_concat, descend]
  cases change .header content with
  | none => rfl
  | some inner => exact congrArg some (put_append_self fresh _ _)

/-! ## Statements in turn -/

/-- The fields of single values. -/
def leaves (entries : List (String × Datum)) : Fields :=
  entries.map fun entry => (entry.1, .leaf entry.2)

/-- The statements that give single values. -/
def entryStatements (entries : List (String × Datum)) : List Statement :=
  entries.map fun entry => .entry (.plain entry.1) entry.2

theorem map_fst_leaves (entries : List (String × Datum)) :
    (leaves entries).map Prod.fst = entries.map Prod.fst := by
  rw [leaves, List.map_map]
  rfl

/-- A new entry is added to the table that is open. -/
theorem perform_entry {opened : List String} {refill : Fields → Fields}
    (place : IsOpenAt opened refill) {content : Fields} {name : String}
    (fresh : name ∉ content.map Prod.fst) (value : Datum) :
    perform opened (refill content) (.entry (.plain name) value) =
      some (opened, refill (content ++ [(name, .leaf value)])) := by
  have entered : enter (.plain name) value .header content =
      some (content ++ [(name, .leaf value)]) := by
    rw [← put_of_notMem fresh]
    apply if_pos
    rw [Key.plain, lookup_eq_none_iff_notMem.mpr fresh]
    exact ⟨rfl, rfl⟩
  rw [perform, place, entered]
  rfl

/-- New entries are added to the table that is open, in their order. -/
theorem performEach_entryStatements {opened : List String} {refill : Fields → Fields}
    (place : IsOpenAt opened refill) {content : Fields} {entries : List (String × Datum)}
    (distinct : (content.map Prod.fst ++ entries.map Prod.fst).Nodup)
    (rest : List Statement) :
    performEach opened (refill content) (entryStatements entries ++ rest) =
      performEach opened (refill (content ++ leaves entries)) rest := by
  induction entries generalizing content with
  | nil =>
      rw [leaves, List.map_nil, List.append_nil]
      rfl
  | cons entry entries ih =>
      have fresh : entry.1 ∉ content.map Prod.fst := by
        intro listed
        rw [List.nodup_append] at distinct
        exact distinct.2.2 entry.1 listed entry.1 List.mem_cons_self rfl
      have others : ((content ++ [(entry.1, Node.leaf entry.2)]).map Prod.fst ++
          entries.map Prod.fst).Nodup := by
        rw [List.map_append, List.append_assoc]
        exact distinct
      have leaves_eq : content ++ leaves (entry :: entries) =
          content ++ [(entry.1, .leaf entry.2)] ++ leaves entries := by
        rw [List.append_assoc]
        rfl
      have statements_eq : entryStatements (entry :: entries) ++ rest =
          .entry (.plain entry.1) entry.2 :: (entryStatements entries ++ rest) := rfl
      rw [statements_eq, performEach, perform_entry place fresh]
      dsimp only
      rw [ih others, leaves_eq]

/-- Statements behind a header fill its table. -/
theorem performEach_emptyTable {opened : List String} {refill : Fields → Fields}
    (place : IsOpenAt opened refill) {entries : List (String × Datum)}
    (distinct : (entries.map Prod.fst).Nodup) (rest : List Statement) :
    performEach opened (refill []) (entryStatements entries ++ rest) =
      performEach opened (refill (leaves entries)) rest := by
  have distinctFromNone : (([] : Fields).map Prod.fst ++ entries.map Prod.fst).Nodup := distinct
  exact performEach_entryStatements place distinctFromNone rest

/-- A header opens a new table. -/
theorem performEach_table {opened : List String} {fields : Fields} {name : String}
    (fresh : name ∉ fields.map Prod.fst) {entries : List (String × Datum)}
    (distinct : (entries.map Prod.fst).Nodup) (rest : List Statement) :
    performEach opened fields (.table (.plain name) :: (entryStatements entries ++ rest)) =
      performEach [name] (fields ++ [(name, .table .header (leaves entries))]) rest := by
  have added : perform opened fields (.table (.plain name)) =
      some ([name], fields ++ [(name, .table .header [])]) := by
    rw [← put_of_notMem fresh, perform, Key.plain, descend, openTable,
      lookup_eq_none_iff_notMem.mpr fresh]
    rfl
  rw [performEach, added]
  exact performEach_emptyTable (isOpenAt_table fresh) distinct rest

/-- A header of several tables opens the first one of its name. -/
theorem performEach_firstElement {opened : List String} {fields : Fields} {name : String}
    (fresh : name ∉ fields.map Prod.fst) {entries : List (String × Datum)}
    (distinct : (entries.map Prod.fst).Nodup) (rest : List Statement) :
    performEach opened fields (.element (.plain name) :: (entryStatements entries ++ rest)) =
      performEach [name] (fields ++ [(name, .tables [leaves entries])]) rest := by
  have added : perform opened fields (.element (.plain name)) =
      some ([name], fields ++ [(name, .tables [[]])]) := by
    rw [← put_of_notMem fresh, perform, Key.plain, descend, openElement,
      lookup_eq_none_iff_notMem.mpr fresh]
    rfl
  rw [performEach, added]
  exact performEach_emptyTable (isOpenAt_element fresh []) distinct rest

/-- A header of several tables opens the next one of its name. -/
theorem performEach_nextElement {opened : List String} {front : Fields} {name : String}
    (fresh : name ∉ front.map Prod.fst) (elements : List Fields)
    {entries : List (String × Datum)} (distinct : (entries.map Prod.fst).Nodup)
    (rest : List Statement) :
    performEach opened (front ++ [(name, .tables elements)])
        (.element (.plain name) :: (entryStatements entries ++ rest)) =
      performEach [name] (front ++ [(name, .tables (elements ++ [leaves entries]))]) rest := by
  have added : perform opened (front ++ [(name, .tables elements)]) (.element (.plain name)) =
      some ([name], front ++ [(name, .tables (elements ++ [[]]))]) := by
    rw [perform, Key.plain, descend, openElement, lookup_append_self fresh]
    dsimp only
    rw [put_append_self fresh]
    rfl
  rw [performEach, added]
  exact performEach_emptyTable (isOpenAt_element fresh elements) distinct rest

/-- The statements of several tables of one name. -/
def elementStatements (name : String) (elements : List (List (String × Datum))) :
    List Statement :=
  elements.flatMap fun entries => .element (.plain name) :: entryStatements entries

theorem performEach_nextElements {opened : List String} {front : Fields} {name : String}
    (fresh : name ∉ front.map Prod.fst) (before : List Fields)
    {elements : List (List (String × Datum))}
    (distinct : ∀ entries ∈ elements, (entries.map Prod.fst).Nodup) :
    performEach opened (front ++ [(name, .tables before)]) (elementStatements name elements) =
      some (front ++ [(name, .tables (before ++ elements.map leaves))]) := by
  induction elements generalizing opened before with
  | nil =>
      rw [List.map_nil, List.append_nil]
      rfl
  | cons entries elements ih =>
      rcases List.forall_mem_cons.mp distinct with ⟨ofEntries, ofElements⟩
      rw [elementStatements, List.flatMap_cons, ← elementStatements, List.cons_append,
        performEach_nextElement fresh before ofEntries, ih _ ofElements, List.append_assoc]
      rfl

theorem performEach_elements {opened : List String} {fields : Fields} {name : String}
    (fresh : name ∉ fields.map Prod.fst) {elements : List (List (String × Datum))}
    (nonempty : elements ≠ [])
    (distinct : ∀ entries ∈ elements, (entries.map Prod.fst).Nodup) :
    performEach opened fields (elementStatements name elements) =
      some (fields ++ [(name, .tables (elements.map leaves))]) := by
  rcases elements with - | ⟨entries, elements⟩
  · exact absurd rfl nonempty
  rcases List.forall_mem_cons.mp distinct with ⟨ofEntries, ofElements⟩
  rw [elementStatements, List.flatMap_cons, ← elementStatements, List.cons_append,
    performEach_firstElement fresh ofEntries, performEach_nextElements fresh _ ofElements]
  rfl

/-- The statements of tables under headers of their own. -/
def tableStatements (tables : List (String × List (String × Datum))) : List Statement :=
  tables.flatMap fun table => .table (.plain table.1) :: entryStatements table.2

/-- The fields of tables under headers of their own. -/
def tableFields (tables : List (String × List (String × Datum))) : Fields :=
  tables.map fun table => (table.1, .table .header (leaves table.2))

/-- Tables are added one by one.  What comes behind them may not depend on which one is
open in the end. -/
theorem performEach_tableStatements {fields : Fields}
    {tables : List (String × List (String × Datum))}
    (distinct : (fields.map Prod.fst ++ tables.map Prod.fst).Nodup)
    (distinctEntries : ∀ table ∈ tables, (table.2.map Prod.fst).Nodup)
    {rest : List Statement} {result : Option Fields}
    (behind : ∀ opened, performEach opened (fields ++ tableFields tables) rest = result)
    (opened : List String) :
    performEach opened fields (tableStatements tables ++ rest) = result := by
  induction tables generalizing fields opened with
  | nil =>
      have last := behind opened
      rw [tableFields, List.map_nil, List.append_nil] at last
      exact last
  | cons table tables ih =>
      rcases List.forall_mem_cons.mp distinctEntries with ⟨ofTable, ofTables⟩
      have fresh : table.1 ∉ fields.map Prod.fst := by
        intro listed
        rw [List.nodup_append] at distinct
        exact distinct.2.2 table.1 listed table.1 List.mem_cons_self rfl
      rw [tableStatements, List.flatMap_cons, ← tableStatements, List.cons_append,
        List.cons_append, List.append_assoc, performEach_table fresh ofTable]
      apply ih
      · rw [List.map_append, List.append_assoc]
        exact distinct
      · exact ofTables
      · intro opened
        rw [List.append_assoc]
        exact behind opened

end Fields

/-! ## The data of a document in sections -/

theorem fieldsToDatum_append (first second : Fields) :
    fieldsToDatum (first ++ second) = fieldsToDatum first ++ fieldsToDatum second := by
  induction first with
  | nil => rfl
  | cons field rest ih =>
      rcases field with ⟨name, node⟩
      rw [List.cons_append, fieldsToDatum, ih, fieldsToDatum, List.cons_append]

theorem fieldsToDatum_leaves (entries : List (String × Datum)) :
    fieldsToDatum (Fields.leaves entries) = entries := by
  induction entries with
  | nil => rfl
  | cons entry rest ih =>
      rw [Fields.leaves, List.map_cons, ← Fields.leaves, fieldsToDatum, ih, Node.toDatum]

theorem fieldsToDatum_tableFields (tables : List (String × List (String × Datum))) :
    fieldsToDatum (Fields.tableFields tables) =
      tables.map fun table => (table.1, .record table.2) := by
  induction tables with
  | nil => rfl
  | cons table rest ih =>
      rw [Fields.tableFields, List.map_cons, ← Fields.tableFields, fieldsToDatum, ih,
        Node.toDatum, fieldsToDatum_leaves, List.map_cons]

theorem elementsToDatum_leaves (elements : List (List (String × Datum))) :
    elementsToDatum (elements.map Fields.leaves) = elements.map .record := by
  induction elements with
  | nil => rfl
  | cons entries rest ih =>
      rw [List.map_cons, elementsToDatum, ih, fieldsToDatum_leaves, List.map_cons]

section

variable {entries : List (String × Datum)} {tables : List (String × List (String × Datum))}
  {elements : List (List (String × Datum))} {name : String}

/-- Single values and tables are carried out in turn, whatever comes behind them. -/
theorem Fields.performEach_sections
    (distinct : (entries.map Prod.fst ++ tables.map Prod.fst).Nodup)
    (distinctEntries : ∀ table ∈ tables, (table.2.map Prod.fst).Nodup)
    {rest : List Statement} {result : Option Fields}
    (behind : ∀ opened, performEach opened (leaves entries ++ tableFields tables) rest = result) :
    performEach [] [] (entryStatements entries ++ (tableStatements tables ++ rest)) =
      result := by
  have distinctSingle : (entries.map Prod.fst).Nodup := (List.nodup_append.mp distinct).1
  have filled := performEach_emptyTable isOpenAt_document distinctSingle
    (tableStatements tables ++ rest)
  rw [id, id] at filled
  rw [filled]
  apply performEach_tableStatements _ distinctEntries behind
  rw [map_fst_leaves]
  exact distinct

/-- A document of single values and tables is one record of them. -/
theorem assemble_tables (distinct : (entries.map Prod.fst ++ tables.map Prod.fst).Nodup)
    (distinctEntries : ∀ table ∈ tables, (table.2.map Prod.fst).Nodup) :
    assemble (Fields.entryStatements entries ++ Fields.tableStatements tables) =
      some (.record (entries ++ tables.map fun table => (table.1, .record table.2))) := by
  have built : Fields.performEach [] []
      (Fields.entryStatements entries ++ (Fields.tableStatements tables ++ [])) =
        some (Fields.leaves entries ++ Fields.tableFields tables) :=
    Fields.performEach_sections distinct distinctEntries fun _ => rfl
  rw [List.append_nil] at built
  rw [assemble, built, Option.map_some, fieldsToDatum_append, fieldsToDatum_leaves,
    fieldsToDatum_tableFields]

/-- Several tables of one name come last, as one list. -/
theorem assemble_sections (distinct : (entries.map Prod.fst ++ tables.map Prod.fst).Nodup)
    (distinctEntries : ∀ table ∈ tables, (table.2.map Prod.fst).Nodup)
    (fresh : name ∉ entries.map Prod.fst ++ tables.map Prod.fst) (nonempty : elements ≠ [])
    (distinctElements : ∀ entries ∈ elements, (entries.map Prod.fst).Nodup) :
    assemble (Fields.entryStatements entries ++
        (Fields.tableStatements tables ++ Fields.elementStatements name elements)) =
      some (.record (entries ++ tables.map (fun table => (table.1, .record table.2)) ++
        [(name, .list (elements.map .record))])) := by
  have unused : name ∉ (Fields.leaves entries ++ Fields.tableFields tables).map Prod.fst := by
    rw [List.map_append, Fields.map_fst_leaves, Fields.tableFields, List.map_map]
    exact fresh
  have built := Fields.performEach_sections distinct distinctEntries
    fun opened => Fields.performEach_elements unused nonempty distinctElements
  rw [assemble, built, Option.map_some, fieldsToDatum_append, fieldsToDatum_append,
    fieldsToDatum_leaves, fieldsToDatum_tableFields, fieldsToDatum, Node.toDatum,
    elementsToDatum_leaves]
  rfl

end

end OnboardStorage.Text.Toml
