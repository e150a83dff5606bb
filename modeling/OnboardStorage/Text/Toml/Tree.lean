import OnboardStorage.Datum

/-!
# Tables under construction

A document builds one tree of tables.  Each of its statements names a place in
the tree by a path of keys, and whether the place may be entered or filled
depends on how the tables on the way came to be: a table that a header has
opened is complete with its entries, one that dotted keys have made takes only
further dotted keys, and one that a longer header has implied may still get a
header of its own.
-/

namespace OnboardStorage.Text.Toml

/-- How a table came to be. -/
inductive TableOrigin where
  /-- By a header, or as the whole document. -/
  | header
  /-- As a step on the path of a header. -/
  | implied
  /-- As a step on a dotted key. -/
  | dotted
  deriving DecidableEq, Repr

/-- A place in the tree. -/
inductive Node where
  | leaf (value : Datum)
  | table (origin : TableOrigin) (fields : List (String × Node))
  /-- Tables of one name, each opened by a header of its own. -/
  | tables (elements : List (List (String × Node)))

/-- Fields of a table, in the order they were first named. -/
abbrev Fields :=
  List (String × Node)

/-- Tables that are passed on the way, and the last name. -/
structure Key where
  parents : List String
  name : String
  deriving DecidableEq, Repr

namespace Key

/-- A key without parents. -/
def plain (name : String) : Key :=
  ⟨[], name⟩

/-- The key below a further table. -/
def under (key : Key) (parent : String) : Key :=
  ⟨parent :: key.parents, key.name⟩

/-- Every name of the key. -/
def path (key : Key) : List String :=
  key.parents ++ [key.name]

end Key

/-- A statement of a document. -/
inductive Statement where
  /-- Open a table. -/
  | table (key : Key)
  /-- Open the next of several tables of one name. -/
  | element (key : Key)
  /-- Give a value to a key, within the table that is open. -/
  | entry (key : Key) (value : Datum)

namespace Fields

/-- Give a field another content, or add it as the last one. -/
def put (fields : Fields) (name : String) (node : Node) : Fields :=
  match fields with
  | [] => [(name, node)]
  | (other, content) :: rest =>
      if other = name then (name, node) :: rest
      else (other, content) :: put rest name node

/-- Change the table at the end of a path, making tables of the given origin
on the way.  A table opened by a header is not entered by a dotted key; of
tables of one name the last is entered. -/
def descend (made : TableOrigin)
    (change : TableOrigin → Fields → Option Fields) :
    List String → TableOrigin → Fields → Option Fields
  | [], origin, fields => change origin fields
  | name :: path, _, fields =>
      match fields.lookup name with
      | none => do
          let inner ← descend made change path made []
          return fields.put name (.table made inner)
      | some (.leaf _) => none
      | some (.table origin content) =>
          if made = .dotted ∧ origin = .header then none
          else do
            let inner ← descend made change path origin content
            return fields.put name (.table origin inner)
      | some (.tables elements) => do
          let inner ←
            descend made change path .header (elements.getLast?.getD [])
          return fields.put name (.tables (elements.dropLast ++ [inner]))

/-- Give a value to a name that has none.  Dotted keys fill the tables they
make, and no others. -/
def define (dotted : Bool) (name : String) (value : Datum)
    (origin : TableOrigin) (fields : Fields) : Option Fields :=
  if dotted = decide (origin = .dotted) ∧ (fields.lookup name).isNone then
    some (fields.put name (.leaf value))
  else none

/-- Give a value to a key. -/
def enter (key : Key) (value : Datum) (origin : TableOrigin) (fields : Fields) :
    Option Fields :=
  descend .dotted (define (!key.parents.isEmpty) key.name value) key.parents origin
    fields

/-- Open a table that does not exist or was only implied. -/
def openTable (name : String) (fields : Fields) : Option Fields :=
  match fields.lookup name with
  | none => some (fields.put name (.table .header []))
  | some (.table .implied content) =>
      some (fields.put name (.table .header content))
  | some _ => none

/-- Open the next of the tables of a name. -/
def openElement (name : String) (fields : Fields) : Option Fields :=
  match fields.lookup name with
  | none => some (fields.put name (.tables [[]]))
  | some (.tables elements) => some (fields.put name (.tables (elements ++ [[]])))
  | some _ => none

/-- Carry out a statement while the table at the path `opened` is open;
answers which table is open afterwards. -/
def perform (opened : List String) (fields : Fields) :
    Statement → Option (List String × Fields)
  | .table key => do
      let fields ←
        descend .implied (fun _ => openTable key.name) key.parents .header fields
      return (key.path, fields)
  | .element key => do
      let fields ←
        descend .implied (fun _ => openElement key.name) key.parents .header fields
      return (key.path, fields)
  | .entry key value => do
      let fields ← descend .implied (enter key value) opened .header fields
      return (opened, fields)

/-- Carry out statements in turn. -/
def performEach (opened : List String) (fields : Fields) :
    List Statement → Option Fields
  | [] => some fields
  | statement :: rest =>
      match perform opened fields statement with
      | none => none
      | some (opened, fields) => performEach opened fields rest

end Fields

mutual

/-- The data at a place. -/
def Node.toDatum : Node → Datum
  | .leaf value => value
  | .table _ fields => .record (fieldsToDatum fields)
  | .tables elements => .list (elementsToDatum elements)

/-- The data of fields. -/
def fieldsToDatum : List (String × Node) → List (String × Datum)
  | [] => []
  | (name, node) :: rest => (name, node.toDatum) :: fieldsToDatum rest

/-- The data of several tables. -/
def elementsToDatum : List (List (String × Node)) → List Datum
  | [] => []
  | fields :: rest => .record (fieldsToDatum fields) :: elementsToDatum rest

end

/-- The data of a document. -/
def assemble (statements : List Statement) : Option Datum :=
  (Fields.performEach [] [] statements).map fun fields =>
    .record (fieldsToDatum fields)

/-- The data of a table that is written on one line, by its entries. -/
def assembleInline (entries : List (Key × Datum)) : Option Datum :=
  (entries.foldlM (fun fields entry => Fields.enter entry.1 entry.2 .header fields) []).map
    fun fields => .record (fieldsToDatum fields)

end OnboardStorage.Text.Toml
