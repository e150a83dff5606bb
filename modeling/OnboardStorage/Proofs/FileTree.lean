import OnboardStorage.FileTree

/-!
# What is written is read back

Two things are asked of a host whose files are part of a state: that reading
leaves the files alone, and that what is written to a path is read back from
it.  The second is asked of one state and one path at a time, because no host
writes everywhere.

A tree of files has both properties, the second wherever a path leads to a
place for a file.  Writing there may create directories, but every directory
that the path is looked up in was one before.
-/

namespace OnboardStorage

namespace Host

variable {σ : Type}

/-- What is read at a path while the files are in the given state. -/
def contentAt (host : Host (StateM σ)) (disk : σ) (path : String) :
    Except FileFault ByteArray :=
  ((host.read path).run disk).1

/-- Reading leaves the files alone. -/
def ReadsOnly (host : Host (StateM σ)) : Prop :=
  ∀ disk path, (host.read path).run disk = (host.contentAt disk path, disk)

/-- Any text can be written to the path, and its bytes are then read back. -/
def Keeps (host : Host (StateM σ)) (disk : σ) (path : String) : Prop :=
  ∀ text, ∃ after, (host.write path text).run disk = (.ok (), after) ∧
    host.contentAt after path = .ok text.toUTF8

end Host

namespace FileTree

/-- The tree with a file of the given content at a place. -/
def put (tree : FileTree) (place : List String) (content : ByteArray) : FileTree :=
  { tree with
    files := (place, content) :: tree.files.filter fun file => file.1 ≠ place }

variable {tree : FileTree} {place : List String}

/-! ## Places -/

theorem content?_put_self (content : ByteArray) :
    (tree.put place content).content? place = some content := by
  rw [content?, put, List.lookup_cons_self]

theorem content?_put_of_ne {other : List String} (different : other ≠ place)
    (content : ByteArray) :
    (tree.put place content).content? other = tree.content? other := by
  have skipped : (tree.files.filter fun file => file.1 ≠ place).lookup other =
      tree.files.lookup other := by
    induction tree.files with
    | nil => rfl
    | cons file rest ih =>
        obtain ⟨given, bytes⟩ := file
        by_cases removed : given = place
        · have unlike : (other == given) = false := by
            rw [removed]
            exact beq_eq_false_iff_ne.mpr different
          rw [List.filter_cons_of_neg (by simpa using removed), ih, List.lookup_cons,
            unlike]
        · rw [List.filter_cons_of_pos (by simpa using removed), List.lookup_cons,
            List.lookup_cons, ih]
  have unlike : (other == place) = false := beq_eq_false_iff_ne.mpr different
  rw [content?, put, List.lookup_cons, unlike]
  exact skipped

/-- Directories remain directories. -/
theorem isDirectory_put {other : List String} (content : ByteArray)
    (directory : tree.isDirectory other = true) :
    (tree.put place content).isDirectory other = true := by
  rw [isDirectory, Bool.or_eq_true] at directory ⊢
  refine directory.imp_right ?_
  simp only [List.any_eq_true, put, List.any_cons, Bool.or_eq_true]
  rintro ⟨file, listed, below⟩
  by_cases replaced : file.1 = place
  · exact Or.inl (replaced ▸ below)
  · refine Or.inr ⟨file, List.mem_filter.mpr ⟨listed, ?_⟩, below⟩
    simpa using replaced

/-- The place of a file is no directory. -/
theorem isDirectory_put_self (content : ByteArray)
    (noDirectory : tree.isDirectory place = false) :
    (tree.put place content).isDirectory place = false := by
  rw [isDirectory, Bool.or_eq_false_iff] at noDirectory ⊢
  refine ⟨noDirectory.1, ?_⟩
  rw [put, List.any_cons, Bool.or_eq_false_iff]
  refine ⟨by simp, ?_⟩
  rw [List.any_eq_false]
  intro file listed
  exact List.any_eq_false.mp noDirectory.2 file (List.mem_filter.mp listed).1

/-! ## Paths -/

theorem obstacle?_eq_none_iff {other : List String} :
    tree.obstacle? other = none ↔
      tree.content? other = none ∧ tree.isDirectory other = true := by
  unfold obstacle?
  cases tree.content? other with
  | some content => simp
  | none => cases tree.isDirectory other <;> simp

theorem obstacle?_put {other : List String} (content : ByteArray)
    (noDirectory : tree.isDirectory place = false)
    (free : tree.obstacle? other = none) :
    (tree.put place content).obstacle? other = none := by
  rw [obstacle?_eq_none_iff] at free ⊢
  obtain ⟨noFile, directory⟩ := free
  have different : other ≠ place := by
    rintro rfl
    rw [directory] at noDirectory
    cases noDirectory
  rw [content?_put_of_ne different]
  exact ⟨noFile, isDirectory_put content directory⟩

/-- A path that leads somewhere still leads there. -/
theorem walk_put (content : ByteArray) (noDirectory : tree.isDirectory place = false)
    {start reached : List String} {names : List String}
    (walked : tree.walk start names = .ok reached) :
    (tree.put place content).walk start names = .ok reached := by
  induction names generalizing start with
  | nil => exact walked
  | cons name rest ih =>
      unfold walk at walked ⊢
      cases free : tree.obstacle? start with
      | some fault => simp [free] at walked
      | none =>
          rw [obstacle?_put content noDirectory free]
          simp only [free] at walked ⊢
          by_cases here : name = "."
          · rw [if_pos here] at walked ⊢
            exact ih walked
          · rw [if_neg here] at walked ⊢
            by_cases above : name = ".."
            · rw [if_pos above] at walked ⊢
              exact ih walked
            · rw [if_neg above] at walked ⊢
              by_cases long : longestName < name.utf8ByteSize
              · rw [if_pos long] at walked
                cases walked
              · rw [if_neg long] at walked ⊢
                exact ih walked

theorem target_eq_ok_iff {path : String} :
    tree.target path = .ok place ↔
      ¬ longestPath < path.utf8ByteSize ∧ path.endsWith "/" = false ∧
      tree.walk (tree.origin path) (names path) = .ok place ∧
      tree.isDirectory place = false := by
  unfold target
  by_cases long : longestPath < path.utf8ByteSize
  · simp [long]
  · cases slash : path.endsWith "/" with
    | true => simp [long]
    | false =>
        cases walked : tree.walk (tree.origin path) (names path) with
        | error fault => simp [long]
        | ok reached =>
            cases directory : tree.isDirectory reached <;>
              simp [long, directory] <;> (rintro rfl; exact directory)

/-! ## The host -/

theorem contentAt_host (tree : FileTree) (path : String) :
    host.contentAt tree path = tree.read path :=
  rfl

theorem readsOnly_host : host.ReadsOnly :=
  fun _ _ => rfl

theorem write_host {path text : String} {after : FileTree}
    (written : tree.write path text = .ok after) :
    (host.write path text).run tree = (.ok (), after) := by
  simp only [host, StateT.run_bind, StateT.run_get, pure_bind, written]
  rfl

/-- Wherever a file can be written, it is read back. -/
theorem keeps_of_target_eq_ok {path : String} (free : tree.target path = .ok place) :
    host.Keeps tree path := by
  intro text
  obtain ⟨short, noSlash, walked, noDirectory⟩ := target_eq_ok_iff.mp free
  have written : tree.write path text = .ok (tree.put place text.toUTF8) := by
    rw [write, free]
    rfl
  refine ⟨tree.put place text.toUTF8, write_host written, ?_⟩
  have again := walk_put text.toUTF8 noDirectory walked
  have origin_eq : (tree.put place text.toUTF8).origin path = tree.origin path := rfl
  rw [contentAt_host, read, if_neg short, origin_eq, again]
  simp only [isDirectory_put_self text.toUTF8 noDirectory, content?_put_self, noSlash]
  rfl

end FileTree

end OnboardStorage
