import OnboardStorage.Proofs.Toml.Value

/-!
# Documents are read back

A written document is read as its statements, one from each line.  Empty lines and
comments may stand in front of it and behind it; none of them makes a difference.

The reader counts its lines down from a bound.  It is enough that the bound is not less
than the number of characters that are left, since a line has at least one.
-/

namespace OnboardStorage.Text.Toml

/-! ## Keys -/

/-- A name that needs no quotation marks. -/
def IsBareName (name : String) : Prop :=
  name.toList ≠ [] ∧ name.toList.all isBare = true

instance (name : String) : Decidable (IsBareName name) :=
  inferInstanceAs (Decidable (_ ∧ _))

theorem IsBareName.isBare {name : String} (bare : IsBareName name) {char : Char}
    (member : char ∈ name.toList) : Toml.isBare char = true :=
  List.all_eq_true.mp bare.2 char member

/-- A key that is written and read without quotation marks. -/
def Key.IsBare (key : Key) : Prop :=
  key.path.length ≤ maxDepth ∧ ∀ name ∈ key.path, IsBareName name

/-- A text that no key goes on into. -/
def EndsKey (rest : List Char) : Prop :=
  (∀ char ∈ rest.head?, isBare char = false) ∧
    ∀ char ∈ (skipBlank rest).head?, char ≠ '.'

theorem ne_of_isBare {char mark : Char} (bare : isBare char = true)
    (notBare : isBare mark = false) : char ≠ mark := by
  rintro rfl
  rw [notBare] at bare
  cases bare

theorem isBlank_eq_false_of_isBare {char : Char} (bare : isBare char = true) :
    isBlank char = false := by
  have notSpace : char ≠ ' ' := ne_of_isBare bare (by decide)
  have notTab : char ≠ '\t' := ne_of_isBare bare (by decide)
  simp [isBlank, notSpace, notTab]

theorem skipBlank_of_not_blank {char : Char} (notBlank : isBlank char = false)
    (rest : List Char) : skipBlank (char :: rest) = char :: rest := by
  rw [skipBlank, List.dropWhile_cons_of_neg (by simp [notBlank])]

theorem keyPart_append {name : String} (bare : IsBareName name) {rest : List Char}
    (ends : ∀ char ∈ rest.head?, isBare char = false) :
    keyPart (name.toList ++ rest) = some (name, rest) := by
  rcases span_append (fun _ => bare.isBare) ends with ⟨taken, left⟩
  rcases List.exists_cons_of_ne_nil bare.1 with ⟨first, others, equal⟩
  have firstBare : isBare first = true := bare.isBare (equal ▸ List.mem_cons_self)
  have nonempty : name.toList.isEmpty = false := List.isEmpty_eq_false_iff.mpr bare.1
  unfold keyPart
  split
  case h_1 marks =>
    rw [equal] at marks
    cases marks
    cases firstBare
  case h_2 marks =>
    rw [equal] at marks
    cases marks
    cases firstBare
  case h_3 => simp only [taken, left, nonempty, Bool.false_eq_true, if_false, String.ofList_toList]

theorem skipBlank_append_of_isBareName {name : String} (bare : IsBareName name)
    (rest : List Char) : skipBlank (name.toList ++ rest) = name.toList ++ rest := by
  rcases List.exists_cons_of_ne_nil bare.1 with ⟨first, others, equal⟩
  have firstBare : isBare first = true := bare.isBare (equal ▸ List.mem_cons_self)
  rw [equal, List.cons_append, skipBlank_of_not_blank (isBlank_eq_false_of_isBare firstBare)]

theorem keyText_plain (name : String) : keyText (.plain name) = name.toList := by
  simp [keyText, Key.path, Key.plain]

theorem keyText_under (key : Key) (parent : String) :
    keyText (key.under parent) = parent.toList ++ '.' :: keyText key := by
  rcases key with ⟨parents, name⟩
  rcases parents with - | ⟨next, parents⟩ <;>
    simp [keyText, Key.path, Key.under, List.intercalate, List.intersperse]

/-- The last part of a key is read. -/
theorem key_plain {name : String} (bare : IsBareName name) {rest : List Char}
    (ends : EndsKey rest) (parts : Nat) :
    Toml.key (parts + 1) (name.toList ++ rest) = some (.plain name, skipBlank rest) := by
  rw [Toml.key, skipBlank_append_of_isBareName bare, keyPart_append bare ends.1]
  dsimp only
  split
  case h_1 more =>
    have noPoint := ends.2
    rw [more] at noPoint
    exact absurd rfl (noPoint '.' rfl)
  case h_2 => rfl

/-- Keys are read back. -/
theorem key_keyText {rest : List Char} (ends : EndsKey rest) {parts : Nat} {key : Key}
    (bare : ∀ name ∈ key.path, IsBareName name) (short : key.path.length ≤ parts) :
    Toml.key parts (keyText key ++ rest) = some (key, skipBlank rest) := by
  rcases key with ⟨parents, name⟩
  induction parents generalizing parts with
  | nil =>
      rcases parts with - | parts
      · cases short
      · have isPlain : (⟨[], name⟩ : Key) = .plain name := rfl
        rw [isPlain, keyText_plain]
        exact key_plain (bare name List.mem_cons_self) ends parts
  | cons parent parents ih =>
      rcases parts with - | parts
      · cases short
      · have isUnder : (⟨parent :: parents, name⟩ : Key) =
            (⟨parents, name⟩ : Key).under parent := rfl
        have bareParent : IsBareName parent := bare parent List.mem_cons_self
        have more := ih (fun other listed => bare other (List.mem_cons_of_mem _ listed))
          (Nat.le_of_succ_le_succ short)
        have point : skipBlank ('.' :: (keyText ⟨parents, name⟩ ++ rest)) =
            '.' :: (keyText ⟨parents, name⟩ ++ rest) := skipBlank_of_not_blank rfl _
        rw [isUnder, keyText_under, List.append_assoc, List.cons_append, Toml.key,
          skipBlank_append_of_isBareName bareParent,
          keyPart_append bareParent fun char first => by cases first; rfl]
        dsimp only
        rw [point]
        change (Toml.key parts (keyText ⟨parents, name⟩ ++ rest)).map
          (fun read => (read.1.under parent, read.2)) = _
        rw [more]
        rfl

/-! ## Statements -/

/-- The key that a statement is about. -/
def Statement.key : Statement → Key
  | .table key | .element key | .entry key _ => key

theorem exists_keyText_eq_cons {key : Key} (bare : key.IsBare) :
    ∃ first others, keyText key = first :: others ∧ isBare first = true := by
  have ofName {name : String} (listed : name ∈ key.path) (rest : List Char) :
      ∃ first others, name.toList ++ rest = first :: others ∧ isBare first = true := by
    have bareName := bare.2 name listed
    rcases List.exists_cons_of_ne_nil bareName.1 with ⟨first, others, equal⟩
    exact ⟨first, others ++ rest, congrArg (· ++ rest) equal,
      bareName.isBare (equal ▸ List.mem_cons_self)⟩
  rcases key with ⟨parents | ⟨parent, parents⟩, name⟩
  · have onlyName := keyText_plain name
    rw [← List.append_nil name.toList] at onlyName
    rw [Key.plain] at onlyName
    rw [onlyName]
    exact ofName List.mem_cons_self []
  · have onParent := keyText_under ⟨parents, name⟩ parent
    rw [Key.under] at onParent
    rw [onParent]
    exact ofName List.mem_cons_self _

theorem exists_valueText_eq_cons {datum : Datum} {written : List Char}
    (text : valueText datum = some written) :
    ∃ first others, written = first :: others ∧ isBlank first = false := by
  unfold valueText at text
  split at text
  case h_1 => cases text; exact ⟨_, _, rfl, rfl⟩
  case h_2 => cases text; exact ⟨_, _, rfl, rfl⟩
  case h_3 number =>
    split at text
    case isFalse => cases text
    case isTrue small =>
      cases text
      rcases exists_decimalDigits_eq_cons number with ⟨first, others, equal, isDigit, -⟩
      refine ⟨first, others, equal, isBlank_eq_false_of_isBare ?_⟩
      simp [isBare, Char.isAlphanum, isDigit]
  case h_4 content =>
    cases text
    rcases exists_quote_eq_cons content with ⟨mark, others, equal, isMark⟩
    refine ⟨mark, others, equal, ?_⟩
    rcases isMark with rfl | rfl <;> rfl
  case h_5 => cases text; exact ⟨_, _, rfl, rfl⟩
  case h_6 => cases text

theorem header_keyText {key : Key} (bare : key.IsBare) (closing rest : List Char)
    (closes : closing = [']'] ∨ closing = [']', ']']) :
    header closing (keyText key ++ (closing ++ rest)) = some (key, rest) := by
  have ends : EndsKey (closing ++ rest) ∧ skipBlank (closing ++ rest) = closing ++ rest := by
    rcases closes with rfl | rfl <;>
      exact ⟨⟨fun char first => by cases first; rfl,
        fun char first => by cases first; decide⟩, rfl⟩
  rw [header, key_keyText ends.1 bare.2 bare.1, ends.2]
  dsimp only
  rw [if_pos (List.isPrefixOf_iff_prefix.mpr (List.prefix_append _ _)), List.drop_left]

theorem assignment_keyText {key : Key} (bare : key.IsBare) {datum : Datum}
    {written : List Char} (text : valueText datum = some written) (bound depth : Nat)
    (rest : List Char) :
    assignment (value (bound + 1) (depth + 1))
        (keyText key ++ ' ' :: '=' :: ' ' :: (written ++ '\n' :: rest)) =
      some ((key, datum), '\n' :: rest) := by
  have ends : EndsKey (' ' :: '=' :: ' ' :: (written ++ '\n' :: rest)) :=
    ⟨fun char first => by cases first; rfl, fun char first => by cases first; decide⟩
  have equals : skipBlank (' ' :: '=' :: ' ' :: (written ++ '\n' :: rest)) =
      '=' :: ' ' :: (written ++ '\n' :: rest) := rfl
  have start : skipBlank (' ' :: (written ++ '\n' :: rest)) = written ++ '\n' :: rest := by
    rcases exists_valueText_eq_cons text with ⟨first, others, rfl, notBlank⟩
    exact skipBlank_of_not_blank notBlank _
  rw [assignment, key_keyText ends bare.2 bare.1, equals]
  change (value (bound + 1) (depth + 1) (skipBlank (' ' :: (written ++ '\n' :: rest)))).map
    (fun read => ((key, read.1), read.2)) = _
  rw [start, value_valueText text]
  rfl

/-! ## Lines -/

/-- The rest of a text is read as a list of statements, if it has no more lines than the
reader is ready to read. -/
def Reads (bound : Nat) (text : List Char) (list : List Statement) : Prop :=
  ∀ fuel, text.length ≤ fuel → statements bound fuel text = some list

theorem reads_nil (bound : Nat) : Reads bound [] [] := by
  intro fuel _
  cases fuel <;> rfl

/-- A line that holds no statement is passed over. -/
theorem Reads.passOver {bound : Nat} {text rest : List Char} {list : List Statement}
    (reads : Reads bound rest list) (passed : endLine? text = some rest)
    (shorter : rest.length < text.length) : Reads bound text list := by
  intro fuel enough
  rcases fuel with - | fuel
  · omega
  have nonempty : text.isEmpty = false := by
    cases text with
    | nil => exact absurd shorter (Nat.not_lt_zero _)
    | cons => rfl
  rw [statements, if_neg (by simp [nonempty]), passed]
  exact reads fuel (by omega)

/-- A line with a statement is read. -/
theorem Reads.readLine {bound : Nat} {text after rest : List Char} {first : Statement}
    {list : List Statement} (reads : Reads bound rest list) (holds : endLine? text = none)
    (read : statement bound (skipBlank text) = some (first, after))
    (ends : endLine? after = some rest) (shorter : rest.length < text.length) :
    Reads bound text (first :: list) := by
  intro fuel enough
  rcases fuel with - | fuel
  · omega
  have nonempty : text.isEmpty = false := by
    cases text with
    | nil => exact absurd shorter (Nat.not_lt_zero _)
    | cons => rfl
  rw [statements, if_neg (by simp [nonempty]), holds]
  dsimp only
  rw [read]
  dsimp only
  rw [ends]
  dsimp only
  rw [reads fuel (by omega)]
  rfl

theorem endLine?_newline (rest : List Char) : endLine? ('\n' :: rest) = some rest :=
  rfl

/-- A line that begins with a character of a key or a bracket holds a statement. -/
theorem endLine?_eq_none {first : Char} (begins : isBare first = true ∨ first = '[')
    (rest : List Char) : endLine? (first :: rest) = none := by
  have differs {mark : Char} (notBare : isBare mark = false) (notBracket : mark ≠ '[') :
      first ≠ mark := by
    rcases begins with bare | rfl
    · exact ne_of_isBare bare notBare
    · exact notBracket.symm
  have notBlank : isBlank first = false := by
    rcases begins with bare | rfl
    · exact isBlank_eq_false_of_isBare bare
    · rfl
  have notComment : skipComment (first :: rest) = first :: rest := by
    unfold skipComment
    split
    case h_1 marks =>
      cases marks
      exact absurd rfl (differs (by decide) (by decide))
    case h_2 => rfl
  rw [endLine?, skipBlank_of_not_blank notBlank, notComment]
  dsimp only
  unfold lineBreak?
  split
  case h_1 marks =>
    cases marks
    exact absurd rfl (differs (by decide) (by decide))
  case h_2 marks =>
    cases marks
    exact absurd rfl (differs (by decide) (by decide))
  case h_3 => rfl

theorem statement_element {key : Key} (bare : key.IsBare) (bound : Nat) (rest : List Char) :
    statement bound ('[' :: '[' :: (keyText key ++ ([']', ']'] ++ rest))) =
      some (.element key, rest) := by
  rw [statement, header_keyText bare _ _ (.inr rfl)]
  rfl

theorem statement_table {key : Key} (bare : key.IsBare) (bound : Nat) (rest : List Char) :
    statement bound ('[' :: (keyText key ++ ([']'] ++ rest))) = some (.table key, rest) := by
  have read := header_keyText bare [']'] rest (.inl rfl)
  rcases exists_keyText_eq_cons bare with ⟨first, others, equal, bareFirst⟩
  rw [equal, List.cons_append] at read ⊢
  rw [statement, read]
  · rfl
  · intro after marks
    cases marks
    exact absurd bareFirst (by decide)

theorem statement_of_ne {first : Char} (notBracket : first ≠ '[') (bound : Nat)
    (rest : List Char) :
    statement bound (first :: rest) =
      (assignment (value bound maxDepth) (first :: rest)).map
        fun read => (.entry read.1.1 read.1.2, read.2) := by
  unfold statement
  split
  case h_1 marks =>
    cases marks
    exact absurd rfl notBracket
  case h_2 marks =>
    cases marks
    exact absurd rfl notBracket
  case h_3 => rfl

theorem statement_entry {key : Key} (bare : key.IsBare) {datum : Datum}
    {written : List Char} (text : valueText datum = some written) (bound : Nat)
    (rest : List Char) :
    statement (bound + 1) (keyText key ++ ' ' :: '=' :: ' ' :: (written ++ '\n' :: rest)) =
      some (.entry key datum, '\n' :: rest) := by
  have depth_eq : maxDepth = 78 + 1 := rfl
  have read := assignment_keyText bare text bound 78 rest
  rcases exists_keyText_eq_cons bare with ⟨first, others, equal, bareFirst⟩
  rw [equal, List.cons_append] at read ⊢
  rw [statement_of_ne (ne_of_isBare bareFirst (by decide)), depth_eq, read]
  rfl

/-- Every statement that can be written is read back from its lines. -/
theorem reads_statementText {bound : Nat} {rest : List Char} {list : List Statement}
    (reads : Reads (bound + 1) rest list) {first : Statement} (bare : first.key.IsBare)
    {line : List Char} (text : statementText first = some line) :
    Reads (bound + 1) (line ++ rest) (first :: list) := by
  cases first with
  | table key =>
      cases text
      have bareKey : key.IsBare := bare
      have read := statement_table bareKey (bound + 1) ('\n' :: rest)
      have line_eq : '\n' :: '[' :: (keyText key ++ [']', '\n']) ++ rest =
          '\n' :: '[' :: (keyText key ++ ([']'] ++ '\n' :: rest)) := by simp
      rw [line_eq]
      refine (reads.readLine (endLine?_eq_none (.inr rfl) _) read (endLine?_newline rest)
        ?_).passOver (endLine?_newline _) ?_
      · simp
        omega
      · simp
  | element key =>
      cases text
      have bareKey : key.IsBare := bare
      have read := statement_element bareKey (bound + 1) ('\n' :: rest)
      have line_eq : '\n' :: '[' :: '[' :: (keyText key ++ [']', ']', '\n']) ++ rest =
          '\n' :: '[' :: '[' :: (keyText key ++ ([']', ']'] ++ '\n' :: rest)) := by simp
      rw [line_eq]
      refine (reads.readLine (endLine?_eq_none (.inr rfl) _) read (endLine?_newline rest)
        ?_).passOver (endLine?_newline _) ?_
      · simp
        omega
      · simp
  | entry key datum =>
      rcases Option.map_eq_some_iff.mp text with ⟨written, valueWritten, rfl⟩
      have bareKey : key.IsBare := bare
      have read := statement_entry bareKey valueWritten bound rest
      have line_eq : keyText key ++ ' ' :: '=' :: ' ' :: (written ++ ['\n']) ++ rest =
          keyText key ++ ' ' :: '=' :: ' ' :: (written ++ '\n' :: rest) := by simp
      rw [line_eq]
      rcases exists_keyText_eq_cons bareKey with ⟨first, others, equal, bareFirst⟩
      rw [equal, List.cons_append] at read ⊢
      refine reads.readLine (endLine?_eq_none (.inl bareFirst) _) ?_ (endLine?_newline rest) ?_
      · rw [skipBlank_of_not_blank (isBlank_eq_false_of_isBare bareFirst)]
        exact read
      · simp
        omega

/-! ## Whole documents -/

/-- Lines without statements: each is empty or a comment, perhaps behind blanks. -/
inductive Remarks : List Char → Prop
  | nil : Remarks []
  | empty {blanks rest : List Char} (allBlank : ∀ char ∈ blanks, isBlank char = true)
      (others : Remarks rest) : Remarks (blanks ++ '\n' :: rest)
  | comment {blanks words rest : List Char} (allBlank : ∀ char ∈ blanks, isBlank char = true)
      (allPlain : ∀ char ∈ words, isPlain char = true) (others : Remarks rest) :
      Remarks (blanks ++ '#' :: (words ++ '\n' :: rest))

theorem skipBlank_append {blanks : List Char} (allBlank : ∀ char ∈ blanks, isBlank char = true)
    {char : Char} (notBlank : isBlank char = false) (rest : List Char) :
    skipBlank (blanks ++ char :: rest) = char :: rest := by
  rw [skipBlank, List.dropWhile_append_of_pos allBlank]
  exact skipBlank_of_not_blank notBlank rest

/-- Remarks are passed over. -/
theorem Remarks.reads {remarks : List Char} (lines : Remarks remarks) {bound : Nat}
    {rest : List Char} {list : List Statement} (reads : Reads bound rest list) :
    Reads bound (remarks ++ rest) list := by
  induction lines with
  | nil => exact reads
  | @empty blanks others allBlank _ ih =>
      rw [List.append_assoc, List.cons_append]
      apply ih.passOver
      · rw [endLine?, skipBlank_append allBlank rfl]
        rfl
      · simp
        omega
  | @comment blanks words others allBlank allPlain _ ih =>
      rw [List.append_assoc, List.cons_append, List.append_assoc, List.cons_append]
      apply ih.passOver
      · rw [endLine?, skipBlank_append allBlank rfl, skipComment,
          List.dropWhile_append_of_pos allPlain]
        rfl
      · simp
        omega

/-- A statement that can be written so that it is read back. -/
structure Statement.IsWritable (statement : Statement) : Prop where
  bare : statement.key.IsBare
  written : ∃ line, statementText statement = some line

theorem isBare_plain {name : String} (bare : IsBareName name) : (Key.plain name).IsBare := by
  constructor
  · exact (by decide : 1 ≤ maxDepth)
  · intro other listed
    rw [List.mem_singleton.mp listed]
    exact bare

theorem isWritable_table {name : String} (bare : IsBareName name) :
    (Statement.table (.plain name)).IsWritable :=
  ⟨isBare_plain bare, _, rfl⟩

theorem isWritable_element {name : String} (bare : IsBareName name) :
    (Statement.element (.plain name)).IsWritable :=
  ⟨isBare_plain bare, _, rfl⟩

theorem isWritable_entry {name : String} (bare : IsBareName name) {datum : Datum}
    (shown : (valueText datum).isSome = true) :
    (Statement.entry (.plain name) datum).IsWritable := by
  rcases Option.isSome_iff_exists.mp shown with ⟨written, text⟩
  exact ⟨isBare_plain bare, _, congrArg (Option.map _) text⟩

/-- Writable statements are written. -/
theorem exists_write_eq_some {list : List Statement}
    (writable : ∀ statement ∈ list, statement.IsWritable) : ∃ text, write list = some text := by
  suffices lines : ∃ lines, list.mapM statementText = some lines by
    rcases lines with ⟨lines, texts⟩
    exact ⟨_, congrArg (Option.map _) texts⟩
  induction list with
  | nil => exact ⟨[], rfl⟩
  | cons first rest ih =>
      rcases List.forall_mem_cons.mp writable with ⟨⟨-, line, text⟩, ofRest⟩
      rcases ih ofRest with ⟨lines, texts⟩
      refine ⟨line :: lines, ?_⟩
      rw [List.mapM_cons, text, texts]
      rfl

/-- The statements of a written text are read back from it. -/
theorem reads_flatten {bound : Nat} {rest : List Char} {others : List Statement}
    (reads : Reads (bound + 1) rest others) {list : List Statement}
    (bare : ∀ statement ∈ list, statement.key.IsBare) {lines : List (List Char)}
    (texts : list.mapM statementText = some lines) :
    Reads (bound + 1) (lines.flatten ++ rest) (list ++ others) := by
  induction list generalizing lines with
  | nil =>
      cases texts
      exact reads
  | cons first list ih =>
      rw [List.mapM_cons] at texts
      rcases Option.bind_eq_some_iff.mp texts with ⟨line, text, more⟩
      rcases Option.bind_eq_some_iff.mp more with ⟨lines, otherTexts, equal⟩
      cases equal
      rw [List.flatten_cons, List.append_assoc, List.cons_append]
      exact reads_statementText
        (ih (fun statement listed => bare statement (List.mem_cons_of_mem _ listed)) otherTexts)
        (bare first List.mem_cons_self) text

/-- A text that begins with an encoding mark holds no statements. -/
theorem statements_encodingMark (bound fuel : Nat) (rest : List Char) :
    statements bound fuel ('\ufeff' :: rest) = none := by
  cases fuel <;> rfl

/-- What is read from the characters of a text is what the text holds. -/
theorem parse_of_reads {text : String} {list : List Statement}
    (reads : ∀ bound, Reads (bound + 1) text.toList list) : parse text = assemble list := by
  unfold parse
  have noMark : skipEncodingMark text.toList = text.toList := by
    unfold skipEncodingMark
    split
    case h_1 rest marks =>
      have read := reads 0 _ (Nat.le_refl _)
      rw [marks, statements_encodingMark] at read
      cases read
    case h_2 => rfl
  dsimp only
  rw [noMark]
  rcases equal : text.toList with - | ⟨first, others⟩
  · have read := reads 0 0 (by simp [equal])
    rw [equal] at read
    cases read
    rfl
  · have read := reads others.length (others.length + 1) (by simp [equal])
    rw [equal] at read
    rw [List.length_cons, read, Option.bind_some]

/-- A written document is read back, with any remarks in front of it and behind it. -/
theorem parse_write {list : List Statement} {text : String}
    (written : write list = some text) (bare : ∀ statement ∈ list, statement.key.IsBare)
    {front back : String} (before : Remarks front.toList) (behind : Remarks back.toList) :
    parse (front ++ text ++ back) = assemble list := by
  rcases Option.map_eq_some_iff.mp written with ⟨lines, texts, rfl⟩
  apply parse_of_reads
  intro bound
  have none_left : Reads (bound + 1) (back.toList ++ []) [] := behind.reads (reads_nil _)
  rw [List.append_nil] at none_left
  have read := before.reads (reads_flatten none_left bare texts)
  rw [List.append_nil] at read
  rw [String.toList_append, String.toList_append, String.toList_ofList, List.append_assoc]
  exact read

end OnboardStorage.Text.Toml
