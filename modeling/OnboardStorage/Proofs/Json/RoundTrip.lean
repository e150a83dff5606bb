import OnboardStorage.Proofs.Json.Number
import OnboardStorage.Proofs.Json.Quoted

/-!
# Written data is read back

Both ways of writing put the same tokens in the same order and differ in the
blanks between them, so they are treated as one: `Spells` says what a way of
writing has to look like, and nothing else is used of it.  The induction is on
the levels that the reader keeps.  A list or record that is read at some level
is made of parts that are read at the next, by a reader with the same bound;
that bound is the length of the text, and no list has more items than its text
has characters.
-/

namespace OnboardStorage

/-- Data that stands for something and is not nested deeper than the given
number of levels. -/
def Datum.Legible : Nat → Datum → Prop
  | depth + 1, .list entries => ∀ entry ∈ entries, entry.Legible depth
  | depth + 1, .record fields => ∀ field ∈ fields, field.2.Legible depth
  | 0, .list _ | 0, .record _ | _, .unreadable => False
  | _, _ => True

namespace Datum

@[simp]
theorem legible_null (depth : Nat) : null.Legible depth := by
  cases depth <;> trivial

@[simp]
theorem legible_flag (value : Bool) (depth : Nat) : (flag value).Legible depth := by
  cases depth <;> trivial

@[simp]
theorem legible_ofNat (number depth : Nat) : (ofNat number).Legible depth := by
  cases depth <;> trivial

@[simp]
theorem legible_text (value : String) (depth : Nat) : (text value).Legible depth := by
  cases depth <;> trivial

@[simp]
theorem legible_list {entries : List Datum} {depth : Nat} :
    (list entries).Legible (depth + 1) ↔ ∀ entry ∈ entries, entry.Legible depth :=
  Iff.rfl

@[simp]
theorem legible_record {fields : List (String × Datum)} {depth : Nat} :
    (record fields).Legible (depth + 1) ↔ ∀ field ∈ fields, field.2.Legible depth :=
  Iff.rfl

end Datum

namespace Text.Json

/-! ## Blanks -/

/-- A text of blanks. -/
def Blank (text : List Char) : Prop :=
  ∀ char ∈ text, isBlank char = true

/-- A text that begins with neither a blank nor a closing bracket. -/
def Starts (text : List Char) : Prop :=
  ∃ first others, text = first :: others ∧ isBlank first = false ∧
    first ≠ ']' ∧ first ≠ '\x7d'

theorem skipBlank_cons {char : Char} (notBlank : isBlank char = false)
    (rest : List Char) : skipBlank (char :: rest) = char :: rest :=
  List.dropWhile_cons_of_neg (by rw [notBlank]; exact Bool.false_ne_true)

theorem skipBlank_append {blank : List Char} (isBlank : Blank blank)
    (rest : List Char) : skipBlank (blank ++ rest) = skipBlank rest :=
  List.dropWhile_append_of_pos isBlank

theorem Starts.skipBlank {text : List Char} (starts : Starts text) (rest : List Char) :
    skipBlank (text ++ rest) = text ++ rest := by
  obtain ⟨first, others, rfl, notBlank, -⟩ := starts
  exact skipBlank_cons notBlank _

theorem Starts.ne_nil {text : List Char} (starts : Starts text) : text ≠ [] := by
  obtain ⟨first, others, rfl, -⟩ := starts
  exact List.cons_ne_nil _ _

/-- No number goes on into blanks. -/
theorem endsNumber_blank {blank : List Char} (isBlank : Blank blank) {rest : List Char}
    (ends : EndsNumber rest) : EndsNumber (blank ++ rest) := by
  cases blank with
  | nil => exact ends
  | cons char others =>
      have first := isBlank char List.mem_cons_self
      apply endsNumber_cons
      refine ⟨?_, ?_, ?_, ?_⟩
      · cases digit : char.isDigit with
        | false => rfl
        | true =>
            simp only [Json.isBlank, Bool.or_eq_true, decide_eq_true_eq] at first
            rcases first with ((rfl | rfl) | rfl) | rfl <;> cases digit
      · rintro rfl
        cases first
      · rintro rfl
        cases first
      · rintro rfl
        cases first

/-! ## Items in a row -/

/-- A text from which a reader reads a value, if no number goes on behind it. -/
structure Reads {α : Type} (reader : Reader α) (text : List Char) (read : α) : Prop where
  starts : Starts text
  reads : ∀ rest, EndsNumber rest → reader (text ++ rest) = some (read, rest)

/-- Entries one after another, with a gap in front of each. -/
def joined {β : Type} (gap : List Char) (spelling : β → List Char) :
    List β → List Char
  | [] => []
  | [entry] => gap ++ spelling entry
  | entry :: rest => gap ++ spelling entry ++ ',' :: joined gap spelling rest

theorem length_spelling_le_joined {β : Type} (gap : List Char)
    (spelling : β → List Char) {entries : List β} {entry : β}
    (member : entry ∈ entries) :
    (spelling entry).length ≤ (joined gap spelling entries).length := by
  induction entries with
  | nil => cases member
  | cons first rest ih =>
      cases rest with
      | nil =>
          rw [List.mem_singleton.mp member, joined, List.length_append]
          omega
      | cons next others =>
          simp only [joined, List.length_append, List.length_cons]
          rcases List.mem_cons.mp member with rfl | later
          · omega
          · have less := ih later
            omega

theorem length_le_joined {β : Type} (gap : List Char) {spelling : β → List Char}
    {entries : List β} (nonempty : ∀ entry ∈ entries, spelling entry ≠ []) :
    entries.length ≤ (joined gap spelling entries).length := by
  induction entries with
  | nil => exact Nat.zero_le _
  | cons first rest ih =>
      have positive := List.length_pos_iff.mpr (nonempty first List.mem_cons_self)
      have less := ih fun entry member => nonempty entry (List.mem_cons_of_mem _ member)
      cases rest with
      | nil =>
          rw [joined, List.length_append, List.length_singleton]
          omega
      | cons next others =>
          simp only [joined, List.length_append, List.length_cons] at less ⊢
          omega

/-- A closing bracket. -/
def Closes (closing : Char) : Prop :=
  closing = ']' ∨ closing = '\x7d'

theorem Closes.notBlank {closing : Char} (closes : Closes closing) :
    isBlank closing = false := by
  rcases closes with rfl | rfl <;> rfl

theorem Closes.endsNumber {closing : Char} (closes : Closes closing)
    (rest : List Char) : EndsNumber (closing :: rest) := by
  apply endsNumber_cons
  rcases closes with rfl | rfl <;> decide

theorem items_joined {α β : Type} {item : Reader α} {closing : Char}
    (closes : Closes closing) {gap last : List Char} (gapBlank : Blank gap)
    (lastBlank : Blank last) {spelling : β → List Char} {read : β → α}
    {entries : List β} (nonempty : entries ≠ [])
    (each : ∀ entry ∈ entries, Reads item (spelling entry) (read entry))
    {fuel : Nat} (enough : entries.length ≤ fuel) (rest : List Char) :
    items item closing fuel (joined gap spelling entries ++ (last ++ closing :: rest)) =
      some (entries.map read, rest) := by
  induction entries generalizing fuel with
  | nil => exact absurd rfl nonempty
  | cons entry others ih =>
      obtain ⟨starts, reads⟩ := each entry List.mem_cons_self
      cases fuel with
      | zero => cases enough
      | succ fuel =>
          cases others with
          | nil =>
              have ends := endsNumber_blank lastBlank (closes.endsNumber rest)
              rw [joined, List.append_assoc, items, skipBlank_append gapBlank,
                starts.skipBlank, reads _ ends]
              simp only [skipBlank_append lastBlank, skipBlank_cons closes.notBlank,
                if_pos]
              rfl
          | cons next later =>
              have ends : EndsNumber (',' :: (joined gap spelling (next :: later) ++
                  (last ++ closing :: rest))) := endsNumber_cons (by decide)
              have comma : ¬ ',' = closing := by
                rintro rfl
                rcases closes with equal | equal <;> cases equal
              have tail := ih (List.cons_ne_nil _ _)
                (fun entry member => each entry (List.mem_cons_of_mem _ member))
                (Nat.le_of_succ_le_succ enough)
              rw [joined, List.append_assoc, List.append_assoc, List.cons_append, items,
                skipBlank_append gapBlank, starts.skipBlank, reads _ ends]
              · simp only [skipBlank_cons (rfl : isBlank ',' = false), if_neg comma,
                  if_pos, tail]
                rfl
              · intro none
                cases none

theorem sequence_joined {α β : Type} {item : Reader α} {closing : Char}
    (closes : Closes closing) {gap last : List Char} (gapBlank : Blank gap)
    (lastBlank : Blank last) {spelling : β → List Char} (read : β → α)
    {entries : List β}
    (each : ∀ entry ∈ entries, Reads item (spelling entry) (read entry))
    {bound : Nat} (enough : entries.length ≤ bound) (rest : List Char) :
    sequence bound item closing
        (joined gap spelling entries ++ (last ++ closing :: rest)) =
      some (entries.map read, rest) := by
  cases entries with
  | nil =>
      rw [joined, List.nil_append, sequence, skipBlank_append lastBlank,
        skipBlank_cons closes.notBlank]
      exact if_pos rfl
  | cons entry others =>
      obtain ⟨first, behind, spelled, notBlank, notList, notRecord⟩ :=
        (each entry List.mem_cons_self).starts
      have open_ : ¬ first = closing := by
        rintro rfl
        rcases closes with rfl | rfl <;> contradiction
      have front : ∃ tail, skipBlank (joined gap spelling (entry :: others) ++
          (last ++ closing :: rest)) = first :: tail := by
        cases others with
        | nil =>
            refine ⟨behind ++ (last ++ closing :: rest), ?_⟩
            rw [joined, List.append_assoc, skipBlank_append gapBlank, spelled]
            exact skipBlank_cons notBlank _
        | cons next later =>
            refine ⟨behind ++ ',' :: (joined gap spelling (next :: later) ++
              (last ++ closing :: rest)), ?_⟩
            rw [joined, List.append_assoc, List.append_assoc, List.cons_append,
              skipBlank_append gapBlank, spelled]
            · exact skipBlank_cons notBlank _
            · intro none
              cases none
      obtain ⟨tail, skipped⟩ := front
      have all := items_joined closes gapBlank lastBlank (List.cons_ne_nil _ _) each
        enough rest
      have again : items item closing bound (first :: tail) =
          items item closing bound (joined gap spelling (entry :: others) ++
            (last ++ closing :: rest)) := by
        cases bound with
        | zero => rfl
        | succ fuel => rw [items, items, skipped, skipBlank_cons notBlank]
      rw [sequence, skipped]
      simp only [if_neg open_, again, all]

/-! ## Values -/

/-- Beyond its brackets, a value is read without regard to levels. -/
theorem value_eq_scalar {first : Char} (notList : first ≠ '[')
    (notRecord : first ≠ '\x7b') (bound depth : Nat) (rest : List Char) :
    value bound depth (first :: rest) = scalar (first :: rest) := by
  cases depth with
  | zero =>
      have closed : opening? (first :: rest) = none := by
        unfold opening?
        split
        · exact absurd (List.cons.inj ‹_›).1 notList
        · exact absurd (List.cons.inj ‹_›).1 notRecord
        · rfl
      rw [value, skipOrRead, closed]
  | succ depth =>
      rw [value]
      dsimp only
      split
      · exact absurd (List.cons.inj ‹_›).1 notList
      · exact absurd (List.cons.inj ‹_›).1 notRecord
      · rfl

theorem reads_list {bound depth : Nat} {gap last : List Char} (gapBlank : Blank gap)
    (lastBlank : Blank last) {spelling : Datum → List Char} {entries : List Datum}
    (each : ∀ entry ∈ entries, Reads (value bound depth) (spelling entry) entry)
    (enough : entries.length ≤ bound) :
    Reads (value bound (depth + 1))
      ('[' :: (joined gap spelling entries ++ (last ++ [']']))) (.list entries) where
  starts := ⟨'[', _, rfl, rfl, by decide, by decide⟩
  reads rest _ := by
    have inside := sequence_joined (Or.inl rfl : Closes ']') gapBlank lastBlank
      id each enough rest
    rw [List.cons_append, List.append_assoc, List.append_assoc, List.singleton_append,
      value]
    simp only [inside, List.map_id]
    rfl

theorem reads_field {bound depth : Nat} {name : String} {content : Datum}
    {space text : List Char} (spaceBlank : Blank space)
    (reads : Reads (value bound depth) text content) :
    Reads (field (value bound depth)) (quote name ++ ':' :: (space ++ text))
      (some name, content) where
  starts := ⟨'"', _, rfl, rfl, by decide, by decide⟩
  reads rest ends := by
    have behind : Json.name (quote name ++ ':' :: (space ++ (text ++ rest))) =
        some (some name, text ++ rest) := by
      rw [quote, List.cons_append, List.append_assoc, List.singleton_append, Json.name,
        unquote_quoted]
      simp only [skipBlank_cons (rfl : isBlank ':' = false)]
      rw [skipBlank_append spaceBlank, reads.starts.skipBlank]
    rw [List.append_assoc, List.cons_append, List.append_assoc, field, behind]
    simp only [reads.reads rest ends]
    rfl

theorem recordOf_named (fields : List (String × Datum)) :
    recordOf (fields.map fun field => (some field.1, field.2)) = .record fields := by
  have all : (fields.map fun field => (some field.1, field.2)).mapM named =
      some fields := by
    induction fields with
    | nil => rfl
    | cons field rest ih =>
        rw [List.map_cons, List.mapM_cons, ih]
        rfl
  rw [recordOf, all]

theorem reads_record {bound depth : Nat} {gap last : List Char} (gapBlank : Blank gap)
    (lastBlank : Blank last) {spelling : String × Datum → List Char}
    {fields : List (String × Datum)}
    (each : ∀ entry ∈ fields,
      Reads (field (value bound depth)) (spelling entry) (some entry.1, entry.2))
    (enough : fields.length ≤ bound) :
    Reads (value bound (depth + 1))
      ('\x7b' :: (joined gap spelling fields ++ (last ++ ['\x7d'])))
      (.record fields) where
  starts := ⟨'\x7b', _, rfl, rfl, by decide, by decide⟩
  reads rest _ := by
    have inside := sequence_joined (Or.inr rfl : Closes '\x7d') gapBlank lastBlank
      (fun entry : String × Datum => (some entry.1, entry.2)) each enough rest
    rw [List.cons_append, List.append_assoc, List.append_assoc, List.singleton_append,
      value]
    simp only [inside, Option.map_some, recordOf_named]

/-! ## Values without parts -/

/-- Whether data has no parts. -/
def IsScalar : Datum → Prop
  | .list _ | .record _ => False
  | _ => True

/-- Signs and digits begin numbers only. -/
theorem scalar_eq_number {first : Char}
    (begins : first = '-' ∨ first.isDigit = true) (rest : List Char) :
    scalar (first :: rest) = number (first :: rest) := by
  have other : first ≠ 'n' ∧ first ≠ 't' ∧ first ≠ 'f' ∧ first ≠ '"' := by
    refine ⟨?_, ?_, ?_, ?_⟩ <;> (rintro rfl; revert begins; decide)
  obtain ⟨notNull, notTrue, notFalse, notQuote⟩ := other
  unfold scalar
  split
  · exact absurd (List.cons.inj ‹_›).1 notNull
  · exact absurd (List.cons.inj ‹_›).1 notTrue
  · exact absurd (List.cons.inj ‹_›).1 notFalse
  · exact absurd (List.cons.inj ‹_›).1 notQuote
  · rfl

theorem reads_number {bound depth : Nat} {text : List Char} {read : Datum}
    (begins : ∃ first others, text = first :: others ∧
      (first = '-' ∨ first.isDigit = true))
    (reads : ∀ rest, EndsNumber rest → number (text ++ rest) = some (read, rest)) :
    Reads (value bound depth) text read := by
  obtain ⟨first, others, rfl, begins⟩ := begins
  have notOther : isBlank first = false ∧ first ≠ ']' ∧ first ≠ '\x7d' ∧
      first ≠ '[' ∧ first ≠ '\x7b' := by
    refine ⟨?_, ?_, ?_, ?_, ?_⟩
    · cases blank : isBlank first with
      | false => rfl
      | true =>
          simp only [isBlank, Bool.or_eq_true, decide_eq_true_eq] at blank
          rcases blank with ((rfl | rfl) | rfl) | rfl <;> (revert begins; decide)
    all_goals (rintro rfl; revert begins; decide)
  obtain ⟨notBlank, notList, notRecord, notOpenList, notOpenRecord⟩ := notOther
  constructor
  · exact ⟨first, others, rfl, notBlank, notList, notRecord⟩
  · intro rest ends
    rw [List.cons_append, value_eq_scalar notOpenList notOpenRecord,
      scalar_eq_number begins]
    exact reads rest ends

theorem exists_first_digit (value : Nat) :
    ∃ first others, decimalDigits value = first :: others ∧ first.isDigit = true := by
  obtain ⟨first, others, equal⟩ :=
    List.exists_cons_of_ne_nil (decimalDigits_ne_nil value)
  exact ⟨first, others, equal,
    isDigit_of_mem_decimalDigits (equal ▸ List.mem_cons_self)⟩

theorem reads_whole (bound depth : Nat) (given : Int) :
    Reads (value bound depth) (wholeText given) (.whole given) := by
  apply reads_number
  · cases given with
    | ofNat given =>
        obtain ⟨first, others, equal, isDigit⟩ := exists_first_digit given
        exact ⟨first, others, equal, Or.inr isDigit⟩
    | negSucc given => exact ⟨'-', _, rfl, Or.inl rfl⟩
  · intro rest ends
    exact number_wholeText given ends

theorem reads_decimal (bound depth : Nat) (negative : Bool) (significand : Nat)
    (power : Int) :
    Reads (value bound depth) (decimalText negative significand power)
      (.decimal negative significand power) := by
  apply reads_number
  · cases negative with
    | true => exact ⟨'-', _, rfl, Or.inl rfl⟩
    | false =>
        obtain ⟨first, others, equal, isDigit⟩ := exists_first_digit significand
        refine ⟨first, others ++ 'e' :: wholeText power, ?_, Or.inr isDigit⟩
        rw [decimalText, equal]
        rfl
  · intro rest ends
    exact number_decimalText negative significand power ends

theorem reads_text (bound depth : Nat) (given : String) :
    Reads (value bound depth) (quote given) (.text given) where
  starts := ⟨'"', _, rfl, rfl, by decide, by decide⟩
  reads rest _ := by
    rw [quote, List.cons_append, List.append_assoc, List.singleton_append,
      value_eq_scalar (by decide) (by decide), scalar, unquote_quoted]
    rfl

/-- Data without parts is read back. -/
theorem reads_scalar {datum : Datum} (isScalar : IsScalar datum) {depth : Nat}
    (legible : datum.Legible depth) (bound : Nat) :
    Reads (value bound depth) (compact datum) datum := by
  cases datum with
  | null =>
      refine ⟨⟨'n', _, rfl, rfl, by decide, by decide⟩, fun rest _ => ?_⟩
      exact value_eq_scalar (by decide) (by decide) _ _ _
  | flag given =>
      cases given with
      | true =>
          refine ⟨⟨'t', _, rfl, rfl, by decide, by decide⟩, fun rest _ => ?_⟩
          exact value_eq_scalar (by decide) (by decide) _ _ _
      | false =>
          refine ⟨⟨'f', _, rfl, rfl, by decide, by decide⟩, fun rest _ => ?_⟩
          exact value_eq_scalar (by decide) (by decide) _ _ _
  | whole given => exact reads_whole bound depth given
  | decimal negative significand power =>
      exact reads_decimal bound depth negative significand power
  | text given => exact reads_text bound depth given
  | list entries => cases isScalar
  | record fields => cases isScalar
  | unreadable => cases depth <;> cases legible

/-! ## Ways of writing -/

/-- A field, with blanks in front of its value. -/
def spellField (space : List Char) (spell : Datum → List Char)
    (field : String × Datum) : List Char :=
  quote field.1 ++ ':' :: (space ++ spell field.2)

/-- A way of writing data at a level. -/
structure Spells (spell : Nat → Datum → List Char) : Prop where
  scalar : ∀ level datum, IsScalar datum → spell level datum = compact datum
  list : ∀ level entries, ∃ gap last, Blank gap ∧ Blank last ∧
    spell level (.list entries) =
      '[' :: (joined gap (spell (level + 1)) entries ++ (last ++ [']']))
  record : ∀ level fields, ∃ gap space last, Blank gap ∧ Blank space ∧ Blank last ∧
    spell level (.record fields) =
      '\x7b' :: (joined gap (spellField space (spell (level + 1))) fields ++
        (last ++ ['\x7d']))

theorem Spells.readsScalar {spell : Nat → Datum → List Char} (spells : Spells spell)
    {depth : Nat} {datum : Datum} (isScalar : IsScalar datum)
    (legible : datum.Legible depth) (level bound : Nat) :
    Reads (value bound depth) (spell level datum) datum := by
  rw [spells.scalar level datum isScalar]
  exact reads_scalar isScalar legible bound

/-- What is written in any such way is read back. -/
theorem Spells.reads {spell : Nat → Datum → List Char} (spells : Spells spell)
    {depth : Nat} {datum : Datum} (legible : datum.Legible depth) {level bound : Nat}
    (enough : (spell level datum).length ≤ bound) :
    Reads (value bound depth) (spell level datum) datum := by
  induction depth generalizing datum level with
  | zero =>
      cases datum with
      | list entries => cases legible
      | record fields => cases legible
      | _ => exact spells.readsScalar (by trivial) legible level bound
  | succ depth ih =>
      cases datum with
      | list entries =>
          obtain ⟨gap, last, gapBlank, lastBlank, equal⟩ := spells.list level entries
          rw [equal] at enough ⊢
          simp only [List.length_cons, List.length_append] at enough
          have each : ∀ entry ∈ entries,
              Reads (value bound depth) (spell (level + 1) entry) entry := by
            intro entry member
            have shorter := length_spelling_le_joined gap (spell (level + 1)) member
            exact ih (legible entry member) (by omega)
          have few := length_le_joined gap
            fun entry member => (each entry member).starts.ne_nil
          exact reads_list gapBlank lastBlank each (by omega)
      | record fields =>
          obtain ⟨gap, space, last, gapBlank, spaceBlank, lastBlank, equal⟩ :=
            spells.record level fields
          rw [equal] at enough ⊢
          simp only [List.length_cons, List.length_append] at enough
          have each : ∀ entry ∈ fields, Reads (field (value bound depth))
              (spellField space (spell (level + 1)) entry) (some entry.1, entry.2) := by
            intro entry member
            have shorter := length_spelling_le_joined gap
              (spellField space (spell (level + 1))) member
            simp only [spellField, List.length_cons, List.length_append] at shorter
            exact reads_field spaceBlank (ih (legible entry member) (by omega))
          have few := length_le_joined gap
            fun entry member => (each entry member).starts.ne_nil
          exact reads_record gapBlank lastBlank each (by omega)
      | _ => exact spells.readsScalar (by trivial) legible level bound

theorem parse_spell {spell : Nat → Datum → List Char} (spells : Spells spell)
    {datum : Datum} (legible : datum.Legible maxDepth) (level : Nat) :
    parse (String.ofList (spell level datum)) = some datum := by
  have reads := spells.reads legible (Nat.le_refl (spell level datum).length)
  have skipped := reads.starts.skipBlank []
  have read := reads.reads [] endsNumber_nil
  rw [List.append_nil] at skipped read
  rw [parse, String.toList_ofList]
  simp only [skipped, read]
  rfl

/-! ### On one line -/

theorem compactItems_eq (entries : List Datum) :
    compactItems entries = joined [] compact entries := by
  induction entries with
  | nil => rfl
  | cons entry rest ih =>
      cases rest with
      | nil => rfl
      | cons next others =>
          rw [compactItems, joined, ih]
          · rfl
          · intro none
            cases none
          · intro none
            cases none

theorem compactFields_eq (fields : List (String × Datum)) :
    compactFields fields =
      joined [] (spellField [] compact) fields := by
  induction fields with
  | nil => rfl
  | cons field rest ih =>
      cases rest with
      | nil => rfl
      | cons next others =>
          rw [compactFields, joined, ih]
          · simp [spellField]
          · intro none
            cases none
          · intro none
            cases none

theorem spells_compact : Spells fun _ => compact where
  scalar _ _ _ := rfl
  list level entries := by
    refine ⟨[], [], List.forall_mem_nil _, List.forall_mem_nil _, ?_⟩
    rw [compact, compactItems_eq]
    rfl
  record level fields := by
    refine ⟨[], [], [], List.forall_mem_nil _, List.forall_mem_nil _,
      List.forall_mem_nil _, ?_⟩
    rw [compact, compactFields_eq]
    rfl

/-- Legible data is read back from the text of one line. -/
theorem parse_write {datum : Datum} (legible : datum.Legible maxDepth) :
    parse (write datum) = some datum :=
  parse_spell spells_compact legible 0

/-! ### On several lines -/

theorem blank_newline (level : Nat) : Blank (newline level) := by
  intro char member
  rcases List.mem_cons.mp member with rfl | space
  · rfl
  · rw [List.eq_of_mem_replicate space]
    rfl

theorem indentedItems_eq (level : Nat) (entries : List Datum) :
    indentedItems level entries = joined (newline level) (indented level) entries := by
  induction entries with
  | nil => rfl
  | cons entry rest ih =>
      cases rest with
      | nil => rfl
      | cons next others =>
          rw [indentedItems, joined, ih]
          · intro none
            cases none
          · intro none
            cases none

theorem indentedFields_eq (level : Nat) (fields : List (String × Datum)) :
    indentedFields level fields =
      joined (newline level) (spellField [' '] (indented level)) fields := by
  induction fields with
  | nil => rfl
  | cons field rest ih =>
      cases rest with
      | nil => simp [indentedFields, joined, spellField]
      | cons next others =>
          rw [indentedFields, joined, ih]
          · simp [spellField]
          · intro none
            cases none
          · intro none
            cases none

theorem spells_indented : Spells indented where
  scalar level datum isScalar := by
    cases datum with
    | list entries => cases isScalar
    | record fields => cases isScalar
    | flag given => cases given <;> rfl
    | _ => rfl
  list level entries := by
    cases entries with
    | nil => exact ⟨[], [], List.forall_mem_nil _, List.forall_mem_nil _, rfl⟩
    | cons entry rest =>
        refine ⟨_, _, blank_newline (level + 1), blank_newline level, ?_⟩
        rw [indented, indentedItems_eq, List.append_assoc]
  record level fields := by
    cases fields with
    | nil =>
        exact ⟨[], [], [], List.forall_mem_nil _, List.forall_mem_nil _,
          List.forall_mem_nil _, rfl⟩
    | cons field rest =>
        refine ⟨_, [' '], _, blank_newline (level + 1), ?_, blank_newline level, ?_⟩
        · intro char member
          rw [List.mem_singleton.mp member]
          rfl
        · obtain ⟨name, content⟩ := field
          rw [indented, indentedFields_eq, List.append_assoc]

/-- Legible data is read back from the text of several lines. -/
theorem parse_writeIndented {datum : Datum} (legible : datum.Legible maxDepth) :
    parse (writeIndented datum) = some datum :=
  parse_spell spells_indented legible 0

end Text.Json

end OnboardStorage
