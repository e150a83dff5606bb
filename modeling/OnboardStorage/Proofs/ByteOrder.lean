import OnboardStorage.StoreId

/-!
# The order of identifiers is the order of their bytes

Identifiers are compared character by character.  In UTF-8 the bytes of a later
character are later at the first byte that differs, and neither is a beginning of the
other; so comparing byte by byte comes to the same.
-/

namespace OnboardStorage

/-- One sequence of bytes comes before another: it is less at the first byte that
differs, or it is a beginning of it. -/
def BytesBefore : List UInt8 → List UInt8 → Prop :=
  List.Lex fun first second => first < second

namespace BytesBefore

variable {left right : List UInt8}

theorem append_left (before : BytesBefore left right) (shared : List UInt8) :
    BytesBefore (shared ++ left) (shared ++ right) := by
  induction shared with
  | nil => exact before
  | cons byte rest ih => exact .cons ih

theorem asymm (before : BytesBefore left right) : ¬ BytesBefore right left := by
  induction before with
  | nil => nofun
  | rel less =>
      intro after
      cases after with
      | rel more => exact UInt8.lt_asymm less more
      | cons _ => exact UInt8.lt_irrefl _ less
  | cons _ ih =>
      intro after
      cases after with
      | rel same => exact UInt8.lt_irrefl _ same
      | cons after => exact ih after

/-! ## Characters -/

/-- One sequence of bytes comes before another, whatever follows them. -/
def Always (left right : List UInt8) : Prop :=
  ∀ rest others, BytesBefore (left ++ rest) (right ++ others)

theorem always_nil_iff : Always [] [] ↔ False := by
  constructor
  · intro always
    cases always [] []
  · exact False.elim

theorem always_cons_iff {first second : UInt8} :
    Always (first :: left) (second :: right) ↔
      first < second ∨ first = second ∧ Always left right := by
  constructor
  · intro always
    by_cases less : first < second
    · exact Or.inl less
    · have same : first = second := by
        cases always [] [] with
        | rel less' => exact absurd less' less
        | cons _ => rfl
      subst same
      refine Or.inr ⟨rfl, ?_⟩
      intro rest others
      cases always rest others with
      | rel less' => exact absurd less' less
      | cons before => exact before
  · rintro (less | ⟨rfl, always⟩)
    · exact fun rest others => .rel less
    · exact fun rest others => .cons (always rest others)

theorem always_ofNat_iff {first second : Nat} (small : first < 256) (smallToo : second < 256) :
    Always (.ofNat first :: left) (.ofNat second :: right) ↔
      first < second ∨ first = second ∧ Always left right := by
  rw [always_cons_iff, UInt8.ofNat_lt_iff_lt small smallToo, ← UInt8.toNat_inj,
    UInt8.toNat_ofNat_of_lt' small, UInt8.toNat_ofNat_of_lt' smallToo]

/-- The bytes of a later character are later. -/
theorem always_utf8EncodeChar {first second : Char} (before : first < second) :
    Always (String.utf8EncodeChar first) (String.utf8EncodeChar second) := by
  have less : first.val.toNat < second.val.toNat :=
    UInt32.lt_iff_toNat_lt.mp (Char.lt_def.mp before)
  have valid : second.val.toNat < 0x110000 := by
    rcases second.valid with small | ⟨-, large⟩
    · omega
    · exact large
  -- Written digit by digit in base 64, so that each digit is a remainder of the one before.
  have third (value : Nat) : value / 4096 = value / 64 / 64 := by
    rw [Nat.div_div_eq_div_mul]
  have fourth (value : Nat) : value / 262144 = value / 64 / 64 / 64 := by
    rw [Nat.div_div_eq_div_mul, Nat.div_div_eq_div_mul]
  simp only [String.utf8EncodeChar, third, fourth]
  generalize first.val.toNat = lower at less
  generalize second.val.toNat = higher at less valid
  split <;> split <;> (try split) <;> (try split) <;> (try split) <;> (try split)
  all_goals
    simp (disch := omega) only [always_ofNat_iff, always_nil_iff]
  all_goals omega

/-! ## Texts -/

theorem flatMap_utf8EncodeChar {first second : List Char}
    (before : List.Lex (fun one other => one < other) first second) :
    BytesBefore (first.flatMap String.utf8EncodeChar)
      (second.flatMap String.utf8EncodeChar) := by
  induction before with
  | @nil char rest =>
      rcases List.exists_cons_of_ne_nil (String.utf8EncodeChar_ne_nil (c := char)) with
        ⟨byte, others, equal⟩
      rw [List.flatMap_nil, List.flatMap_cons, equal]
      exact .nil
  | rel less =>
      rw [List.flatMap_cons, List.flatMap_cons]
      exact always_utf8EncodeChar less _ _
  | cons _ ih =>
      rw [List.flatMap_cons, List.flatMap_cons]
      exact ih.append_left _

end BytesBefore

namespace StoreId

/-- The text of an identifier in UTF-8. -/
def bytes (id : StoreId) : List UInt8 :=
  id.text.toUTF8.data.toList

theorem bytes_eq (id : StoreId) :
    id.bytes = id.text.toList.flatMap String.utf8EncodeChar := by
  rw [bytes, String.toUTF8_eq_toByteArray, ← String.utf8Encode_toList, List.utf8Encode,
    List.data_toByteArray]

theorem bytesBefore_of_lt {left right : StoreId} (before : left < right) :
    BytesBefore left.bytes right.bytes := by
  rw [bytes_eq, bytes_eq]
  exact BytesBefore.flatMap_utf8EncodeChar (String.lt_iff.mp before)

/-- Identifiers are ordered by their bytes. -/
theorem lt_iff_bytesBefore {left right : StoreId} :
    left < right ↔ BytesBefore left.bytes right.bytes := by
  constructor
  · exact bytesBefore_of_lt
  · intro before
    rcases KeyOrder.connex left right with less | rfl | more
    · exact less
    · exact absurd before before.asymm
    · exact absurd before (bytesBefore_of_lt more).asymm

end StoreId

end OnboardStorage
