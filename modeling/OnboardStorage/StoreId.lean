import OnboardStorage.Limits
import OnboardStorage.OrderedMap

/-!
# Packet store identifiers

An identifier is a text of 1 to 16 bytes of UTF-8.  The bound is on bytes, so
fewer than sixteen characters may already be too many.  Identifiers are ordered
as their texts are, character by character; for UTF-8 this is also the order of
their bytes.
-/

namespace OnboardStorage

/-- A text short enough to name a packet store. -/
structure StoreId where
  text : String
  nonempty : 0 < text.utf8ByteSize
  fits : text.utf8ByteSize ≤ Limits.idBytes
  deriving DecidableEq

namespace StoreId

/-- Why a text names no packet store. -/
inductive Fault where
  | empty
  | tooLong (bytes : Nat)
  deriving DecidableEq, Repr

/-- Wording of the fault. -/
def Fault.message : Fault → String
  | .empty => "packet store id is empty"
  | .tooLong bytes =>
      s!"packet store id is {bytes} bytes long (limit {Limits.idBytes})"

/-- The identifier with a given text. -/
def ofText (text : String) : Except Fault StoreId :=
  if hempty : text.utf8ByteSize = 0 then .error .empty
  else if hfits : text.utf8ByteSize ≤ Limits.idBytes then
    .ok ⟨text, Nat.pos_of_ne_zero hempty, hfits⟩
  else .error (.tooLong text.utf8ByteSize)

@[simp]
theorem ofText_text (id : StoreId) : ofText id.text = .ok id := by
  have hne : ¬ id.text.utf8ByteSize = 0 := Nat.ne_of_gt id.nonempty
  simp [ofText, hne, id.fits]

instance : LT StoreId :=
  ⟨fun left right => left.text < right.text⟩

instance : DecidableLT StoreId :=
  fun left right => inferInstanceAs (Decidable (left.text < right.text))

instance : KeyOrder StoreId where
  trans := fun {a b c} (hab : a.text < b.text) (hbc : b.text < c.text) =>
    (String.lt_trans hab hbc : a.text < c.text)
  irrefl := fun id => String.lt_irrefl id.text
  connex := fun left right => by
    rcases Std.lt_trichotomy left.text right.text with h | h | h
    · exact Or.inl h
    · refine Or.inr (Or.inl ?_)
      cases left
      cases right
      cases h
      rfl
    · exact Or.inr (Or.inr h)

end StoreId

end OnboardStorage
