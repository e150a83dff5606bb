import OnboardStorage.Clock
import OnboardStorage.Rejection

/-!
# Time windows

A window selects tags by inclusive bounds.  Only a window with two bounds can
be malformed, namely when its start does not lie strictly before its end.
Telecommands name the kind of a window by a code, and an unknown code is an
internal error rather than a rejection.
-/

namespace OnboardStorage

/-- Which bounds a window has. -/
inductive WindowKind where
  | fromTagToTag
  | afterTag
  | beforeTag
  deriving DecidableEq, Repr

/-- A code that names no kind of window. -/
structure UnknownWindowKind where
  code : UInt8
  deriving DecidableEq, Repr

/-- Wording of the internal error. -/
def UnknownWindowKind.message (unknown : UnknownWindowKind) : String :=
  s!"invalid time window type code {unknown.code}"

namespace WindowKind

/-- Every kind, in the order of the codes. -/
def all : List WindowKind :=
  [.fromTagToTag, .afterTag, .beforeTag]

/-- Code of the kind in telecommands. -/
def code : WindowKind → UInt8
  | .fromTagToTag => 0
  | .afterTag => 1
  | .beforeTag => 2

/-- The kind with a given code. -/
def ofCode (code : UInt8) : Except UnknownWindowKind WindowKind :=
  match all.find? fun kind => kind.code = code with
  | some kind => .ok kind
  | none => .error ⟨code⟩

/-- Name of the kind in written records. -/
def name : WindowKind → String
  | .fromTagToTag => "from_tag_to_tag"
  | .afterTag => "after_time_tag"
  | .beforeTag => "before_time_tag"

/-- Name of the kind in log lines. -/
def label : WindowKind → String
  | .fromTagToTag => "FromTagToTag"
  | .afterTag => "AfterTimeTag"
  | .beforeTag => "BeforeTimeTag"

@[simp]
theorem ofCode_code (kind : WindowKind) : ofCode kind.code = .ok kind := by
  cases kind <;> rfl

end WindowKind

/-- A selection of tags by inclusive bounds. -/
inductive Window where
  | between (start stop : TimeTag)
  | atOrAfter (start : TimeTag)
  | atOrBefore (stop : TimeTag)
  deriving DecidableEq, Repr

namespace Window

/-- The window of a given kind; each kind uses only the tags it needs. -/
def ofKind (kind : WindowKind) (start stop : TimeTag) : Window :=
  match kind with
  | .fromTagToTag => .between start stop
  | .afterTag => .atOrAfter start
  | .beforeTag => .atOrBefore stop

/-- Which bounds the window has. -/
def kind : Window → WindowKind
  | .between _ _ => .fromTagToTag
  | .atOrAfter _ => .afterTag
  | .atOrBefore _ => .beforeTag

/-- What is wrong with a window that does not start strictly before it ends. -/
def fault? : Window → Option Rejection
  | .between start stop => if start < stop then none else some .windowInvalid
  | .atOrAfter _ | .atOrBefore _ => none

/-- Whether `tag` is selected. -/
def contains (window : Window) (tag : TimeTag) : Bool :=
  match window with
  | .between start stop => start ≤ tag && tag ≤ stop
  | .atOrAfter start => start ≤ tag
  | .atOrBefore stop => tag ≤ stop

/-- Whether neither `tag` nor any later tag is selected. -/
def isPast (window : Window) (tag : TimeTag) : Bool :=
  match window with
  | .between _ stop | .atOrBefore stop => stop < tag
  | .atOrAfter _ => false

/-- Whether the window reaches into the span from `oldest` to `newest`. -/
def overlaps (window : Window) (oldest newest : TimeTag) : Bool :=
  match window with
  | .between start stop => oldest ≤ stop && start ≤ newest
  | .atOrAfter start => start ≤ newest
  | .atOrBefore stop => oldest ≤ stop

end Window

end OnboardStorage
