import RangeAudit.Trace.Basic

namespace RangeAudit

/-!
# Changes of a domain

How the domain of a variable moved from one mention to the next. Ranges are compared by their
canonical texts first: a mention with the same text is no change. A change to an unrestricted range,
and a change by a step that replaces domains, are named as such; every other change is judged by
width: first the number of pieces, then the number of exclusions, then the span.

* `ValueRange.verdict` : the verdict on a change between ranges whose texts differ;
* `ValueRange.judge` : the verdict on a mention, which fails if a text that has to be compared is not written;
* `ValueRange.classify` : what the verdict is, however long the numbers are.
-/

/-- The verdicts on a change. -/
inductive ChangeKind where
  | new
  | narrowed
  | widened
  | unrestricted
  | assigned
  deriving DecidableEq, Inhabited

/-- The name of a verdict. -/
def ChangeKind.name : ChangeKind → String
  | new => "NEW"
  | narrowed => "NARROWED"
  | widened => "WIDENED"
  | unrestricted => "UNRESTRICTED"
  | assigned => "ASSIGN"

namespace ValueRange

/-- The verdict on a change between ranges of the same number of pieces and exclusions: narrowed
    exactly when the new span is smaller, where a range without limit is larger than any other. -/
def compareSpan (previous current : ValueRange) : ChangeKind :=
  match previous.span, current.span with
  | _, none => .widened
  | none, some _ => .narrowed
  | some before, some now => if now < before then .narrowed else .widened

/-- The verdict on a change by width alone. -/
def compareWidth (previous current : ValueRange) : ChangeKind :=
  if current.pieceCount < previous.pieceCount then .narrowed
  else if previous.pieceCount < current.pieceCount then .widened
  else if previous.exclusionCount < current.exclusionCount then .narrowed
  else if current.exclusionCount < previous.exclusionCount then .widened
  else compareSpan previous current

/-- The verdict on a change between ranges whose canonical texts differ, by a step of the given kind. -/
def verdict (previous current : ValueRange) (kind : Option StepKind) : ChangeKind :=
  if current.isUnrestricted then .unrestricted
  else if kind.any StepKind.replaces then .assigned
  else compareWidth previous current

/-- The verdict on the change from `previous` (absent at a first mention) to `current` by a step of
    the given kind; nothing if the canonical texts are the same. -/
def classify (previous : Option ValueRange) (current : ValueRange) (kind : Option StepKind) :
    Option ChangeKind :=
  match previous with
  | none => some .new
  | some previous =>
    if current.exact = previous.exact then none else some (verdict previous current kind)

/-- The verdict as it is reached: both texts are written before they are compared. -/
def judge (previous : Option ValueRange) (current : ValueRange) (kind : Option StepKind) :
    Except Fault (Option ChangeKind) :=
  match previous with
  | none => .ok (some .new)
  | some previous => do
    let now ← current.write
    let before ← previous.write
    return if now = before then none else some (verdict previous current kind)

end ValueRange

end RangeAudit
