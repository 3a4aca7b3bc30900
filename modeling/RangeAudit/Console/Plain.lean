import RangeAudit.Console.Run

namespace RangeAudit.Console

/-!
# Plain display

What a run prints on a terminal without styles. A bracket that is a style is left out; one that is
marked by a backslash is shown without the mark, and of the backslashes in front of a bracket every
second one is shown.
-/

/-- What is done with the characters up to the next closing bracket. -/
inductive BracketState where
  | outside
  | shown
  | leftOut
  deriving DecidableEq, Inhabited

/-- The characters without styles. `run` counts the backslashes that were read and not yet written. -/
def dropStyles (state : BracketState) (run : Nat) : List Char → List Char
  | [] => List.replicate run '\\'
  | c :: rest =>
    let next := fun (inside : BracketState) => if c = ']' then BracketState.outside else inside
    match state with
    | .shown => c :: dropStyles (next .shown) 0 rest
    | .leftOut => dropStyles (next .leftOut) 0 rest
    | .outside =>
      if c = '\\' then dropStyles .outside (run + 1) rest
      else if c = '[' ∧ opensStyle rest then
        if run % 2 = 1 then List.replicate (run / 2) '\\' ++ c :: dropStyles .shown 0 rest
        else List.replicate (run / 2) '\\' ++ dropStyles .leftOut 0 rest
      else List.replicate run '\\' ++ c :: dropStyles .outside 0 rest

/-- The text without styles. -/
def unstyled (text : String) : String :=
  String.ofList (dropStyles .outside 0 text.toList)

/-- Cells in columns of at least the given widths. -/
def aligned (widths : List Nat) (cells : List String) : String :=
  "  ".intercalate (List.zipWith
    (fun width cell => cell ++ String.ofList (List.replicate (width - cell.length) ' ')) widths cells)

/-- The lines of a printed item. -/
def Printed.lines : Printed → List String
  | text content markup => [if markup then unstyled content else content]
  | table title columns rows =>
    let rows := columns :: rows.map (List.map unstyled)
    let widths := rows.foldl (fun widths row => List.zipWith max widths (row.map String.length))
      (columns.map fun _ => 0)
    unstyled title :: rows.map (aligned widths)

end RangeAudit.Console
