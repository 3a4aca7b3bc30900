namespace RangeAudit.Console

/-!
# Console markup

The console reads a bracket that opens with a small letter, `#`, `/` or `@` as a style. In a text that
is shown as it is, such a bracket is marked by a backslash, and the backslashes in front of it are
doubled.
-/

/-- May a style begin with the character? -/
def beginsStyle (c : Char) : Bool :=
  ('a' ≤ c && c ≤ 'z') || c == '#' || c == '/' || c == '@'

/-- Is the open bracket closed before another one opens? -/
def closes : List Char → Bool
  | [] => false
  | c :: rest => if c = ']' then true else if c = '[' then false else closes rest

/-- Do the characters after an open bracket make it a style? -/
def opensStyle : List Char → Bool
  | [] => false
  | c :: rest => beginsStyle c && closes rest

/-- Mark the styles. `inStyle` tells that a bracket is open, `run` counts the backslashes that were
    read and not yet written. -/
def markStyles (inStyle : Bool) (run : Nat) : List Char → List Char
  | [] => List.replicate run '\\'
  | c :: rest =>
    if inStyle then c :: markStyles (c ≠ ']') 0 rest
    else if c = '\\' then markStyles false (run + 1) rest
    else if c = '[' ∧ opensStyle rest then
      List.replicate (2 * run + 1) '\\' ++ c :: markStyles true 0 rest
    else List.replicate run '\\' ++ c :: markStyles false 0 rest

/-- Characters that do not end in a single backslash: such a one is doubled. -/
def closeBackslash (cs : List Char) : List Char :=
  match cs.reverse with
  | '\\' :: '\\' :: _ => cs
  | '\\' :: _ => cs ++ ['\\']
  | _ => cs

/-- The text in a form that the console shows as it is. -/
def escape (text : String) : String :=
  String.ofList (closeBackslash (markStyles false 0 text.toList))

/-- The text in a style. -/
def styled (style : String) (text : String) : String :=
  "[" ++ style ++ "]" ++ text ++ "[/]"

/-- A foreign text in a style. -/
def styledEscaped (style : String) (text : String) : String :=
  styled style (escape text)

example : escape "x[a] = y[0]" = "x\\[a] = y[0]" := by decide +kernel
example : escape "\\[b]" = "\\\\\\[b]" := by decide +kernel
example : escape "[a[b]" = "[a\\[b]" := by decide +kernel

end RangeAudit.Console
