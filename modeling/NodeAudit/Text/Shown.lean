/-!
# Displayed values

A value on display is a text or a record with named fields. `Shown.line` writes it on one line and
`Shown.lines` gives every field a line of its own.
-/

namespace NodeAudit.Text

/-- A value on display. -/
inductive Shown where
  | text (s : String)
  | record (name : String) (fields : List (String × Shown))

namespace Shown

mutual
/-- The value on one line. -/
def line : Shown → String
  | text s => s
  | record name [] => name
  | record name (f :: rest) => name ++ " \x7b " ++ lineFields (f :: rest) ++ " \x7d"

/-- Fields on one line. -/
def lineFields : List (String × Shown) → String
  | [] => ""
  | [(name, v)] => name ++ ": " ++ v.line
  | (name, v) :: rest => name ++ ": " ++ v.line ++ ", " ++ lineFields rest
end

/-- The blanks before a field at a level. -/
def indent (level : Nat) : String := String.ofList (List.replicate (4 * level) ' ')

mutual
/-- The value with a line for each field, at a level of indentation. -/
def linesAt (level : Nat) : Shown → String
  | text s => s
  | record name [] => name
  | record name (f :: rest) =>
    name ++ " \x7b\n" ++ linesFields (level + 1) (f :: rest) ++ indent level ++ "\x7d"

/-- Fields on lines of their own. -/
def linesFields (level : Nat) : List (String × Shown) → String
  | [] => ""
  | (name, v) :: rest =>
    indent level ++ name ++ ": " ++ v.linesAt level ++ ",\n" ++ linesFields level rest
end

/-- The value with a line for each field. -/
def lines (v : Shown) : String := v.linesAt 0

end Shown

end NodeAudit.Text
