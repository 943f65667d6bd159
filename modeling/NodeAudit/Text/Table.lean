/-!
# Tables of characters written as text

A large property of characters is written as words, each a range of code points in hexadecimal with
an optional value: `41-5a:61`, `100-12e/2:101` for every second code point, `378-379` without a
value, `a8:20.308` with two. The rows of a table increase, so that one is found by binary search
(`Table.find?`).
-/

namespace NodeAudit.Text

/-- The code points `first`, `first + step`, … up to `last`, and what the table says of them. -/
structure Table.Row where
  first : Nat
  last : Nat
  step : Nat
  values? : Option (List Nat)
deriving Inhabited, Repr

/-- Rows in increasing order. -/
abbrev Table := Array Table.Row

namespace Table

/-- The value of a hexadecimal digit in small letters. -/
def digitValue (c : Char) : Nat :=
  if c.toNat < 97 then c.toNat - 48 else c.toNat - 87

/-- Where a reader of words is: the numbers of the word so far, and whether values have begun. -/
structure Reading where
  rows : Table := #[]
  first : Option Nat := none
  last : Option Nat := none
  step : Option Nat := none
  values? : Option (List Nat) := none
  current : Option Nat := none
  inStep : Bool := false

/-- Put the number that was read into its place. -/
def Reading.close (r : Reading) : Reading :=
  match r.values?, r.current with
  | some vs, some n => { r with values? := some (n :: vs), current := none }
  | none, some n =>
    if r.inStep then { r with step := some n, current := none }
    else if r.first.isNone then { r with first := some n, current := none }
    else { r with last := some n, current := none }
  | _, none => r

/-- End a word. -/
def Reading.endWord (r : Reading) : Reading :=
  let r := r.close
  match r.first with
  | some first =>
    { rows := r.rows.push ⟨first, r.last.getD first, r.step.getD 1, r.values?.map List.reverse⟩ }
  | none => { rows := r.rows }

/-- Read one more character. -/
def Reading.push (r : Reading) (c : Char) : Reading :=
  match c with
  | ' ' | '\n' => r.endWord
  | '-' | '.' => r.close
  | '/' => { r.close with inStep := true }
  | ':' => { r.close with values? := some [] }
  | c => { r with current := some (r.current.getD 0 * 16 + digitValue c) }

/-- The table that a text writes. -/
def ofText (text : String) : Table :=
  (text.toList.foldl Reading.push {}).endWord.rows

/-- Search the rows with index in `[lo, hi)` for the one that holds `n`. -/
def search (table : Table) (n lo hi : Nat) : Option Row :=
  if _h : lo < hi then
    let mid := (lo + hi) / 2
    let row := table.getD mid default
    if n < row.first then search table n lo mid
    else if row.last < n then search table n (mid + 1) hi
    else if (n - row.first) % row.step = 0 then some row
    else none
  else none
termination_by hi - lo

/-- The row that holds a code point. -/
def find? (table : Table) (n : Nat) : Option Row :=
  search table n 0 table.size

/-- The first value that the table gives for a character, zero if there is none. -/
def classOf (table : Table) (c : Char) : Nat :=
  ((table.find? c.toNat).bind fun row => row.values?.bind List.head?).getD 0

end Table

end NodeAudit.Text
