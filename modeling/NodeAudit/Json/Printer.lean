import NodeAudit.Decimal.Shortest
import NodeAudit.Json.Basic

/-!
# Writing JSON text

`Json.compact` writes a value without blanks, `Json.pretty` with one member or item a line and two
blanks of indent for each level; an empty container stays on its line. Only quotes, backslashes and
control characters are escaped in a string.
-/

namespace NodeAudit

/-! ## Numbers -/

/-- How doubles are written: which powers of ten are written without an exponent. -/
structure DoubleFormat where
  /-- The smallest power of ten of a first digit that is written positionally. -/
  minPower : Int
  /-- The greatest power of ten of a first digit that is written positionally. -/
  maxPower : Int
deriving Repr

/-- Doubles from `1e-5` up to below `1e16` are written positionally. -/
def Number.doubleFormat : DoubleFormat := ⟨-5, 15⟩

namespace Number

/-- The digits with a point behind the first `before` of them, filled up by zeros. -/
def positional (ds : List Char) (before : Int) : List Char :=
  match before with
  | .ofNat n =>
    if n = 0 then '0' :: '.' :: ds
    else if ds.length ≤ n then ds ++ List.replicate (n - ds.length) '0' ++ ['.', '0']
    else ds.take n ++ '.' :: ds.drop n
  | .negSucc n => '0' :: '.' :: List.replicate (n + 1) '0' ++ ds

/-- One digit before the point, the power of ten of that digit behind an `e` with its sign. -/
def withExponent (ds : List Char) (power : Int) : List Char :=
  let mantissa := match ds with
    | [d] => [d]
    | d :: rest => d :: '.' :: rest
    | [] => []
  let sign := if power < 0 then '-' else '+'
  mantissa ++ 'e' :: sign :: Decimal.digits 10 power.natAbs

/-- The text of a double without its sign. -/
def magnitudeText (f : DoubleFormat) (m : Decimal.Magnitude) : List Char :=
  if m.significand = 0 then ['0', '.', '0']
  else
    let (n, power) := m.shortest
    let ds := Decimal.digits 10 n
    let first : Int := power + ds.length - 1
    if f.minPower ≤ first ∧ first ≤ f.maxPower then positional ds (first + 1)
    else withExponent ds first

/-- The text of a number. -/
def text : Number → String
  | .integer n => Decimal.ofInt n
  | .double negative m =>
    String.ofList ((if negative then ['-'] else []) ++ magnitudeText doubleFormat m)

end Number

/-! ## Strings -/

namespace Json

/-- How a character stands inside a string. -/
def escapeChar (c : Char) : List Char :=
  match c with
  | '"' => ['\\', '"']
  | '\\' => ['\\', '\\']
  | '\x08' => ['\\', 'b']
  | '\t' => ['\\', 't']
  | '\n' => ['\\', 'n']
  | '\x0c' => ['\\', 'f']
  | '\r' => ['\\', 'r']
  | c =>
    if c.toNat < 0x20 then
      ['\\', 'u', '0', '0', Decimal.digitChar (c.toNat / 16), Decimal.digitChar (c.toNat % 16)]
    else [c]

/-- The characters of a string, escaped. -/
def escape (cs : List Char) : List Char := cs.flatMap escapeChar

/-- A string in its quotes. -/
def stringText (s : String) : List Char := '"' :: escape s.toList ++ ['"']

/-! ## Values -/

mutual
/-- The characters of a value without blanks. -/
def compactChars : Json → List Char
  | .null => ['n', 'u', 'l', 'l']
  | .bool true => ['t', 'r', 'u', 'e']
  | .bool false => ['f', 'a', 'l', 's', 'e']
  | .number n => n.text.toList
  | .string s => stringText s
  | .array items => '[' :: compactItems items ++ [']']
  | .object members => '\x7b' :: compactMembers members ++ ['\x7d']

/-- Items, separated by commas. -/
def compactItems : List Json → List Char
  | [] => []
  | [v] => compactChars v
  | v :: rest => compactChars v ++ ',' :: compactItems rest

/-- Members, separated by commas. -/
def compactMembers : List (String × Json) → List Char
  | [] => []
  | [(k, v)] => stringText k ++ ':' :: compactChars v
  | (k, v) :: rest => stringText k ++ ':' :: compactChars v ++ ',' :: compactMembers rest
end

/-- The line break before an item at a level of indent. -/
def newline (level : Nat) : List Char := '\n' :: List.replicate (2 * level) ' '

mutual
/-- The characters of a value whose lines are indented for a level. -/
def prettyChars (level : Nat) : Json → List Char
  | .null => ['n', 'u', 'l', 'l']
  | .bool true => ['t', 'r', 'u', 'e']
  | .bool false => ['f', 'a', 'l', 's', 'e']
  | .number n => n.text.toList
  | .string s => stringText s
  | .array [] => ['[', ']']
  | .array (v :: rest) => '[' :: prettyItems (level + 1) (v :: rest) ++ newline level ++ [']']
  | .object [] => ['\x7b', '\x7d']
  | .object (m :: rest) =>
    '\x7b' :: prettyMembers (level + 1) (m :: rest) ++ newline level ++ ['\x7d']

/-- Items on lines of their own. -/
def prettyItems (level : Nat) : List Json → List Char
  | [] => []
  | [v] => newline level ++ prettyChars level v
  | v :: rest => newline level ++ prettyChars level v ++ ',' :: prettyItems level rest

/-- Members on lines of their own. -/
def prettyMembers (level : Nat) : List (String × Json) → List Char
  | [] => []
  | [(k, v)] => newline level ++ stringText k ++ ':' :: ' ' :: prettyChars level v
  | (k, v) :: rest =>
    newline level ++ stringText k ++ ':' :: ' ' :: prettyChars level v ++
      ',' :: prettyMembers level rest
end

/-- The text of a value without blanks. -/
def compact (v : Json) : String := String.ofList v.compactChars

/-- The text of a value with a line for each item and member. -/
def pretty (v : Json) : String := String.ofList (v.prettyChars 0)

end Json

end NodeAudit
