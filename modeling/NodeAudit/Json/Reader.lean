import NodeAudit.Decimal.Digits
import NodeAudit.Json.Document
import NodeAudit.Json.NumberLiteral

/-!
# Reading JSON text

`JsonText.read` turns a text into a document. Each scanner takes the characters that are left and
gives back what it read and the rest; a rest of `none` says that a syntax error was met. The
scanners for values call each other on what is left, with a bound on the number of calls that the
length of the text always covers.
-/

namespace NodeAudit

/-- The document of a text, and whether other characters follow it. -/
structure JsonText where
  root : Document
  trailing : Bool
deriving Repr

namespace JsonText

/-- The four blanks of the format. -/
def isSpace (c : Char) : Bool := c == ' ' || c == '\n' || c == '\t' || c == '\r'

def skipSpace (cs : List Char) : List Char := cs.dropWhile isSpace

/-! ## Strings -/

/-- The value of four hexadecimal digits. -/
def hexQuad? (a b c d : Char) : Option Nat := Decimal.value? 16 [a, b, c, d]

/-- A piece of a string: a character, or half of a surrogate pair. -/
inductive Unit where
  | char (c : Char)
  | surrogate (n : Nat)
deriving DecidableEq, Repr

/-- The unit of a code point below `2 ^ 16`. -/
def Unit.ofNat (n : Nat) : Unit :=
  if 0xd800 ≤ n ∧ n ≤ 0xdfff then .surrogate n else .char (Char.ofNat n)

/-- The character of an escape letter. -/
def escapeLetter? : Char → Option Char
  | '"' => some '"'
  | '\\' => some '\\'
  | '/' => some '/'
  | 'b' => some '\x08'
  | 'f' => some '\x0c'
  | 'n' => some '\n'
  | 'r' => some '\r'
  | 't' => some '\t'
  | _ => none

/-- The units of a string up to its closing quote, and the rest behind the quote. -/
def scanString : List Char → Option (List Unit × List Char)
  | [] => none
  | '"' :: rest => some ([], rest)
  | '\\' :: 'u' :: a :: b :: c :: d :: rest =>
    match hexQuad? a b c d with
    | some n => (scanString rest).map fun (units, rest) => (.ofNat n :: units, rest)
    | none => none
  | '\\' :: e :: rest =>
    match escapeLetter? e with
    | some c => (scanString rest).map fun (units, rest) => (.char c :: units, rest)
    | none => none
  | c :: rest =>
    if c.toNat < 0x20 ∨ c = '\\' then none
    else (scanString rest).map fun (units, rest) => (.char c :: units, rest)

/-- The character of a high and a low half. -/
def joinSurrogates (high low : Nat) : Char :=
  Char.ofNat (0x10000 + (high - 0xd800) * 0x400 + (low - 0xdc00))

/-- The characters of units, `none` if a surrogate stands alone. -/
def unitChars? : List Unit → Option (List Char)
  | [] => some []
  | .char c :: rest => (unitChars? rest).map (c :: ·)
  | .surrogate high :: .surrogate low :: rest =>
    if high < 0xdc00 ∧ 0xdc00 ≤ low then (unitChars? rest).map (joinSurrogates high low :: ·)
    else none
  | .surrogate _ :: _ => none

/-- The text of units. -/
def unitText? (units : List Unit) : Option String := (unitChars? units).map String.ofList

/-! ## Numbers -/

/-- A point with at least one digit, or nothing. -/
def scanFraction : List Char → Option (List Char × List Char)
  | '.' :: rest =>
    let ds := rest.takeWhile Decimal.isDigit
    if ds.isEmpty then none else some (ds, rest.dropWhile Decimal.isDigit)
  | cs => some ([], cs)

/-- The digits of an exponent behind its sign. -/
def scanExponentDigits (negative : Bool) (cs : List Char) : Option (Option Int × List Char) :=
  let ds := cs.takeWhile Decimal.isDigit
  match ds, Decimal.value? 10 ds with
  | _ :: _, some n =>
    some (some (if negative then -(n : Int) else n), cs.dropWhile Decimal.isDigit)
  | _, _ => none

/-- An exponent with an optional sign, or nothing. -/
def scanExponent : List Char → Option (Option Int × List Char)
  | c :: rest =>
    if c = 'e' ∨ c = 'E' then
      match rest with
      | '+' :: rest => scanExponentDigits false rest
      | '-' :: rest => scanExponentDigits true rest
      | rest => scanExponentDigits false rest
    else some (none, c :: rest)
  | [] => some (none, [])

/-- The digits before the point: a single zero, or digits that do not start with zero. -/
def scanWhole : List Char → Option (List Char × List Char)
  | '0' :: c :: rest => if Decimal.isDigit c then none else some (['0'], c :: rest)
  | ['0'] => some (['0'], [])
  | cs =>
    let ds := cs.takeWhile Decimal.isDigit
    if ds.isEmpty then none else some (ds, cs.dropWhile Decimal.isDigit)

/-- A number behind its sign. -/
def scanNumber (negative : Bool) (cs : List Char) : Option (NumberLiteral × List Char) := do
  let (whole, cs) ← scanWhole cs
  let (fraction, cs) ← scanFraction cs
  let (exponent, cs) ← scanExponent cs
  return (⟨negative, whole, fraction, exponent⟩, cs)

/-! ## Values -/

/-- A document and what follows it, if it was read whole. -/
abbrev Scanned := Document × Option (List Char)

/-- Nothing could be read. -/
def broken : Scanned := (.malformed, none)

/-- The rest behind a word that has to follow. -/
def scanWord (word : List Char) (cs : List Char) : Option (List Char) :=
  if word.isPrefixOf cs then some (cs.drop word.length) else none

/-- A number or one of the three words. -/
def scanScalar : List Char → Scanned
  | '"' :: rest =>
    match scanString rest with
    | some (units, rest) => (.string (unitText? units), some rest)
    | none => broken
  | 'n' :: rest =>
    match scanWord ['u', 'l', 'l'] rest with
    | some rest => (.null, some rest)
    | none => broken
  | 't' :: rest =>
    match scanWord ['r', 'u', 'e'] rest with
    | some rest => (.bool true, some rest)
    | none => broken
  | 'f' :: rest =>
    match scanWord ['a', 'l', 's', 'e'] rest with
    | some rest => (.bool false, some rest)
    | none => broken
  | '-' :: rest =>
    match scanNumber true rest with
    | some (l, rest) => (.number l.number?, some rest)
    | none => broken
  | cs =>
    match scanNumber false cs with
    | some (l, rest) => (.number l.number?, some rest)
    | none => broken

mutual
/-- A value, at most `fuel` calls deep. -/
def scanValue : Nat → List Char → Scanned
  | 0, _ => broken
  | fuel + 1, cs =>
    match skipSpace cs with
    | '[' :: rest =>
      match skipSpace rest with
      | ']' :: rest => (.array [] true, some rest)
      | rest =>
        let (items, closed, rest) := scanItems fuel rest
        (.array items closed, rest)
    | '\x7b' :: rest =>
      match skipSpace rest with
      | '\x7d' :: rest => (.object [] true, some rest)
      | rest =>
        let (members, closed, rest) := scanMembers fuel rest
        (.object members closed, rest)
    | cs => scanScalar cs

/-- The items of an array from its next item on. -/
def scanItems : Nat → List Char → List Document × Bool × Option (List Char)
  | 0, _ => ([], false, none)
  | fuel + 1, cs =>
    match scanValue fuel cs with
    | (d, none) => ([d], false, none)
    | (d, some rest) =>
      match skipSpace rest with
      | ']' :: rest => ([d], true, some rest)
      | ',' :: rest =>
        match skipSpace rest with
        | ']' :: _ => ([d], false, none)
        | rest =>
          let (items, closed, rest) := scanItems fuel rest
          (d :: items, closed, rest)
      | _ => ([d], false, none)

/-- The members of an object from its next key on. -/
def scanMembers : Nat → List Char → List (Option String × Document) × Bool × Option (List Char)
  | 0, _ => ([], false, none)
  | fuel + 1, '"' :: cs =>
    match scanString cs with
    | none => ([], false, none)
    | some (units, rest) =>
      let key := unitText? units
      match skipSpace rest with
      | ':' :: rest =>
        match scanValue fuel rest with
        | (d, none) => ([(key, d)], false, none)
        | (d, some rest) =>
          match skipSpace rest with
          | '\x7d' :: rest => ([(key, d)], true, some rest)
          | ',' :: rest =>
            let (members, closed, rest) := scanMembers fuel (skipSpace rest)
            ((key, d) :: members, closed, rest)
          | _ => ([(key, d)], false, none)
      | _ => ([(key, .malformed)], false, none)
  | _ + 1, _ => ([], false, none)
end

/-- The document of a text. -/
def read (s : String) : JsonText :=
  let cs := s.toList
  match scanValue (2 * cs.length + 2) cs with
  | (root, some rest) => ⟨root, !(skipSpace rest).isEmpty⟩
  | (root, none) => ⟨root, false⟩

end JsonText

end NodeAudit
