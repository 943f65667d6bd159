import NodeAudit.Decimal.Digits

/-!
# Lexemes of TOML

Blanks, comments, strings, numbers and dates. A reader takes the characters that are left and gives
what it read and the characters behind it, or nothing if they do not begin with such a lexeme.
-/

namespace NodeAudit.Toml

/-! ## Blanks and lines -/

/-- A blank within a line. -/
def isSpace (c : Char) : Bool := c == ' ' || c == '\t'

/-- A character of a comment. -/
def isCommentChar (c : Char) : Bool :=
  c == '\t' || (0x20 ≤ c.toNat && c.toNat ≤ 0x7e) || 0x80 ≤ c.toNat

/-- Skip the blanks within a line. -/
def skipSpace (cs : List Char) : List Char := cs.dropWhile isSpace

/-- The end of a line. -/
def newline? : List Char → Option (List Char)
  | '\n' :: rest => some rest
  | '\r' :: '\n' :: rest => some rest
  | _ => none

/-- Skip a comment, if there is one. -/
def skipComment : List Char → List Char
  | '#' :: rest => rest.dropWhile isCommentChar
  | cs => cs

/-- Blanks and a comment up to the end of the line or of the text. -/
def lineEnd? (cs : List Char) : Option (List Char) :=
  match skipComment (skipSpace cs) with
  | [] => some []
  | cs => newline? cs

/-- Skip blanks, line ends and comments. -/
def skipLines (inComment : Bool) : List Char → List Char
  | '\r' :: '\n' :: rest => skipLines false rest
  | c :: rest =>
    if c == '\n' then skipLines false rest
    else if inComment then if isCommentChar c then skipLines true rest else c :: rest
    else if isSpace c then skipLines false rest
    else if c == '#' then skipLines true rest
    else c :: rest
  | [] => []

/-! ## Strings -/

/-- A character that stands for itself in a string with escapes. -/
def isBasicChar (c : Char) : Bool := isCommentChar c && c != '"' && c != '\\'

/-- A character of a string without escapes. -/
def isLiteralChar (c : Char) : Bool := isCommentChar c && c != '\''

/-- The character of an escape with one letter. -/
def escape? : Char → Option Char
  | 'b' => some '\x08'
  | 't' => some '\t'
  | 'n' => some '\n'
  | 'f' => some '\x0c'
  | 'r' => some '\r'
  | '"' => some '"'
  | '\\' => some '\\'
  | _ => none

/-- The character with the code point in hexadecimal digits. -/
def scalar? (digits : List Char) : Option Char :=
  match Decimal.value? 16 digits with
  | some n => if n.isValidChar then some (Char.ofNat n) else none
  | none => none

/-- Put a character before what was read. -/
def consChar (c : Char) (r : Option (List Char × List Char)) : Option (List Char × List Char) :=
  r.map fun (cs, rest) => (c :: cs, rest)

/-- The rest of a string with escapes, behind its first quote. -/
def basic? : List Char → Option (List Char × List Char)
  | '"' :: rest => some ([], rest)
  | '\\' :: 'u' :: a :: b :: c :: d :: rest =>
    match scalar? [a, b, c, d] with
    | some x => consChar x (basic? rest)
    | none => none
  | '\\' :: 'U' :: a :: b :: c :: d :: e :: f :: g :: h :: rest =>
    match scalar? [a, b, c, d, e, f, g, h] with
    | some x => consChar x (basic? rest)
    | none => none
  | '\\' :: c :: rest =>
    match escape? c with
    | some x => consChar x (basic? rest)
    | none => none
  | c :: rest => if isBasicChar c then consChar c (basic? rest) else none
  | [] => none

/-- Behind a backslash the line ends. -/
def lineEnds (cs : List Char) : Bool := (newline? (skipSpace cs)).isSome

/-- The rest of a string over several lines with escapes, behind its first quotes. One or two quotes
before the last three belong to the string. While `skipping`, blanks and line ends are left out. -/
def multiBasic? (skipping : Bool) : List Char → Option (List Char × List Char)
  | '"' :: '"' :: '"' :: '"' :: '"' :: rest => some (['"', '"'], rest)
  | '"' :: '"' :: '"' :: '"' :: rest => some (['"'], rest)
  | '"' :: '"' :: '"' :: rest => some ([], rest)
  | '\r' :: '\n' :: rest =>
    if skipping then multiBasic? true rest else consChar '\n' (multiBasic? false rest)
  | '\\' :: 'u' :: a :: b :: c :: d :: rest =>
    match scalar? [a, b, c, d] with
    | some x => consChar x (multiBasic? false rest)
    | none => none
  | '\\' :: 'U' :: a :: b :: c :: d :: e :: f :: g :: h :: rest =>
    match scalar? [a, b, c, d, e, f, g, h] with
    | some x => consChar x (multiBasic? false rest)
    | none => none
  | '\\' :: c :: rest =>
    if lineEnds (c :: rest) then multiBasic? true (c :: rest)
    else match escape? c with
      | some x => consChar x (multiBasic? false rest)
      | none => none
  | c :: rest =>
    if skipping && (isSpace c || c == '\n') then multiBasic? true rest
    else if isBasicChar c || c == '"' || c == '\n' then consChar c (multiBasic? false rest)
    else none
  | [] => none

/-- The rest of a string without escapes, behind its first quote. -/
def literal? (cs : List Char) : Option (List Char × List Char) :=
  match cs.dropWhile isLiteralChar with
  | '\'' :: rest => some (cs.takeWhile isLiteralChar, rest)
  | _ => none

/-- The rest of a string over several lines without escapes, behind its first quotes. -/
def multiLiteral? : List Char → Option (List Char × List Char)
  | '\'' :: '\'' :: '\'' :: '\'' :: '\'' :: rest => some (['\'', '\''], rest)
  | '\'' :: '\'' :: '\'' :: '\'' :: rest => some (['\''], rest)
  | '\'' :: '\'' :: '\'' :: rest => some ([], rest)
  | '\r' :: '\n' :: rest => consChar '\n' (multiLiteral? rest)
  | c :: rest =>
    if isCommentChar c || c == '\n' then consChar c (multiLiteral? rest) else none
  | [] => none

/-- Without the line end that directly follows the quotes. -/
def skipNewline (cs : List Char) : List Char := (newline? cs).getD cs

/-- A string of any kind. -/
def string? : List Char → Option (String × List Char)
  | '"' :: '"' :: '"' :: rest =>
    (multiBasic? false (skipNewline rest)).map fun (s, rest) => (String.ofList s, rest)
  | '"' :: rest => (basic? rest).map fun (s, rest) => (String.ofList s, rest)
  | '\'' :: '\'' :: '\'' :: rest =>
    (multiLiteral? (skipNewline rest)).map fun (s, rest) => (String.ofList s, rest)
  | '\'' :: rest => (literal? rest).map fun (s, rest) => (String.ofList s, rest)
  | _ => none

/-! ## Numbers -/

/-- Digits in a row, with single underscores between them. -/
def digitRun? (isDigit : Char → Bool) : List Char → Option (List Char × List Char)
  | '_' :: _ => none
  | c :: '_' :: d :: rest =>
    if isDigit c && isDigit d then consChar c (digitRun? isDigit (d :: rest)) else none
  | c :: rest =>
    if !isDigit c then none
    else match rest with
      | '_' :: _ => none
      | d :: _ => if isDigit d then consChar c (digitRun? isDigit rest) else some ([c], rest)
      | [] => some ([c], [])
  | [] => none

/-- An optional sign, and whether it is a minus. -/
def sign : List Char → Bool × List Char
  | '+' :: rest => (false, rest)
  | '-' :: rest => (true, rest)
  | cs => (false, cs)

/-- Decimal digits without a needless zero before them. -/
def decimal? : List Char → Option (List Char × List Char)
  | '0' :: rest => some (['0'], rest)
  | cs => digitRun? Decimal.isDigit cs

/-- An octal digit. -/
def isOctalDigit (c : Char) : Bool := '0' ≤ c && c ≤ '7'

/-- A binary digit. -/
def isBinaryDigit (c : Char) : Bool := c == '0' || c == '1'

/-- An integer of 64 bits from its digits. -/
def integerOf? (base : Nat) (negative : Bool) (digits : List Char) : Option Int := do
  let n ← Decimal.value? base digits
  let i : Int := if negative then -n else n
  if -9223372036854775808 ≤ i ∧ i ≤ 9223372036854775807 then some i else none

/-- An integer. Only a decimal one may have a sign. -/
def integer? (cs : List Char) : Option (Int × List Char) := do
  let (base, negative, digits, rest) ← match cs with
    | '0' :: 'x' :: rest =>
      (digitRun? Decimal.isHexDigit rest).map fun (ds, r) => (16, false, ds, r)
    | '0' :: 'o' :: rest => (digitRun? isOctalDigit rest).map fun (ds, r) => (8, false, ds, r)
    | '0' :: 'b' :: rest => (digitRun? isBinaryDigit rest).map fun (ds, r) => (2, false, ds, r)
    | cs =>
      let (negative, cs) := sign cs
      (decimal? cs).map fun (ds, r) => (10, negative, ds, r)
  return (← integerOf? base negative digits, rest)

/-- The number `digits · 10 ^ exponent` rounds to no finite double. -/
def overflows (digits : Nat) (exponent : Int) : Bool :=
  let size : Int := (Decimal.digits 10 digits).length + exponent
  digits != 0 && 309 ≤ size &&
    (310 ≤ size ||
      (Nat.pow 2 1024 - Nat.pow 2 970) * Nat.pow 10 (-exponent).toNat ≤
        digits * Nat.pow 10 exponent.toNat)

/-- The exponent of a number, with its sign. -/
def exponent? (cs : List Char) : Option (Int × List Char) := do
  let (negative, cs) := sign cs
  let (ds, rest) ← digitRun? Decimal.isDigit cs
  let n ← Decimal.value? 10 ds
  return (if negative then -n else n, rest)

/-- A number with a fraction, an exponent or both, or one that is infinite or none. Its value is not
computed; a number too great for a double is refused, unless it is negative. -/
def float? (cs : List Char) : Option (Unit × List Char) := do
  let (negative, cs) := sign cs
  match cs with
  | 'i' :: 'n' :: 'f' :: rest => some ((), rest)
  | 'n' :: 'a' :: 'n' :: rest => some ((), rest)
  | cs =>
    let (whole, rest) ← decimal? cs
    let (fraction, rest) ← match rest with
      | '.' :: rest => digitRun? Decimal.isDigit rest
      | 'e' :: _ | 'E' :: _ => some ([], rest)
      | _ => none
    let (exponent, rest) ← match rest with
      | 'e' :: rest | 'E' :: rest => exponent? rest
      | rest => some (0, rest)
    let n ← Decimal.value? 10 (whole ++ fraction)
    if overflows n (exponent - fraction.length) && !negative then none else some ((), rest)

/-! ## Dates and times -/

/-- The value of two digits, if it lies between the bounds. -/
def twoDigits? (low high : Nat) : List Char → Option (Nat × List Char)
  | a :: b :: rest => do
    if Decimal.isDigit a && Decimal.isDigit b then
      let n ← Decimal.value? 10 [a, b]
      if low ≤ n ∧ n ≤ high then some (n, rest) else none
    else none
  | _ => none

/-- How many days a month has. -/
def daysIn (year month : Nat) : Nat :=
  if month = 2 then if year % 4 = 0 ∧ (year % 100 ≠ 0 ∨ year % 400 = 0) then 29 else 28
  else if month = 4 ∨ month = 6 ∨ month = 9 ∨ month = 11 then 30
  else 31

/-- A year and a hyphen begin here. -/
def startsDate : List Char → Bool
  | a :: b :: c :: d :: '-' :: _ => [a, b, c, d].all Decimal.isDigit
  | _ => false

/-- An hour and a colon begin here. -/
def startsTime (cs : List Char) : Bool :=
  match twoDigits? 0 23 cs with
  | some (_, ':' :: _) => true
  | _ => false

/-- The date whose year begins here. -/
def date? : List Char → Option (List Char)
  | a :: b :: c :: d :: '-' :: rest => do
    let year ← Decimal.value? 10 [a, b, c, d]
    let (month, rest) ← twoDigits? 1 12 rest
    match rest with
    | '-' :: rest => do
      let (_, rest) ← twoDigits? 1 (daysIn year month) rest
      return rest
    | _ => none
  | _ => none

/-- Skip a fraction of a second. -/
def skipFraction : List Char → List Char
  | '.' :: d :: rest =>
    if Decimal.isDigit d then rest.dropWhile Decimal.isDigit else '.' :: d :: rest
  | cs => cs

/-- The time whose hour begins here. -/
def time? (cs : List Char) : Option (List Char) := do
  let (_, rest) ← twoDigits? 0 23 cs
  match rest with
  | ':' :: rest => do
    let (_, rest) ← twoDigits? 0 59 rest
    match rest with
    | ':' :: rest => do
      let (_, rest) ← twoDigits? 0 60 rest
      return skipFraction rest
    | _ => none
  | _ => none

/-- The offset of a time zone, if there is one. -/
def offset? : List Char → Option (List Char)
  | 'Z' :: rest | 'z' :: rest => some rest
  | '+' :: rest | '-' :: rest => do
    let (_, rest) ← twoDigits? 0 23 rest
    match rest with
    | ':' :: rest => do
      let (_, rest) ← twoDigits? 0 59 rest
      return rest
    | _ => none
  | cs => some cs

/-- A date, a time, or both with or without an offset. -/
def dateTime? (cs : List Char) : Option (List Char) :=
  if startsDate cs then do
    let rest ← date? cs
    match rest with
    | c :: after =>
      if (c == 'T' || c == 't' || c == ' ') && startsTime after then do
        offset? (← time? after)
      else return rest
    | [] => return []
  else time? cs

/-! ## Keys -/

/-- A character of a key without quotes. -/
def isBareKeyChar (c : Char) : Bool :=
  ('a' ≤ c && c ≤ 'z') || ('A' ≤ c && c ≤ 'Z') || Decimal.isDigit c || c == '-' || c == '_'

/-- One part of a key. -/
def keyPart? (cs : List Char) : Option (String × List Char) :=
  match cs with
  | '"' :: rest => (basic? rest).map fun (s, rest) => (String.ofList s, rest)
  | '\'' :: rest => (literal? rest).map fun (s, rest) => (String.ofList s, rest)
  | cs =>
    let bare := cs.takeWhile isBareKeyChar
    if bare.isEmpty then none else some (String.ofList bare, cs.dropWhile isBareKeyChar)

end NodeAudit.Toml
