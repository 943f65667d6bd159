import NodeAudit.Toml.Lexeme
import NodeAudit.Toml.Table

/-!
# Reading TOML

A text is a sequence of lines: headers, which open tables, and keys with values, which are members
of the table opened last. `Toml.read` gives the outermost table as a document, or nothing if the
text is no TOML. Containers and the parts of keys are limited to fewer than `maxDepth`.
-/

namespace NodeAudit.Toml

/-- As many containers or parts of a key are too many. -/
def maxDepth : Nat := 80

/-- The parts of a key, between blanks. -/
def key? : Nat → List Char → Option (List String × List Char)
  | 0, _ => none
  | fuel + 1, cs => do
    let (part, rest) ← keyPart? (skipSpace cs)
    match skipSpace rest with
    | '.' :: rest => do
      let (parts, rest) ← key? fuel rest
      return (part :: parts, rest)
    | rest => return ([part], rest)

/-- The parts of a key before the last, and the last. -/
def splitKey? (parts : List String) : Option (List String × String) :=
  if parts.length < maxDepth then parts.getLast?.map fun last => (parts.dropLast, last) else none

mutual
/-- A value inside `opened` containers. -/
def value? (opened : Nat) : Nat → List Char → Option (Value × List Char)
  | 0, _ => none
  | fuel + 1, cs =>
    match cs with
    | [] => none
    | '[' :: rest =>
      if opened + 1 < maxDepth then
        (items? (opened + 1) fuel rest).map fun (items, rest) => (.array items, rest)
      else none
    | '\x7b' :: rest =>
      if opened + 1 < maxDepth then
        match skipSpace rest with
        | '\x7d' :: rest => some (.table .inline [], rest)
        | rest =>
          (pairs? (opened + 1) fuel [] rest).map fun (ms, rest) => (.table .inline ms, rest)
      else none
    | 't' :: 'r' :: 'u' :: 'e' :: rest => some (.bool true, rest)
    | 'f' :: 'a' :: 'l' :: 's' :: 'e' :: rest => some (.bool false, rest)
    | c :: _ =>
      if c == '"' || c == '\'' then (string? cs).map fun (s, rest) => (.string s, rest)
      else if startsDate cs || startsTime cs then (dateTime? cs).map fun rest => (.dateTime, rest)
      else match float? cs with
        | some (_, rest) => some (.float, rest)
        | none => (integer? cs).map fun (n, rest) => (.integer n, rest)

/-- The items of an array up to its end; a comma may follow the last. -/
def items? (opened : Nat) : Nat → List Char → Option (List Value × List Char)
  | 0, _ => none
  | fuel + 1, cs =>
    match skipLines false cs with
    | ']' :: rest => some ([], rest)
    | cs => do
      let (v, rest) ← value? opened fuel cs
      match skipLines false rest with
      | ',' :: rest => do
        let (vs, rest) ← items? opened fuel rest
        return (v :: vs, rest)
      | ']' :: rest => return ([v], rest)
      | _ => none

/-- The members of an inline table up to its end, added to those before. -/
def pairs? (opened : Nat) : Nat → Members → List Char → Option (Members × List Char)
  | 0, _, _ => none
  | fuel + 1, ms, cs => do
    let (parts, rest) ← key? fuel cs
    let (path, key) ← splitKey? parts
    match rest with
    | '=' :: rest => do
      let (v, rest) ← value? opened fuel (skipSpace rest)
      let ms ← ms.add path key v .inline
      match skipSpace rest with
      | ',' :: rest => pairs? opened fuel ms rest
      | '\x7d' :: rest => return (ms, rest)
      | _ => none
    | _ => none
end

/-- The outermost table and the header opened last. -/
structure Progress where
  root : Members := []
  header : List String := []

/-- A header in single or double brackets. -/
def header? (p : Progress) (fuel : Nat) (cs : List Char) : Option (Progress × List Char) :=
  match cs with
  | '[' :: '[' :: rest => do
    let (parts, rest) ← key? fuel rest
    let (path, key) ← splitKey? parts
    match rest with
    | ']' :: ']' :: rest => do
      let root ← p.root.openElement path key
      return ({ root, header := parts }, ← lineEnd? rest)
    | _ => none
  | '[' :: rest => do
    let (parts, rest) ← key? fuel rest
    let (path, key) ← splitKey? parts
    match rest with
    | ']' :: rest => do
      let root ← p.root.openTable path key
      return ({ root, header := parts }, ← lineEnd? rest)
    | _ => none
  | _ => none

/-- A key and its value. -/
def member? (p : Progress) (fuel : Nat) (cs : List Char) : Option (Progress × List Char) := do
  let (parts, rest) ← key? fuel cs
  let (path, key) ← splitKey? parts
  match rest with
  | '=' :: rest => do
    let (v, rest) ← value? 0 fuel (skipSpace rest)
    let root ← p.root.addUnder p.header path key v
    return ({ p with root }, ← lineEnd? rest)
  | _ => none

/-- The lines of a text up to its end. Each line takes a character at least, so that the fuel for
the lines outlasts the text. -/
def lines? (fuel : Nat) : Nat → Progress → List Char → Option Members
  | 0, _, _ => none
  | more + 1, p, cs =>
    match skipSpace cs with
    | [] => some p.root
    | c :: rest =>
      if c == '#' || c == '\n' || c == '\r' then do lines? fuel more p (← lineEnd? (c :: rest))
      else if c == '[' then do
        let (p, rest) ← header? p fuel (c :: rest)
        lines? fuel more p rest
      else do
        let (p, rest) ← member? p fuel (c :: rest)
        lines? fuel more p rest

/-- Without the byte order mark at the beginning. -/
def skipMark : List Char → List Char
  | '\ufeff' :: rest => rest
  | cs => cs

/-- The outermost table of a text, as a document. -/
def read (s : String) : Option Document :=
  let cs := skipMark s.toList
  (lines? (2 * cs.length + 2) (cs.length + 1) {} cs).map fun ms =>
    (Value.table .header ms).toDocument

end NodeAudit.Toml
