import NodeAudit.Decimal.Digits

/-!
# Percent escapes

A byte may stand in a URL as `%` and two hexadecimal digits. `escape` writes so the bytes of the
characters of a class, capital letters as digits; `unescape` gives the bytes that a text stands for.
-/

namespace NodeAudit.Url.Percent

/-- A hexadecimal digit as a capital letter. -/
def digitChar (d : Nat) : Char :=
  if d < 10 then Char.ofNat (48 + d) else Char.ofNat (55 + d)

/-- The escape of a byte. -/
def byteEscape (b : UInt8) : List Char :=
  ['%', digitChar (b.toNat / 16), digitChar (b.toNat % 16)]

/-- A text with the characters of a class escaped. -/
def escape (isEscaped : Char → Bool) (cs : List Char) : List Char :=
  cs.flatMap fun c =>
    if isEscaped c then (String.utf8EncodeChar c).flatMap byteEscape else [c]

/-- The bytes that a text stands for. A percent sign without two digits stands for itself. -/
def unescape : List Char → List UInt8
  | [] => []
  | '%' :: a :: b :: cs =>
    match Decimal.digitValue? a, Decimal.digitValue? b with
    | some m, some n => UInt8.ofNat (m * 16 + n) :: unescape cs
    | _, _ => 37 :: unescape (a :: b :: cs)
  | c :: cs => String.utf8EncodeChar c ++ unescape cs

/-- The characters of which some bytes are the encoding. -/
def characters? (bytes : List UInt8) : Option (List Char) :=
  (String.fromUTF8? ⟨bytes.toArray⟩).map String.toList

/-! ## The classes of characters to escape -/

/-- Control characters and whatever is not in ASCII. -/
def inControls (c : Char) : Bool := c.toNat < 32 || 127 ≤ c.toNat

/-- What is escaped in a fragment. -/
def inFragment (c : Char) : Bool := inControls c || " \"<>`".toList.contains c

/-- What is escaped in a path. -/
def inPath (c : Char) : Bool := inFragment c || "#?\x7b\x7d".toList.contains c

/-- What is escaped in a user or a password. -/
def inUser (c : Char) : Bool := inPath c || "/:;=@[\\]^|".toList.contains c

/-- What is escaped in a query. -/
def inQuery (c : Char) : Bool := inControls c || " \"#<>".toList.contains c

/-- What is escaped in a query of a scheme that names a host. -/
def inSpecialQuery (c : Char) : Bool := inQuery c || c == '\''

end NodeAudit.Url.Percent
