import NodeAudit.Json.Printer
import NodeAudit.Json.Reader
import NodeAudit.Text.Quoted

/-!
# Decoding documents by type

A decoder walks a document from left to right and stops at the first fault, which is either a fault
of form (`DecodeError.malformed`) or of type. `Document.record` decodes a record from an object,
with its fields in any order and unknown ones skipped, or from an array of its fields in their
order.
-/

namespace NodeAudit

/-- What was found where something else was expected. -/
inductive Shape where
  | null
  | unit
  | bool (b : Bool)
  | number (n : Number)
  | string (s : String)
  | sequence
  | map
  | unitVariant
deriving DecidableEq, Repr

/-- Why a document is not a value of a type. -/
inductive DecodeError where
  /-- The text is no JSON up to here, or holds something that cannot be read. -/
  | malformed
  | invalidType (found : Shape) (expected : String)
  | invalidValue (found : Shape) (expected : String)
  | invalidLength (length : Nat) (expected : String)
  | unknownVariant (name : String) (variants : List String)
  | missingField (name : String)
  | duplicateField (name : String)
deriving DecidableEq, Repr

/-- Where a document comes from, which decides what surplus items of a record are. -/
inductive Origin where
  /-- A text: surplus items are a fault of form. -/
  | text
  /-- A value that was read before: surplus items are a fault of length. -/
  | value
  /-- A table: surplus items say nothing. -/
  | table
deriving DecidableEq, Repr

namespace Shape

/-- The words for what was found. -/
def describe : Shape → String
  | .null => "null"
  | .unit => "unit"
  | .bool b => "boolean `" ++ (if b then "true" else "false") ++ "`"
  | .number (.integer n) => "integer `" ++ Decimal.ofInt n ++ "`"
  | .number n => "floating point `" ++ n.text ++ "`"
  | .string s => "string " ++ Text.quoted s
  | .sequence => "sequence"
  | .map => "map"
  | .unitVariant => "unit variant"

end Shape

namespace DecodeError

/-- The variants that would have been accepted. -/
def oneOf : List String → String
  | [] => "there are no variants"
  | [a] => "expected `" ++ a ++ "`"
  | [a, b] => "expected `" ++ a ++ "` or `" ++ b ++ "`"
  | vs => "expected one of " ++ String.intercalate ", " (vs.map fun v => "`" ++ v ++ "`")

/-- The text of a fault of type; a fault of form has none. -/
def message? : DecodeError → Option String
  | .malformed => none
  | .invalidType found expected =>
    some ("invalid type: " ++ found.describe ++ ", expected " ++ expected)
  | .invalidValue found expected =>
    some ("invalid value: " ++ found.describe ++ ", expected " ++ expected)
  | .invalidLength n expected =>
    some ("invalid length " ++ Decimal.ofNat n ++ ", expected " ++ expected)
  | .unknownVariant name variants => some ("unknown variant `" ++ name ++ "`, " ++ oneOf variants)
  | .missingField name => some ("missing field `" ++ name ++ "`")
  | .duplicateField name => some ("duplicate field `" ++ name ++ "`")

end DecodeError

/-- The result of a decoder. -/
abbrev Decoded (α : Type) := Except DecodeError α

namespace Document

/-- What the document is, as far as that can be told without looking into containers. -/
def shape? : Document → Option Shape
  | .null => some .null
  | .bool b => some (.bool b)
  | .number n => n.map .number
  | .string t => t.map .string
  | .array _ _ => some .sequence
  | .object _ _ => some .map
  | .malformed => none

/-- The fault of a document that is not of the expected type. -/
def mismatch (d : Document) (expected : String) : DecodeError :=
  match d.shape? with
  | some found => .invalidType found expected
  | none => .malformed

/-- Any value, inside `opened` containers. -/
def any (opened : Nat) (d : Document) : Decoded Json :=
  match d.value? opened with
  | some v => .ok v
  | none => .error .malformed

def text (d : Document) : Decoded String :=
  match d with
  | .string (some s) => .ok s
  | d => .error (d.mismatch "a string")

def flag (d : Document) : Decoded Bool :=
  match d with
  | .bool b => .ok b
  | d => .error (d.mismatch "a boolean")

/-- An integer between the bounds; `expected` names them. -/
def integer (low high : Int) (expected : String) (d : Document) : Decoded Int :=
  match d with
  | .number (some (.integer n)) =>
    if low ≤ n ∧ n ≤ high then .ok n
    else .error (.invalidValue (.number (.integer n)) expected)
  | d => .error (d.mismatch expected)

/-- A signed integer of 64 bits. -/
def int64 (d : Document) : Decoded Int64 := do
  return Int64.ofInt (← d.integer (-9223372036854775808) 9223372036854775807 "i64")

/-- An unsigned integer of 64 bits, under the name that messages give it. -/
def uint64 (expected : String) (d : Document) : Decoded UInt64 := do
  return UInt64.ofNat (← d.integer 0 18446744073709551615 expected).toNat

/-- `null` or a value. -/
def optional {α : Type} (read : Document → Decoded α) (d : Document) : Decoded (Option α) :=
  match d with
  | .null => .ok none
  | d => (read d).map some

/-- A list of values; `opened` counts the containers around the list. -/
def list {α : Type} (read : Document → Decoded α) (d : Document) : Decoded (List α) :=
  match d with
  | .array items closed => do
    let vs ← items.mapM read
    if closed then return vs else throw .malformed
  | d => .error (d.mismatch "a sequence")

/-! ## Records -/

/-- A field of a record whose values are collected in `σ`, and how its value is decoded. -/
structure Field (σ : Type) where
  name : String
  /-- The record has no value for this field unless the document gives one. -/
  required : Bool
  {Value : Type}
  get : σ → Option Value
  set : σ → Value → σ
  decode : Document → Decoded Value

/-- Collect the value of one more field. -/
@[simp] def Field.read {σ : Type} (f : Field σ) (s : σ) (d : Document) : Decoded σ := do
  return f.set s (← f.decode d)

/-- Read the members of an object one after the other. -/
def readMembers {σ : Type} (fields : List (Field σ)) :
    σ → List (Option String × Document) → Decoded σ
  | s, [] => .ok s
  | _, (none, _) :: _ => .error .malformed
  | s, (some key, d) :: rest =>
    match fields.find? (fun f => f.name == key) with
    | none => if d.isWellFormed then readMembers fields s rest else .error .malformed
    | some f =>
      if (f.get s).isSome then .error (.duplicateField key)
      else do readMembers fields (← f.read s d) rest

/-- What comes of a record that has been read from an array with items left over. -/
def surplus {σ : Type} (origin : Origin) (length : Nat) (s : σ) : Decoded σ :=
  match origin with
  | .text => .error .malformed
  | .value => .error (.invalidLength length "fewer elements in array")
  | .table => .ok s

/-- Read the items of an array as the fields in their order. `length` is that of the array, and
`whole` names the record and its number of fields. -/
def readItems {σ : Type} (origin : Origin) (length : Nat) (whole : String) (closed : Bool) :
    List (Field σ) → Nat → σ → List Document → Decoded σ
  | [], _, s, [] => if closed then .ok s else .error .malformed
  | [], _, s, _ :: _ => surplus origin length s
  | f :: fields, i, s, [] =>
    if !closed then .error .malformed
    else if f.required then .error (.invalidLength i whole)
    else readItems origin length whole closed fields (i + 1) s []
  | f :: fields, i, s, d :: rest => do
    readItems origin length whole closed fields (i + 1) (← f.read s d) rest

/-- How many fields a record has, in words. -/
def elements (n : Nat) : String :=
  if n = 1 then "1 element" else Decimal.ofNat n ++ " elements"

/-- Collect the fields of a record named `title`, starting from the empty collection. -/
def record {σ : Type} (origin : Origin) (title : String) (fields : List (Field σ)) (empty : σ)
    (d : Document) : Decoded σ :=
  match d with
  | .object members closed => do
    let s ← readMembers fields empty members
    if closed then return s else throw .malformed
  | .array items closed =>
    readItems origin items.length (title ++ " with " ++ elements fields.length) closed fields 0
      empty items
  | d => .error (d.mismatch title)

/-- The value of a field that a record cannot do without. -/
def require {α : Type} (name : String) : Option α → Decoded α
  | some v => .ok v
  | none => .error (.missingField name)

/-! ## Variants -/

/-- One of the named options and what it carries: its name alone, or an object with its name as the
only key. -/
def variant {α : Type} (options : List (String × α)) (d : Document) :
    Decoded (α × Option Document) := do
  let (name, payload?) ← match d with
    | .string (some s) => .ok (s, none)
    | .object [(some key, d)] true => .ok (key, some d)
    | .object _ _ => .error (.invalidValue .map "map with a single key")
    | d => .error (d.mismatch "string or map")
  match options.find? (fun o => o.1 == name) with
  | some (_, a) => return (a, payload?)
  | none => throw (.unknownVariant name (options.map (·.1)))

/-- One of the named options, none of which carries anything but `null`. -/
def choice {α : Type} (options : List (String × α)) (d : Document) : Decoded α := do
  let (a, payload?) ← d.variant options
  match payload? with
  | none => return a
  | some .null => return a
  | some d => throw (d.mismatch "unit")

end Document

/-- Decode a text with nothing behind the value. -/
def JsonText.decode {α : Type} (read : Document → Decoded α) (s : String) : Decoded α := do
  let t := JsonText.read s
  let v ← read t.root
  if t.trailing then throw .malformed else return v

end NodeAudit
