import NodeAudit.Json.Document

/-!
# Tables of TOML

A TOML text builds one table from its lines. A table is opened by a header, implied by the header of
a table inside it, built by dotted keys, or written inline; the four differ in what later lines may
add to them. A header may open a table that was only implied. A dotted key may extend tables that
dotted keys have built, and nothing extends an inline table.
-/

namespace NodeAudit.Toml

/-- How a table came to be. -/
inductive TableKind where
  /-- By a header of its own, or as the outermost table. -/
  | header
  /-- By the header of a table inside it. -/
  | implied
  /-- By dotted keys. -/
  | dotted
  /-- Written as a value. -/
  | inline
deriving DecidableEq, Repr

/-- A value of TOML. Numbers with a fraction and dates are kept without their value. -/
inductive Value where
  | string (s : String)
  | integer (n : Int)
  | float
  | dateTime
  | bool (b : Bool)
  | array (items : List Value)
  | table (kind : TableKind) (members : List (String × Value))
  /-- Tables that share a header of their own, the last of which is open. -/
  | tables (elements : List (List (String × Value)))
deriving Repr

/-- The members of a table, in the order in which they came. -/
abbrev Members := List (String × Value)

namespace Members

/-- The value at a key. -/
def find? (key : String) (ms : Members) : Option Value := Entries.get? key ms

/-- Give a key that is there another value. -/
def replace (key : String) (v : Value) (ms : Members) : Members :=
  ms.map fun m => if m.1 == key then (key, v) else m

/-- Change the table at the end of a path, building the tables on the way that are missing. A dotted
path does not enter tables that have a header. -/
def change (dotted : Bool) (finish : TableKind → Members → Option Members) :
    List String → TableKind → Members → Option Members
  | [], kind, ms => finish kind ms
  | key :: path, _, ms =>
    match ms.find? key with
    | none => do
      let kind := if dotted then TableKind.dotted else .implied
      let inner ← change dotted finish path kind []
      return ms ++ [(key, .table kind inner)]
    | some (.table kind inner) =>
      if kind = .inline ∨ (dotted ∧ kind = .header) then none
      else do
        let inner ← change dotted finish path kind inner
        return ms.replace key (.table kind inner)
    | some (.tables elements) => do
      let inner ← change dotted finish path .header (← elements.getLast?)
      return ms.replace key (.tables (elements.dropLast ++ [inner]))
    | some _ => none

/-- Add a member to a table. Behind a dotted path the table must be one that dotted keys have
built. -/
def add (path : List String) (key : String) (v : Value) (kind : TableKind) (ms : Members) :
    Option Members :=
  change true
    (fun kind ms =>
      if (path ≠ [] ∧ kind ≠ .dotted) ∨ (ms.find? key).isSome then none
      else some (ms ++ [(key, v)]))
    path kind ms

/-- Open a table by its header. -/
def openTable (path : List String) (key : String) (ms : Members) : Option Members :=
  change false
    (fun _ ms =>
      match ms.find? key with
      | none => some (ms ++ [(key, .table .header [])])
      | some (.table .implied inner) => some (ms.replace key (.table .header inner))
      | some _ => none)
    path .header ms

/-- Open a further table of those that share a header. -/
def openElement (path : List String) (key : String) (ms : Members) : Option Members :=
  change false
    (fun _ ms =>
      match ms.find? key with
      | none => some (ms ++ [(key, .tables [[]])])
      | some (.tables elements) => some (ms.replace key (.tables (elements ++ [[]])))
      | some _ => none)
    path .header ms

/-- Add a member to the table under a header, or to the outermost table. -/
def addUnder (header path : List String) (key : String) (v : Value) (ms : Members) :
    Option Members :=
  change false (add path key v) header .header ms

end Members

/-! ## Tables as documents -/

/-- The key under which a date stands in a document. -/
def dateTimeKey : String := "date-time"

mutual
/-- The document of a value. A date is a record of its own, and a number with a fraction has no
value. -/
def Value.toDocument : Value → Document
  | .string s => .string (some s)
  | .integer n => .number (some (.integer n))
  | .float => .number none
  | .dateTime => .object [(some dateTimeKey, .null)] true
  | .bool b => .bool b
  | .array items => .array (documents items) true
  | .table _ ms => .object (memberDocuments ms) true
  | .tables elements => .array (elementDocuments elements) true

/-- The documents of a list of values. -/
def documents : List Value → List Document
  | [] => []
  | v :: rest => v.toDocument :: documents rest

/-- The documents of members. -/
def memberDocuments : List (String × Value) → List (Option String × Document)
  | [] => []
  | (k, v) :: rest => (some k, v.toDocument) :: memberDocuments rest

/-- The documents of tables that share a header. -/
def elementDocuments : List (List (String × Value)) → List Document
  | [] => []
  | ms :: rest => .object (memberDocuments ms) true :: elementDocuments rest
end

end NodeAudit.Toml
