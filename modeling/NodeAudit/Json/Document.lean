import NodeAudit.Json.Basic

/-!
# JSON documents

A document is what a text says before any type is asked of it. Members keep their order and their
repetitions, and a syntax error stays where it was met: a value that
could not be read is `malformed`, and a container that breaks off is not `closed`. A decoder that
walks a document from left to right therefore meets errors of form and of type in the order in
which they stand in the text.

A number beyond the doubles and a string or key with a lone surrogate have no value (`none`); they
may be skipped but not read.
-/

namespace NodeAudit

/-- A text read as JSON. -/
inductive Document where
  | null
  | bool (b : Bool)
  | number (value : Option Number)
  | string (text : Option String)
  | array (items : List Document) (closed : Bool)
  | object (members : List (Option String × Document)) (closed : Bool)
  | malformed
deriving Repr

namespace Document

mutual
/-- The whole value was read: nothing in it is malformed and every container is closed. -/
def isWellFormed : Document → Bool
  | .malformed => false
  | .array items closed => closed && itemsWellFormed items
  | .object members closed => closed && membersWellFormed members
  | _ => true

/-- Every document of the list is well formed. -/
def itemsWellFormed : List Document → Bool
  | [] => true
  | d :: rest => d.isWellFormed && itemsWellFormed rest

/-- The value of every member is well formed. -/
def membersWellFormed : List (Option String × Document) → Bool
  | [] => true
  | (_, d) :: rest => d.isWellFormed && membersWellFormed rest
end

/-- The greatest number of containers that may be open at once. -/
def maxOpen : Nat := 127

mutual
/-- The value of a document inside `opened` containers. `none` if it is malformed, holds a number
beyond the doubles or a text with a lone surrogate, or opens too many containers. -/
def value? (opened : Nat) : Document → Option Json
  | .null => some .null
  | .bool b => some (.bool b)
  | .number n => n.map .number
  | .string t => t.map .string
  | .array items closed =>
    if opened < maxOpen then
      (items? (opened + 1) items).bind fun vs => if closed then some (.array vs) else none
    else none
  | .object members closed =>
    if opened < maxOpen then
      (members? (opened + 1) members).bind fun ms =>
        if closed then some (.object (Entries.sort ms)) else none
    else none
  | .malformed => none

/-- The values of a list of documents. -/
def items? (opened : Nat) : List Document → Option (List Json)
  | [] => some []
  | d :: rest => do return (← value? opened d) :: (← items? opened rest)

/-- The members of an object, in the order written. -/
def members? (opened : Nat) : List (Option String × Document) → Option (List (String × Json))
  | [] => some []
  | (key, d) :: rest => do return (← key, ← value? opened d) :: (← members? opened rest)
end

mutual
/-- The document of a value. -/
def ofJson : Json → Document
  | .null => .null
  | .bool b => .bool b
  | .number n => .number (some n)
  | .string s => .string (some s)
  | .array items => .array (ofItems items) true
  | .object members => .object (ofMembers members) true

/-- The documents of a list of values. -/
def ofItems : List Json → List Document
  | [] => []
  | v :: rest => ofJson v :: ofItems rest

/-- The documents of members. -/
def ofMembers : List (String × Json) → List (Option String × Document)
  | [] => []
  | (k, v) :: rest => (some k, ofJson v) :: ofMembers rest
end

end Document

end NodeAudit
