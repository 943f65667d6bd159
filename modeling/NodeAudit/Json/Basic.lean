import NodeAudit.Decimal.Magnitude
import NodeAudit.Entries

/-!
# JSON values

A value is a tree; an object keeps its members in the order in which they are written. A value that
is read without a type of its own is canonical: its objects list their keys in strictly increasing
order.
-/

namespace NodeAudit

/-- A number is an integer between `-2 ^ 63` and `2 ^ 64 - 1`, or a finite double. -/
inductive Number where
  | integer (n : Int)
  | double (negative : Bool) (magnitude : Decimal.Magnitude)
deriving DecidableEq, Repr

/-- A JSON value. -/
inductive Json where
  | null
  | bool (b : Bool)
  | number (n : Number)
  | string (s : String)
  | array (items : List Json)
  | object (members : List (String × Json))
deriving BEq, Repr

namespace Json

/-- The number of an unsigned integer. -/
def ofNat (n : Nat) : Json := .number (.integer n)

/-- The number of an integer. -/
def ofInt (n : Int) : Json := .number (.integer n)

/-- The value at a key of an object; the first member of that key counts. -/
def get? (key : String) : Json → Option Json
  | .object members => Entries.get? key members
  | _ => none

/-- The name of a value's type. -/
def typeName : Json → String
  | .null => "null"
  | .bool _ => "boolean"
  | .number _ => "number"
  | .string _ => "string"
  | .array _ => "array"
  | .object _ => "object"

mutual
/-- Every object lists its keys in strictly increasing order. -/
def isCanonical : Json → Bool
  | .array items => allCanonical items
  | .object members => Entries.increasing members && membersCanonical members
  | _ => true

/-- Every value of the list is canonical. -/
def allCanonical : List Json → Bool
  | [] => true
  | v :: rest => v.isCanonical && allCanonical rest

/-- The value of every member is canonical. -/
def membersCanonical : List (String × Json) → Bool
  | [] => true
  | (_, v) :: rest => v.isCanonical && membersCanonical rest
end

mutual
/-- How many containers are nested, the outermost included. -/
def depth : Json → Nat
  | .array items => 1 + itemsDepth items
  | .object members => 1 + membersDepth members
  | _ => 0

/-- The greatest depth in a list of values. -/
def itemsDepth : List Json → Nat
  | [] => 0
  | v :: rest => max v.depth (itemsDepth rest)

/-- The greatest depth among the values of members. -/
def membersDepth : List (String × Json) → Nat
  | [] => 0
  | (_, v) :: rest => max v.depth (membersDepth rest)
end

end Json

end NodeAudit
