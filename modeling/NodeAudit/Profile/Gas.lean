import NodeAudit.Decimal.Unsigned
import NodeAudit.Environment
import NodeAudit.Failure
import NodeAudit.Text.Shown

/-!
# Gas settings

All networks share a limit and a price of gas, which two variables hold as unsigned integers of 64
bits. A value that is missing or no such integer is a problem; `Gas.problems` lists the problems of
both and `Gas.ofEnvironment` fails with all of them.
-/

namespace NodeAudit.Profile

/-- The gas settings. -/
structure Gas where
  limit : UInt64
  price : UInt64
deriving DecidableEq, Repr

/-- The unsigned integer that a variable holds, or what is wrong with it. -/
def readUnsigned (env : Environment) (name : String) : Except String UInt64 :=
  match env.nonBlank? name with
  | none => .error (name ++ " is not set")
  | some raw =>
    match Decimal.unsigned? raw with
    | some n => .ok n
    | none => .error (name ++ " is not a non-negative integer: " ++ raw)

/-- The problem of a result that is none. -/
def problem? {α : Type} : Except String α → Option String
  | .ok _ => none
  | .error problem => some problem

namespace Gas

/-- The variable that holds the limit. -/
def limitVariable : String := "GAS_LIMIT"

/-- The variable that holds the price. -/
def priceVariable : String := "GAS_PRICE"

/-- What is wrong with the limit. -/
def limitProblem? (env : Environment) : Option String := problem? (readUnsigned env limitVariable)

/-- What is wrong with the price. -/
def priceProblem? (env : Environment) : Option String := problem? (readUnsigned env priceVariable)

/-- What is wrong with the settings, the limit first. -/
def problems (env : Environment) : List String :=
  (limitProblem? env).toList ++ (priceProblem? env).toList

/-- The settings of the environment, or the failure of all their problems. -/
def ofEnvironment (env : Environment) : Except Failure Gas :=
  match readUnsigned env limitVariable, readUnsigned env priceVariable with
  | .ok limit, .ok price => .ok { limit, price }
  | limit, price =>
    .error (.configuration (String.intercalate "; "
      ((problem? limit).toList ++ (problem? price).toList)))

/-- The settings on display. -/
def shown (g : Gas) : Text.Shown :=
  .record "GasConfig" [("gas_limit", .text (Decimal.ofNat g.limit.toNat)),
    ("gas_price", .text (Decimal.ofNat g.price.toNat))]

end Gas

end NodeAudit.Profile
