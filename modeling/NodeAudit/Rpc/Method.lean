import NodeAudit.Failure

/-!
# Methods of the node

A method is an operation in one of two families. The families differ in the tag before the name of
the operation, in the parameters that a call needs, and in the type of the result: quantities are
hexadecimal strings in the legacy family and numbers in the second version.
-/

namespace NodeAudit.Rpc

/-- The type of a primitive result. -/
inductive ResultKind where
  | string
  | number
deriving DecidableEq, Repr

/-- A family of methods. -/
inductive Family where
  | legacy
  | v2
deriving DecidableEq, Repr

/-- What a method asks the node for. -/
inductive Operation where
  | balance
  | balanceByBlock
  | transactionCount
  | blockNumber
  | gasPrice
  | epoch
deriving DecidableEq, Repr

/-- A method of the node. -/
structure Method where
  operation : Operation
  family : Family
deriving DecidableEq, Repr

namespace ResultKind

/-- The name of the type in messages. -/
def name : ResultKind → String
  | string => "string"
  | number => "number"

/-- The value is of the type. -/
def accepts : ResultKind → Json → Bool
  | string, .string _ => true
  | number, .number _ => true
  | _, _ => false

/-- The kinds with their names. -/
def options : List (String × ResultKind) := [("string", string), ("number", number)]

/-- Read a kind. -/
def decode (d : Document) : Decoded ResultKind := d.choice options

end ResultKind

namespace Family

/-- What stands before the name of an operation. -/
def tag : Family → String
  | legacy => "hmy_"
  | v2 => "hmyv2_"

/-- The family whose tag begins the name. -/
def ofMethodName? (name : String) : Option Family :=
  if v2.tag.toList.isPrefixOf name.toList then some v2
  else if legacy.tag.toList.isPrefixOf name.toList then some legacy
  else none

/-- The type of the family's results. -/
def resultKind : Family → ResultKind
  | legacy => .string
  | v2 => .number

/-- The families with their names. -/
def options : List (String × Family) := [("legacy", legacy), ("v2", v2)]

/-- Read a family. -/
def decode (d : Document) : Decoded Family := d.choice options

end Family

namespace Operation

/-- The operations that query one account, in the order of the catalogue. -/
def account : List Operation := [balance, balanceByBlock, transactionCount]

/-- The operations that query the chain, in the order of the catalogue. -/
def protocol : List Operation := [blockNumber, gasPrice, epoch]

/-- The name of the operation in the name of a method. -/
def name : Operation → String
  | balance => "getBalance"
  | balanceByBlock => "getBalanceByBlockNumber"
  | transactionCount => "getTransactionCount"
  | blockNumber => "blockNumber"
  | gasPrice => "gasPrice"
  | epoch => "getEpoch"

/-- The name of the operation in the label of a method. -/
def label : Operation → String
  | balance => "GetBalance"
  | balanceByBlock => "GetBalanceByBlockNumber"
  | transactionCount => "GetTransactionCount"
  | blockNumber => "BlockNumber"
  | gasPrice => "GasPrice"
  | epoch => "GetEpoch"

end Operation

namespace Method

/-- Both families of each operation, the legacy one first. -/
def ofOperations (operations : List Operation) : List Method :=
  operations.flatMap fun o => [⟨o, .legacy⟩, ⟨o, .v2⟩]

/-- The methods that query one account. -/
def account : List Method := ofOperations Operation.account

/-- The methods that query the chain and take no parameters. -/
def protocol : List Method := ofOperations Operation.protocol

/-- All methods. -/
def all : List Method := account ++ protocol

/-- The name by which the node knows the method. -/
def name (m : Method) : String := m.family.tag ++ m.operation.name

/-- The label of the method in data. -/
def label (m : Method) : String :=
  m.operation.label ++ (match m.family with | .legacy => "V1" | .v2 => "V2")

/-- The type of the method's result. -/
def resultKind (m : Method) : ResultKind := m.family.resultKind

/-- The method queries one account. -/
def isAccount (m : Method) : Bool := account.contains m

/-- The method with the name. -/
def ofName? (name : String) : Option Method := all.find? fun m => m.name == name

theorem ofName?_name (m : Method) : ofName? m.name = some m := by
  obtain ⟨operation, family⟩ := m
  cases operation <;> cases family <;> decide

theorem name_inj {m m' : Method} : m.name = m'.name ↔ m = m' := by
  refine ⟨fun h => ?_, fun h => h ▸ rfl⟩
  have hname := m.ofName?_name
  rw [h, m'.ofName?_name] at hname
  exact (Option.some.inj hname).symm

/-- The method with the name, or the failure of an unknown one. -/
def parse (name : String) : Except Failure Method :=
  match ofName? name with
  | some m => .ok m
  | none => .error (.configuration ("Unknown RPC method: " ++ name))

/-- Parameters with which the node answers the method. The address counts for methods of an account
only. -/
def defaultParams (m : Method) (address : String) : List Json :=
  match m.operation, m.family with
  | .balance, .legacy | .transactionCount, .legacy => [.string address, .string "latest"]
  | .balance, .v2 => [.string address]
  | .balanceByBlock, .legacy => [.string address, .string "0x1"]
  | .balanceByBlock, .v2 | .transactionCount, .v2 => [.string address, .ofNat 1]
  | .blockNumber, _ | .gasPrice, _ | .epoch, _ => []

/-- The methods with their labels. -/
def options : List (String × Method) := all.map fun m => (m.label, m)

/-- Read a method by its label. -/
def decode (d : Document) : Decoded Method := d.choice options

end Method

end NodeAudit.Rpc
