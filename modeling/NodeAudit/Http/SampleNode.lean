import NodeAudit.Http.Server

/-!
# A sample node

A node without a chain behind it. Its methods refuse a call with fewer positional parameters than
they take and answer any other call with a fixed quantity, which is hexadecimal text in the legacy
methods and a number in those of the second version. What is served are these methods
(`SampleNode.methods`), whatever the server.
-/

namespace NodeAudit.Http.SampleNode

/-- The balance in the legacy methods. -/
def legacyBalance : String := "0x8ac7230489e80000"

/-- The balance in the methods of the second version. -/
def balance : Nat := 10000000000000000000

/-- How many transactions an account has made. -/
def nonce : Nat := 3

def blockNumber : Nat := 42

def gasPrice : Nat := 1000000000

def epoch : Nat := 5

/-- A quantity in the encoding of the legacy methods. -/
def hex (n : Nat) : Json := .string ("0x" ++ Decimal.hexOfNat n)

/-- The positional parameters of a call. Named or absent ones count as none. -/
def positional (params? : Option String) : List Json :=
  (JsonText.decode (Document.list (Document.any 1)) (params?.getD "null")).toOption.getD []

/-- A method that takes so many parameters at least and has one result. -/
def answering (count : Nat) (result : Json) : Handler := fun params? =>
  let args := positional params?
  if args.length < count then
    .error (.invalidParams ("missing value for required argument " ++ Decimal.ofNat args.length))
  else .ok result

/-- The methods of the node. Those of the chain do not look at their parameters. -/
def methods : Methods :=
  [("hmyv2_getBalance", answering 1 (.ofNat balance)),
   ("hmyv2_getBalanceByBlockNumber", answering 2 (.ofNat balance)),
   ("hmyv2_getTransactionCount", answering 2 (.ofNat nonce)),
   ("hmy_getBalance", answering 2 (.string legacyBalance)),
   ("hmy_getBalanceByBlockNumber", answering 2 (.string legacyBalance)),
   ("hmy_getTransactionCount", answering 2 (hex nonce))]
  ++ [("hmy_blockNumber", "hmyv2_blockNumber", blockNumber),
      ("hmy_gasPrice", "hmyv2_gasPrice", gasPrice),
      ("hmy_getEpoch", "hmyv2_getEpoch", epoch)].flatMap fun (legacy, v2, quantity) =>
    [(legacy, fun _ => .ok (hex quantity)), (v2, fun _ => .ok (.ofNat quantity))]

/-- The network in which the sample node is the only one, with bodies of up to ten mebibytes. -/
def network {σ : Type} : Network σ := Server.plain 10485760 methods

end NodeAudit.Http.SampleNode
