import NodeAudit.Suite.Expectation

/-!
# Scenarios

A scenario is a call with a name and an expectation. It is prepared by making its request
(`Scenario.prepare`). The catalogue holds those of the methods of an account, with and without the
parameters that they need, and those of the methods of the chain.
-/

namespace NodeAudit.Suite

/-- A call and what is expected of its response. -/
structure Scenario where
  name : String
  method : String
  params : List Json
  expectation : Expectation
deriving BEq, Repr

/-- A scenario whose request has been made. -/
structure Prepared where
  name : String
  request : Rpc.Request
  expectation : Expectation
deriving BEq, Repr

namespace Scenario

/-- The request of the scenario. -/
def request (s : Scenario) (id : UInt64) : Rpc.Request := Rpc.Request.make s.method s.params id

/-- Make the request of the scenario. -/
def prepare (s : Scenario) (id : UInt64) : Prepared :=
  { name := s.name, request := s.request id, expectation := s.expectation }

end Scenario

/-- A call that the node answers. -/
def answered (name : String) (operation : Rpc.Operation) (family : Rpc.Family)
    (params : List Json) : Scenario :=
  ⟨name, (Rpc.Method.mk operation family).name, params, .resultForMethod⟩

/-- A call whose parameters the node does not accept. -/
def refused (name : String) (operation : Rpc.Operation) (family : Rpc.Family)
    (params : List Json) : Scenario :=
  ⟨name, (Rpc.Method.mk operation family).name, params, .errorCode invalidParams⟩

/-- The calls of the methods of an account. -/
def accountSuite (address : String) : List Scenario :=
  let account : Json := .string address
  [ refused "no params" .balance .v2 [],
    answered "valid address" .balance .v2 [account],
    answered "address and block number" .balanceByBlock .v2 [account, .ofNat 1],
    refused "missing block number" .balanceByBlock .v2 [account],
    refused "no params" .balance .legacy [],
    refused "missing block tag" .balance .legacy [account],
    answered "address and block tag" .balance .legacy [account, .string "0x1"],
    answered "address and block number" .balanceByBlock .legacy [account, .string "0x1"],
    refused "missing block number" .balanceByBlock .legacy [account],
    answered "address and latest" .transactionCount .legacy [account, .string "latest"],
    refused "missing block tag" .transactionCount .legacy [account],
    answered "address and block number" .transactionCount .v2 [account, .ofNat 1],
    refused "missing block number" .transactionCount .v2 [account] ]

/-- The calls of the methods of the chain, which take no parameters. -/
def protocolSuite : List Scenario :=
  Rpc.Method.protocol.map fun m => ⟨"no params", m.name, [], .resultForMethod⟩

/-- The calls of all methods. -/
def fullSuite (address : String) : List Scenario := accountSuite address ++ protocolSuite

end NodeAudit.Suite
