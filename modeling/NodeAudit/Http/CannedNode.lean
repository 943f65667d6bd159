import NodeAudit.Http.Exchange

/-!
# Canned nodes

A canned node answers from a list of rows: the first row that is for the request tells what becomes
of it, and a request without a row is not found. The node keeps every request that it receives.
-/

namespace NodeAudit.Http

/-- What a canned node does with a request. -/
structure CannedNode.Row where
  method? : Option String := none
  params? : Option (List Json) := none
  result : Exchange.Result

/-- A node that answers from rows, each answer after the same time. -/
structure CannedNode where
  rows : List CannedNode.Row
  time : Span := Span.ofMillis 1

namespace CannedNode

/-- The row is for a request: the method and the parameters that it gives are those of the request.
A row that gives neither is for any request. -/
def Row.isFor (row : Row) (request? : Option Rpc.Request) : Bool :=
  row.method?.all (fun m => request?.any (·.method == m)) &&
    row.params?.all fun ps =>
      request?.any fun r => (Json.array r.params).compact == (Json.array ps).compact

/-- What becomes of a request. -/
def result (node : CannedNode) (p : Post) : Exchange.Result :=
  let request? := (JsonText.decode (Rpc.Request.decode .text 0) p.body).toOption
  match node.rows.find? (·.isFor request?) with
  | some row => row.result
  | none => .answered 404 []

/-- The network in which the node is the only one. The state lists what was received. -/
def network (node : CannedNode) : Network (List Post) := fun p received =>
  ({ result := node.result p, time := node.time }, received ++ [p])

end CannedNode

end NodeAudit.Http
