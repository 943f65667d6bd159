import NodeAudit.Json.Printer
import NodeAudit.Rpc.Transport

/-!
# Scripted nodes

A script stands for a node: a table of answers for certain calls, and a list of answers that the
other calls take in turn, from the first again after the last.
-/

namespace NodeAudit.Rpc

/-- A row of a script's table. -/
structure Script.Row where
  method : Option String
  params : Option (List Json)
  sent : Sent

/-- The answers of a node. -/
structure Script where
  table : List Script.Row
  replies : List Sent
  endpoint : String

/-- One call to a scripted node. -/
structure Script.Call where
  request : Request
  sent : Sent

namespace Script

/-- The row is for the request: the method and the parameters that it gives are those of the
request. -/
def Row.matches (row : Row) (r : Request) : Bool :=
  (match row.method with | some m => m == r.method | none => true) &&
  (match row.params with
    | some ps => (Json.array ps).compact == (Json.array r.params).compact
    | none => true)

/-- The answer to the send with number `n`. -/
def answer (script : Script) (n : Nat) (r : Request) : Sent :=
  match script.table.find? (·.matches r) with
  | some row => row.sent
  | none =>
    match script.replies[n % script.replies.length]? with
    | some sent => sent
    | none => { answer := .error (.transport ("no reply for " ++ r.method)) }

/-- The way to the scripted node. The state lists the calls up to now. -/
def transport (script : Script) : Transport (Array Call) where
  endpoint := script.endpoint
  send calls r :=
    let sent := script.answer calls.size r
    (sent, calls.push { request := r, sent })

end Script

end NodeAudit.Rpc
