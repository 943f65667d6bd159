import NodeAudit.Failure
import NodeAudit.Rpc.Message
import NodeAudit.Span

/-!
# The way to the node

A transport sends one request at a time and gives one answer, a response with the time that it took
or a failure. What lies behind it is a state of any type that each send may change; a send is never
repeated.
-/

namespace NodeAudit.Rpc

/-- A response and the time until it was there. -/
structure Reply where
  response : Response
  time : Span
deriving Repr

/-- What came of a send. -/
structure Sent where
  answer : Except Failure Reply
  /-- The time around the send, whatever came of it. -/
  elapsed : Span := Span.zero

/-- A way to the node with states `σ`. -/
structure Transport (σ : Type) where
  /-- The address of the node as it stands in reports. -/
  endpoint : String
  send : σ → Request → Sent × σ

namespace Sent

/-- The time of the reply; of a failed send the time around it. -/
def duration (s : Sent) : Span :=
  match s.answer with
  | .ok reply => reply.time
  | .error _ => s.elapsed

/-- A send fails if there is no response or the response carries an error. -/
def isFailure (s : Sent) : Bool :=
  match s.answer with
  | .ok reply => reply.response.isError
  | .error _ => true

end Sent

end NodeAudit.Rpc
