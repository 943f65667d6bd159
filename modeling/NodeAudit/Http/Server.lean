import NodeAudit.Http.Exchange
import NodeAudit.Entries

/-!
# Servers of methods

A server takes methods and answers the calls of them that are posted to it. What it has of a call is
in the hands of the handler of its method: the handler gets the parameters as the text that stands
in the call, and has a result for them or refuses them. How a call comes from a body to its handler,
and what comes of it back, is up to the server (`Server`).

`Server.plain` is a server of single calls. For any other body it drops the connection.
-/

namespace NodeAudit.Http

/-- Why a handler has no result. -/
inductive CallError where
  | invalidParams (message : String)
deriving DecidableEq, Repr

/-- The error of the protocol. -/
def CallError.toErrorObject : CallError → Rpc.ErrorObject
  | .invalidParams message => { code := -32602, message }

/-- What a method makes of the text of the parameters, if there are any. -/
abbrev Handler := Option String → Except CallError Json

/-- Methods and their handlers. -/
abbrev Methods := List (String × Handler)

/-- A way to serve methods. -/
abbrev Server (σ : Type) := Methods → Network σ

/-! ## Single calls -/

/-- A call as it stands in a body. -/
structure Call where
  method : String
  /-- The text of the parameters. -/
  params : String
  id : Number
deriving Repr

/-- The value at the beginning of the characters, its text, and the rest. -/
def takeValue? (cs : List Char) : Option (Document × String × List Char) :=
  match JsonText.scanValue (2 * cs.length + 2) cs with
  | (d, some rest) => some (d, String.ofList (cs.take (cs.length - rest.length)), rest)
  | (_, none) => none

/-- The call in a body that is written as a request is. -/
def Call.ofBody? (body : String) : Option Call := do
  let cs ← JsonText.scanWord "\x7b\"jsonrpc\":\"2.0\",\"method\":".toList body.toList
  let (.string (some method), _, cs) ← takeValue? cs | none
  let cs ← JsonText.scanWord ",\"params\":".toList cs
  let (_, params, cs) ← takeValue? cs
  let cs ← JsonText.scanWord ",\"id\":".toList cs
  let (.number (some id), _, ['\x7d']) ← takeValue? cs | none
  return { method, params, id }

/-- What comes of a call. -/
def Call.outcome (methods : Methods) (c : Call) : Except Rpc.ErrorObject Json :=
  match Entries.get? c.method methods with
  | some handler => (handler (some c.params)).mapError CallError.toErrorObject
  | none => .error { code := -32601, message := "Method not found" }

/-- What comes of a call in the envelope of the protocol. -/
def Call.answer (methods : Methods) (c : Call) : Json :=
  .object [("jsonrpc", .string Rpc.protocolVersion),
    match c.outcome methods with
    | .ok v => ("result", v)
    | .error e => ("error", e.toJson),
    ("id", .number c.id)]

/-- A server of single calls in bodies within the limit. -/
def Server.plain {σ : Type} (limit : Nat) : Server σ := fun methods p world =>
  let call? := if p.body.utf8ByteSize ≤ limit then Call.ofBody? p.body else none
  let result := match call? with
    | some c => .answered 200 ((c.answer methods).compactChars.flatMap String.utf8EncodeChar)
    | none => .dropped
  ({ result, time := Span.ofMillis 1 }, world)

end NodeAudit.Http
