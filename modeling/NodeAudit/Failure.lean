import NodeAudit.Json.Decode
import NodeAudit.Redaction

/-!
# Failures

Every operation of the library that can fail does so with a `Failure`, which tells who is at fault:
the node with an error of its own, a check of a response, the configuration, the way to the node, a
text that could not be read, or the file system. `Failure.text` is the message for a reader,
`Failure.display` the value itself, and a failure can be written as JSON and read back
(`Failure.toJson`, `Failure.decode`).
-/

namespace NodeAudit

/-- Why an operation failed. -/
inductive Failure where
  /-- The node answered with an error object. -/
  | rpc (code : Int64) (message : String)
  | assertion (message : String)
  | configuration (message : String)
  | transport (message : String)
  | serialization (message : String)
  | io (message : String)
deriving DecidableEq, Repr

namespace Failure

/-- The name of a kind of failure. -/
def kind : Failure → String
  | rpc _ _ => "RpcProtocol"
  | assertion _ => "Assertion"
  | configuration _ => "Configuration"
  | transport _ => "Transport"
  | serialization _ => "Serialization"
  | io _ => "Io"

/-- The failure as a message. -/
def text : Failure → String
  | rpc code message => "RPC error " ++ Decimal.ofInt code.toInt ++ ": " ++ message
  | assertion m => "Assertion failed: " ++ m
  | configuration m => "Configuration error: " ++ m
  | transport m => "Transport error: " ++ m
  | serialization m => "Serialization error: " ++ m
  | io m => "IO error: " ++ m

/-- The failure as a value. -/
def display : Failure → String
  | rpc code message =>
    "RpcProtocol \x7b code: " ++ Decimal.ofInt code.toInt ++ ", message: " ++ Text.quoted message
      ++ " \x7d"
  | assertion m => "Assertion(" ++ Text.quoted m ++ ")"
  | configuration m => "Configuration(" ++ Text.quoted m ++ ")"
  | transport m => "Transport(" ++ Text.quoted m ++ ")"
  | serialization m => "Serialization(" ++ Text.quoted m ++ ")"
  | io m => "Io(" ++ Text.quoted m ++ ")"

/-- The message without secrets. -/
def redactedText (f : Failure) : String := redact f.text

/-- The code of an error that the node answered with. -/
def rpcCode? : Failure → Option Int64
  | rpc code _ => some code
  | _ => none

/-- The configuration is at fault. -/
def isConfiguration : Failure → Bool
  | configuration _ => true
  | _ => false

/-! ## Failures of the outside -/

/-- The way to the node failed. -/
def ofTransport (message : String) : Failure := .transport (redact message)

/-- A text could not be read as JSON. -/
def ofJson (message : String) : Failure := .serialization (redact message)

/-- A text could not be read as TOML; a message of that reader ends a line. -/
def ofToml (message : String) : Failure := .configuration (redact (message ++ "\n"))

/-- A file could not be read or written. -/
def ofIo (message : String) : Failure := .io (redact message)

/-! ## JSON -/

/-- The failure as an object whose only key is its kind. -/
def toJson (f : Failure) : Json :=
  let body : Json := match f with
    | rpc code message => .object [("code", .ofInt code.toInt), ("message", .string message)]
    | assertion m | configuration m | transport m | serialization m | io m => .string m
  .object [(f.kind, body)]

/-- What has been read of an error of the node. -/
structure RpcFields where
  code : Option Int64 := none
  message : Option String := none

/-- How the fields of an error of the node are read. -/
def rpcFields : List (Document.Field RpcFields) :=
  [{ name := "code", required := true, get := (·.code),
     set := fun s v => { s with code := some v }, decode := Document.int64 },
   { name := "message", required := true, get := (·.message),
     set := fun s v => { s with message := some v }, decode := Document.text }]

/-- What an error of the node is read from: an object, or any record in a text. -/
def isRpcRecord (origin : Origin) : Document → Bool
  | .object _ _ => true
  | _ => origin = .text

/-- Read what an error of the node carries. -/
def decodeRpc (origin : Origin) : Option Document → Decoded Failure
  | some d => do
    if isRpcRecord origin d then
      let s ← d.record origin "struct variant ProbeError::RpcProtocol" rpcFields {}
      return .rpc (← Document.require "code" s.code) (← Document.require "message" s.message)
    else .error (d.mismatch "struct variant")
  | none => .error (.invalidType .unitVariant "struct variant")

/-- Read the message of a failure that carries nothing else. -/
def decodeMessage (make : String → Failure) : Option Document → Decoded Failure
  | some d => do return make (← d.text)
  | none => .error (.invalidType .unitVariant "newtype variant")

/-- How each kind of failure is read from what stands at its name. -/
def readers (origin : Origin) : List (String × (Option Document → Decoded Failure)) :=
  [("RpcProtocol", decodeRpc origin), ("Assertion", decodeMessage .assertion),
   ("Configuration", decodeMessage .configuration), ("Transport", decodeMessage .transport),
   ("Serialization", decodeMessage .serialization), ("Io", decodeMessage .io)]

/-- Read a failure. -/
def decode (origin : Origin) (d : Document) : Decoded Failure := do
  let (read, payload?) ← d.variant (readers origin)
  read payload?

end Failure

end NodeAudit
