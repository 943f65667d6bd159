import NodeAudit.Json.Decode

/-!
# Requests and responses

The messages between the program and the node: a request with positional parameters, and a response
of which every part may be missing. A result, an identifier or the data of an error that is `null`
counts as missing when a response is read. The response has a valid envelope if it holds exactly one
of a result and an error.
-/

namespace NodeAudit.Rpc

/-- The version of the protocol. -/
def protocolVersion : String := "2.0"

/-- A request. -/
structure Request where
  version : String
  method : String
  params : List Json
  id : UInt64
deriving BEq, Repr

/-- The error of a response. -/
structure ErrorObject where
  code : Int64
  message : String
  data : Option Json := none
deriving BEq, Repr

/-- A response as it was received. -/
structure Response where
  version : Option String := none
  id : Option Json := none
  result : Option Json := none
  error : Option ErrorObject := none
deriving BEq, Repr

/-! ## Requests -/

namespace Request

/-- A request in the current version of the protocol. -/
def make (method : String) (params : List Json) (id : UInt64) : Request :=
  { version := protocolVersion, method, params, id }

/-- The request as an object. -/
def toJson (r : Request) : Json :=
  .object [("jsonrpc", .string r.version), ("method", .string r.method),
    ("params", .array r.params), ("id", .ofNat r.id.toNat)]

/-- What has been read of a request. -/
structure Fields where
  version : Option String := none
  method : Option String := none
  params : Option (List Json) := none
  id : Option UInt64 := none

/-- How the fields of a request are read. -/
def fields (opened : Nat) : List (Document.Field Fields) :=
  [{ name := "jsonrpc", required := true, get := (·.version),
     set := fun s v => { s with version := some v }, decode := Document.text },
   { name := "method", required := true, get := (·.method),
     set := fun s v => { s with method := some v }, decode := Document.text },
   { name := "params", required := true, get := (·.params),
     set := fun s v => { s with params := some v },
     decode := Document.list (Document.any (opened + 2)) },
   { name := "id", required := true, get := (·.id),
     set := fun s v => { s with id := some v }, decode := Document.uint64 "u64" }]

/-- Read a request inside `opened` containers. -/
def decode (origin : Origin) (opened : Nat) (d : Document) : Decoded Request := do
  let s ← d.record origin "struct JsonRpcRequest" (fields opened) {}
  return { version := ← Document.require "jsonrpc" s.version,
           method := ← Document.require "method" s.method,
           params := ← Document.require "params" s.params,
           id := ← Document.require "id" s.id }

end Request

/-! ## Errors of the node -/

namespace ErrorObject

/-- The error as an object; data that is absent is not written. -/
def toJson (e : ErrorObject) : Json :=
  .object ([("code", .ofInt e.code.toInt), ("message", .string e.message)]
    ++ (e.data.map fun v => ("data", v)).toList)

/-- What has been read of an error. -/
structure Fields where
  code : Option Int64 := none
  message : Option String := none
  data : Option (Option Json) := none

/-- How the fields of an error are read. -/
def fields (opened : Nat) : List (Document.Field Fields) :=
  [{ name := "code", required := true, get := (·.code),
     set := fun s v => { s with code := some v }, decode := Document.int64 },
   { name := "message", required := true, get := (·.message),
     set := fun s v => { s with message := some v }, decode := Document.text },
   { name := "data", required := false, get := (·.data),
     set := fun s v => { s with data := some v },
     decode := Document.optional (Document.any (opened + 1)) }]

/-- Read an error inside `opened` containers. -/
def decode (origin : Origin) (opened : Nat) (d : Document) : Decoded ErrorObject := do
  let s ← d.record origin "struct RpcErrorObject" (fields opened) {}
  return { code := ← Document.require "code" s.code,
           message := ← Document.require "message" s.message,
           data := s.data.join }

end ErrorObject

/-! ## Responses -/

namespace Response

/-- A response that carries a result. -/
def success (result : Json) : Response := { version := some protocolVersion, result := some result }

/-- A response that carries an error. -/
def failure (code : Int64) (message : String) : Response :=
  { version := some protocolVersion, error := some { code, message } }

/-- The code of the error. -/
def errorCode? (r : Response) : Option Int64 := r.error.map (·.code)

/-- The response carries an error. -/
def isError (r : Response) : Bool := r.error.isSome

/-- The response carries exactly one of a result and an error. -/
def hasValidEnvelope (r : Response) : Bool := r.result.isSome != r.error.isSome

/-- The response as an object; what is absent is not written. -/
def toJson (r : Response) : Json :=
  .object ((r.version.map fun v => ("jsonrpc", .string v)).toList
    ++ (r.id.map fun v => ("id", v)).toList
    ++ (r.result.map fun v => ("result", v)).toList
    ++ (r.error.map fun e => ("error", e.toJson)).toList)

/-- What has been read of a response; the inner option of a field tells `null`. -/
structure Fields where
  version : Option (Option String) := none
  id : Option (Option Json) := none
  result : Option (Option Json) := none
  error : Option (Option ErrorObject) := none

/-- How the fields of a response are read. -/
def fields (origin : Origin) (opened : Nat) : List (Document.Field Fields) :=
  [{ name := "jsonrpc", required := false, get := (·.version),
     set := fun s v => { s with version := some v }, decode := Document.optional Document.text },
   { name := "id", required := false, get := (·.id),
     set := fun s v => { s with id := some v },
     decode := Document.optional (Document.any (opened + 1)) },
   { name := "result", required := false, get := (·.result),
     set := fun s v => { s with result := some v },
     decode := Document.optional (Document.any (opened + 1)) },
   { name := "error", required := false, get := (·.error),
     set := fun s v => { s with error := some v },
     decode := Document.optional (ErrorObject.decode origin (opened + 1)) }]

/-- Read a response inside `opened` containers. -/
def decode (origin : Origin) (opened : Nat) (d : Document) : Decoded Response := do
  let s ← d.record origin "struct JsonRpcResponse" (fields origin opened) {}
  return { version := s.version.join, id := s.id.join, result := s.result.join,
           error := s.error.join }

end Response

end NodeAudit.Rpc
