import NodeAudit.Http.Status
import NodeAudit.Json.Printer
import NodeAudit.Rpc.Transport
import NodeAudit.Url.Reader

/-!
# Requests over HTTP

A request goes to the node as the body of a POST. What the network makes of it is an `Exchange`:
nobody is there, the connection is dropped, no answer comes in time, or there is an answer with a
status and a body. `Exchange.sent` reads it: only a success whose body is a response is a reply, and
everything else is a failure.

An address must be usable before anything is sent (`destination`): a URL of the web with a host.
User and password are no part of where a request goes.
-/

namespace NodeAudit.Http

/-- A request on its way, and how long it may take. -/
structure Post where
  url : Url
  body : String
  timeout : Span
deriving DecidableEq, Repr

namespace Post

/-- The first line of the request. -/
def startLine (p : Post) : String :=
  "POST " ++ String.ofList (p.url.path ++ (p.url.query?.elim [] ('?' :: ·))) ++ " HTTP/1.1"

/-- The type of the body. -/
def contentType : String := "application/json"

/-- A request of the protocol as a body. -/
def ofRequest (url : Url) (timeout : Span) (r : Rpc.Request) : Post :=
  { url, body := r.toJson.compact, timeout }

end Post

/-! ## Destinations -/

/-- The bytes that an escaped text stands for are characters. -/
def isReadable (cs : List Char) : Bool :=
  (Url.Percent.characters? (Url.Percent.unescape cs)).isSome

/-- The URL without user and password. A user that cannot be read stays, and so does a password that
cannot be read if there is no user. -/
def withoutReadableCredentials (u : Url) : Url :=
  if isReadable u.user && (!u.user.isEmpty || u.password?.any isReadable) then u.withoutCredentials
  else u

/-- A character that a host may hold but a request cannot carry. -/
def isUnsendable (c : Char) : Bool := "\"`\x7b\x7d".toList.contains c

/-- Where a request to an address goes. -/
def destination (address : String) : Except Failure Url :=
  match Url.read address with
  | .error _ => .error (.ofTransport "builder error")
  | .ok u =>
    let u := if u.hasHost then withoutReadableCredentials u else u
    if u.hasHost && u.isWeb && !(u.host?.any fun h => h.text.any isUnsendable) then .ok u
    else .error (.ofTransport ("builder error for url (" ++ u.text ++ ")"))

/-! ## Exchanges -/

/-- What the network makes of a request. -/
inductive Exchange.Result
  | refused
  | dropped
  | unanswered
  | answered (status : Status) (body : List UInt8)
deriving DecidableEq, Repr

/-- What the network makes of a request, and how long it takes. -/
structure Exchange where
  result : Exchange.Result
  time : Span := Span.zero
deriving DecidableEq, Repr

/-- What stands for a byte that is part of no character: escapes of which no text comes. -/
def unreadable : List Char := "\\ud800\\ud800".toList

/-- The characters of a body. Of a string in which a byte is `unreadable` no text comes, so that it
may be skipped but not read; behind a backslash such a byte is the letter of no escape. `skip` is
the number of bytes that still belong to the last character, and `escaped` tells that this was a
backslash that begins an escape. -/
def bodyChars (skip : Nat) (escaped : Bool) : List UInt8 → List Char
  | [] => []
  | b :: bytes =>
    match skip with
    | skip + 1 => bodyChars skip escaped bytes
    | 0 =>
      match ByteArray.utf8DecodeChar? ⟨((b :: bytes).take 4).toArray⟩ 0 with
      | some c => c :: bodyChars (c.utf8Size - 1) (c == '\\' && !escaped) bytes
      | none => (if escaped then ['\x00'] else unreadable) ++ bodyChars 0 false bytes

/-- Read the body of an answer to a call of the method. -/
def decodeBody (method : String) (body : List UInt8) : Except Failure Rpc.Response :=
  match JsonText.decode (Rpc.Response.decode .text 0) (String.ofList (bodyChars 0 false body)) with
  | .ok response => .ok response
  | .error e => .error (.serialization
    ("Invalid JSON-RPC response for " ++ method ++ ": "
      ++ redact (e.message?.getD "the body is not JSON")))

namespace Exchange

/-- What is said of a request that did not get through. -/
def failureText (u : Url) : String := "error sending request for url (" ++ u.text ++ ")"

/-- The response that the exchange brought. -/
def response (x : Exchange) (u : Url) (method : String) : Except Failure Rpc.Response :=
  match x.result with
  | .refused | .dropped => .error (.ofTransport (failureText u))
  | .unanswered => .error (.ofTransport ("request timed out: " ++ failureText u))
  | .answered status body =>
    if status.isSuccess then decodeBody method body
    else .error (.transport (method ++ " returned HTTP " ++ status.text))

/-- What came of a call of the method. -/
def sent (x : Exchange) (u : Url) (method : String) : Rpc.Sent :=
  { answer := (x.response u method).map fun response => { response, time := x.time },
    elapsed := x.time }

end Exchange

/-! ## Transports -/

/-- A network with states `σ`. -/
abbrev Network (σ : Type) := Post → σ → Exchange × σ

/-- The way to the node at an address. Nothing is sent to an address that cannot be used. -/
def transport {σ : Type} (network : Network σ) (address : String) (timeout : Span) :
    Rpc.Transport σ where
  endpoint := redact address
  send world r :=
    match destination address with
    | .error f => ({ answer := .error f }, world)
    | .ok url =>
      let (x, world) := network (.ofRequest url timeout r) world
      (x.sent url r.method, world)

/-! ## Networks -/

/-- A network in which nobody is there. -/
def deserted {σ : Type} : Network σ := fun _ world => ({ result := .refused }, world)

/-- A network that only keeps what is sent. -/
def recording : Network (List Post) := fun p posts => ({ result := .refused }, posts ++ [p])

/-- A network that knows beforehand what it makes of each request, in order. -/
def replaying : Network (List Exchange) := fun _ exchanges =>
  match exchanges with
  | x :: rest => (x, rest)
  | [] => ({ result := .refused }, [])

end NodeAudit.Http
