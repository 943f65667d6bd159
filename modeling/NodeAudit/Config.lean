import NodeAudit.Environment
import NodeAudit.Failure
import NodeAudit.Files
import NodeAudit.Span
import NodeAudit.Toml.Reader

/-!
# Configuration

The settings of a run: where the node is and how responses are judged (`Config.Harness`), and what a
benchmark sends (`Config.Bench`). A section that is missing is the default section, and a field that
is missing in a section has a default of its own (`Harness.Fields.complete`,
`Bench.Fields.complete`). The variables `NET_URL` and `ADDRESS` go before what a file says.
-/

namespace NodeAudit

namespace Config

/-! ## Defaults -/

/-- The address of the node by default. -/
def defaultNetUrl : String := "http://localhost:9500"

/-- How many seconds a request may take by default. -/
def defaultRequestTimeoutSecs : UInt64 := 5

/-- Where the report goes by default. -/
def defaultReportPath : String := "results.json"

/-- The method of a benchmark by default. -/
def defaultMethod : String := "hmyv2_getBalance"

/-- How many requests a benchmark sends by default. -/
def defaultRequests : UInt64 := 100

/-- How many requests a benchmark has in flight by default. -/
def defaultMaxConcurrent : UInt64 := 10

end Config

/-- Where the node is, where the report goes, and how responses are judged. -/
structure Config.Harness where
  netUrl : String := Config.defaultNetUrl
  /-- The account that the suite asks for. -/
  address : Option String := none
  requestTimeoutSecs : UInt64 := Config.defaultRequestTimeoutSecs
  reportPath : String := Config.defaultReportPath
  strictEnvelope : Bool := false
deriving DecidableEq, Repr

/-- What a benchmark sends. -/
structure Config.Bench where
  method : String := Config.defaultMethod
  requests : UInt64 := Config.defaultRequests
  maxConcurrent : UInt64 := Config.defaultMaxConcurrent
deriving DecidableEq, Repr

/-- The settings of a run. -/
structure Config where
  harness : Config.Harness := {}
  bench : Config.Bench := {}
deriving DecidableEq, Repr

namespace Config

/-! ## JSON -/

namespace Harness

/-- The section as an object. -/
def toJson (h : Harness) : Json :=
  .object [("net_url", .string h.netUrl),
    ("address", match h.address with | some a => .string a | none => .null),
    ("request_timeout_secs", .ofNat h.requestTimeoutSecs.toNat),
    ("report_path", .string h.reportPath), ("strict_envelope", .bool h.strictEnvelope)]

/-- What has been read of the section; the inner option of the address tells `null`. -/
structure Fields where
  netUrl : Option String := none
  address : Option (Option String) := none
  requestTimeoutSecs : Option UInt64 := none
  reportPath : Option String := none
  strictEnvelope : Option Bool := none

/-- How the fields of the section are read. -/
def fields : List (Document.Field Fields) :=
  [{ name := "net_url", required := false, get := (·.netUrl),
     set := fun s v => { s with netUrl := some v }, decode := Document.text },
   { name := "address", required := false, get := (·.address),
     set := fun s v => { s with address := some v }, decode := Document.optional Document.text },
   { name := "request_timeout_secs", required := false, get := (·.requestTimeoutSecs),
     set := fun s v => { s with requestTimeoutSecs := some v }, decode := Document.uint64 "u64" },
   { name := "report_path", required := false, get := (·.reportPath),
     set := fun s v => { s with reportPath := some v }, decode := Document.text },
   { name := "strict_envelope", required := false, get := (·.strictEnvelope),
     set := fun s v => { s with strictEnvelope := some v }, decode := Document.flag }]

/-- The section of the fields that have been read, with a default for each one that is missing. -/
def Fields.complete (s : Fields) : Harness where
  netUrl := s.netUrl.getD defaultNetUrl
  address := s.address.join
  requestTimeoutSecs := s.requestTimeoutSecs.getD defaultRequestTimeoutSecs
  reportPath := s.reportPath.getD defaultReportPath
  strictEnvelope := s.strictEnvelope.getD false

/-- Read the section. -/
def decode (origin : Origin) (d : Document) : Decoded Harness := do
  return (← d.record origin "struct HarnessConfig" fields {}).complete

end Harness

namespace Bench

/-- The section as an object. -/
def toJson (b : Bench) : Json :=
  .object [("method", .string b.method), ("requests", .ofNat b.requests.toNat),
    ("max_concurrent", .ofNat b.maxConcurrent.toNat)]

/-- What has been read of the section. -/
structure Fields where
  method : Option String := none
  requests : Option UInt64 := none
  maxConcurrent : Option UInt64 := none

/-- How the fields of the section are read. -/
def fields : List (Document.Field Fields) :=
  [{ name := "method", required := false, get := (·.method),
     set := fun s v => { s with method := some v }, decode := Document.text },
   { name := "requests", required := false, get := (·.requests),
     set := fun s v => { s with requests := some v }, decode := Document.uint64 "usize" },
   { name := "max_concurrent", required := false, get := (·.maxConcurrent),
     set := fun s v => { s with maxConcurrent := some v }, decode := Document.uint64 "usize" }]

/-- The section of the fields that have been read, with a default for each one that is missing. -/
def Fields.complete (s : Fields) : Bench where
  method := s.method.getD defaultMethod
  requests := s.requests.getD defaultRequests
  maxConcurrent := s.maxConcurrent.getD defaultMaxConcurrent

/-- Read the section. -/
def decode (origin : Origin) (d : Document) : Decoded Bench := do
  return (← d.record origin "struct BenchConfig" fields {}).complete

end Bench

/-- The settings as an object. -/
def toJson (c : Config) : Json :=
  .object [("harness", c.harness.toJson), ("bench", c.bench.toJson)]

/-- What has been read of settings. -/
structure Fields where
  harness : Option Harness := none
  bench : Option Bench := none

/-- How the sections are read. -/
def fields (origin : Origin) : List (Document.Field Fields) :=
  [{ name := "harness", required := false, get := (·.harness),
     set := fun s v => { s with harness := some v }, decode := Harness.decode origin },
   { name := "bench", required := false, get := (·.bench),
     set := fun s v => { s with bench := some v }, decode := Bench.decode origin }]

/-- Read settings. -/
def decode (origin : Origin) (d : Document) : Decoded Config := do
  let s ← d.record origin "struct Config" (fields origin) {}
  return { harness := s.harness.getD {}, bench := s.bench.getD {} }

/-! ## Files and variables -/

/-- The failure of a text that is no configuration. -/
def parseFailure (reason : String) : Failure :=
  .configuration ("Failed to parse config file: " ++ redact reason)

/-- Read settings from the text of a file. -/
def parse (text : String) : Except Failure Config :=
  match Toml.read text with
  | none => .error (parseFailure "the text is not valid TOML")
  | some d =>
    match decode .table d with
    | .ok c => .ok c
    | .error e => .error (parseFailure (e.message?.getD "a number is out of range"))

/-- Read settings from a file that was opened. -/
def load : Except FileError String → Except Failure Config
  | .ok text => parse text
  | .error e => .error (.configuration ("Failed to read config file: " ++ redact e.message))

/-- The variable that holds the address of the node. -/
def netUrlVariable : String := "NET_URL"

/-- The variable that holds the account. -/
def addressVariable : String := "ADDRESS"

/-- Let the variables of the environment go before the settings. -/
def withOverrides (c : Config) (env : Environment) : Config :=
  { c with harness := { c.harness with
      netUrl := (env.nonBlank? netUrlVariable).getD c.harness.netUrl
      address := env.nonBlank? addressVariable <|> c.harness.address } }

/-- How long a request may take. -/
def Harness.requestTimeout (h : Harness) : Span := Span.ofSeconds h.requestTimeoutSecs

/-- The account, or the failure of a missing one. -/
def Harness.requireAddress (h : Harness) : Except Failure String :=
  match h.address with
  | some a => .ok a
  | none =>
    .error (.configuration "No account address configured: set ADDRESS or harness.address")

end Config

end NodeAudit
