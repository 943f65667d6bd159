import NodeAudit.Config
import NodeAudit.Profile.Resolve
import NodeAudit.Rpc.Method
import NodeAudit.Url.Reader

/-!
# Reviewing a configuration

A configuration may have faults, which make it unusable, and it may call for cautions, which do not.
Every fault and every caution is found on its own (`faults`, `cautions`); a caution can also come
from the network profiles of an environment (`profileCautions`). A review with faults is a refusal
whatever its cautions are (`Review.verdict`).
-/

namespace NodeAudit.Config

/-! ## Faults -/

/-- Why a configuration is unusable. -/
inductive Fault
  | invalidUrl (e : UrlError)
  | foreignScheme (scheme : String)
  | zeroTimeout
  | blankReportPath
  | zeroConcurrency
deriving DecidableEq, Repr

/-- What is said of a fault. -/
def Fault.message : Fault → String
  | .invalidUrl e => "harness.net_url is not a valid URL: " ++ e.message
  | .foreignScheme scheme =>
    "harness.net_url must use http or https, got scheme '" ++ scheme ++ "'"
  | .zeroTimeout => "harness.request_timeout_secs must be greater than 0"
  | .blankReportPath => "harness.report_path must not be empty"
  | .zeroConcurrency => "bench.max_concurrent must be greater than 0"

/-- The fault of the address of a node: it must be a URL of the web. -/
def urlFault? (url : String) : Option Fault :=
  match Url.read url with
  | .error e => some (.invalidUrl e)
  | .ok u => if u.isWeb then none else some (.foreignScheme (String.ofList u.scheme))

/-- The fault of the time that a request may take. -/
def timeoutFault? (h : Harness) : Option Fault :=
  if h.requestTimeoutSecs = 0 then some .zeroTimeout else none

/-- The fault of the path of the report. -/
def reportPathFault? (h : Harness) : Option Fault :=
  if Text.trim h.reportPath = "" then some .blankReportPath else none

/-- The fault of the number of requests in flight. -/
def concurrencyFault? (b : Bench) : Option Fault :=
  if b.maxConcurrent = 0 then some .zeroConcurrency else none

/-- The faults of a configuration, in the order of its fields. -/
def faults (c : Config) : List Fault :=
  (urlFault? c.harness.netUrl).toList ++ (timeoutFault? c.harness).toList ++
    (reportPathFault? c.harness).toList ++ (concurrencyFault? c.bench).toList

/-! ## Cautions -/

/-- What a usable configuration may call attention to. -/
inductive Caution
  | noAddress
  | idleConcurrency (maxConcurrent requests : UInt64)
  | noRequests
  | unknownMethod (name : String)
  | profile (network : Profile.Network) (problem : String)
deriving DecidableEq, Repr

/-- What is said of a caution. -/
def Caution.message : Caution → String
  | .noAddress => "No account address configured - `run` needs ADDRESS or --address"
  | .idleConcurrency m r =>
    "bench.max_concurrent (" ++ Decimal.ofNat m.toNat ++ ") exceeds bench.requests (" ++
      Decimal.ofNat r.toNat ++ ")"
  | .noRequests => "bench.requests is 0 - benchmarks will send nothing"
  | .unknownMethod name => "bench.method '" ++ name ++ "' is not a known account method"
  | .profile network problem => network.name ++ ": " ++ problem

/-- The caution of a missing account. -/
def addressCaution? (h : Harness) : Option Caution :=
  if h.address.isNone then some .noAddress else none

/-- The caution of more requests in flight than there are requests. Zero in flight is a fault, and
never exceeds. -/
def concurrencyCaution? (b : Bench) : Option Caution :=
  if b.requests < b.maxConcurrent then some (.idleConcurrency b.maxConcurrent b.requests) else none

/-- The caution of a benchmark that sends nothing. -/
def requestsCaution? (b : Bench) : Option Caution :=
  if b.requests = 0 then some .noRequests else none

/-- The caution of a method that is not in the catalogue. -/
def methodCaution? (b : Bench) : Option Caution :=
  if (Rpc.Method.ofName? b.method).isNone then some (.unknownMethod b.method) else none

/-- The cautions of a configuration. -/
def cautions (c : Config) : List Caution :=
  (addressCaution? c.harness).toList ++ (concurrencyCaution? c.bench).toList ++
    (requestsCaution? c.bench).toList ++ (methodCaution? c.bench).toList

/-- The cautions of the network profiles of an environment, network by network. -/
def profileCautions (env : Environment) : List Caution :=
  Profile.Network.all.flatMap fun n => (Profile.problems env n).map (.profile n)

/-! ## The review -/

/-- What was found in a configuration, and whether network profiles were looked at. -/
structure Review where
  faults : List Fault
  cautions : List Caution
  coversProfiles : Bool
deriving DecidableEq, Repr

/-- Review a configuration, with the network profiles of an environment if one is given. -/
def review (c : Config) (profiles? : Option Environment) : Review :=
  { faults := c.faults, cautions := c.cautions ++ (profiles?.elim [] profileCautions),
    coversProfiles := profiles?.isSome }

namespace Review

/-- The faults if there are any, otherwise the cautions. -/
def verdict (r : Review) : Except (List Fault) (List Caution) :=
  if r.faults.isEmpty then .ok r.cautions else .error r.faults

/-- A heading and its entries; nothing without entries. -/
def listing (heading : String) (entries : List String) : List String :=
  if entries.isEmpty then [] else "" :: heading :: entries.map ("   - " ++ ·)

/-- The review as lines. -/
def lines (r : Review) : List String :=
  (if r.coversProfiles then []
    else ["ℹ️  Network profiles not validated. Use `profile check` to validate them"]) ++
  ["=== Configuration Validation ===",
    if r.faults.isEmpty then "✓ Configuration validation successful!"
    else "✗ Configuration validation failed!"] ++
  listing "❌ Errors:" (r.faults.map Fault.message) ++
  listing "⚠️  Warnings:" (r.cautions.map Caution.message)

/-- The review as text. -/
def text (r : Review) : String := String.join (r.lines.map (· ++ "\n"))

end Review

end NodeAudit.Config
