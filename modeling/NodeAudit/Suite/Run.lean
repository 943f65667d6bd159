import NodeAudit.Rpc.Transport
import NodeAudit.Suite.Metric
import NodeAudit.Suite.Scenario

/-!
# Running scenarios

The scenarios of a list are sent one after the other, once each, whatever comes of those before.
`Options.judge` decides about one scenario from what came of its send; `runPrepared` threads the
state of the transport through all of them.
-/

namespace NodeAudit.Suite

/-- How responses are judged. -/
structure Options where
  /-- Each response must carry exactly one of a result and an error. -/
  strictEnvelope : Bool := false
deriving DecidableEq, Repr

/-- What came of a scenario. -/
structure Outcome where
  metric : Metric
  error : Option Failure

namespace Outcome

/-- The scenario passed. -/
def passed (o : Outcome) : Bool := o.error.isNone

end Outcome

namespace Options

/-- Check a response against the options and the expectation of the scenario. -/
def verify (options : Options) (s : Prepared) (r : Rpc.Response) : Except Failure Unit :=
  if options.strictEnvelope && !r.hasValidEnvelope then
    .error (.assertion "response must carry exactly one of result or error")
  else s.expectation.check s.request.method r

/-- The verdict on what came of a send. -/
def verdict (options : Options) (s : Prepared) (sent : Rpc.Sent) : Except Failure Unit :=
  match sent.answer with
  | .ok reply => options.verify s reply.response
  | .error f => .error f

/-- The outcome of a scenario, from what came of its send. -/
def judge (options : Options) (s : Prepared) (sent : Rpc.Sent) : Outcome :=
  match options.verdict s sent with
  | .ok () =>
    { metric := .passed s.request.method s.name sent.duration s.request.params, error := none }
  | .error f =>
    { metric := .failed s.request.method s.name sent.duration s.request.params f.redactedText,
      error := some f }

end Options

/-- Send the requests of the scenarios, in order, and judge what comes of each. -/
def runPrepared {σ : Type} (transport : Rpc.Transport σ) (options : Options) :
    List Prepared → σ → List Outcome × σ
  | [], world => ([], world)
  | s :: rest, world =>
    let (sent, world) := transport.send world s.request
    let (outcomes, world) := runPrepared transport options rest world
    (options.judge s sent :: outcomes, world)

/-- Prepare the scenarios with one identifier and run them. -/
def runAll {σ : Type} (transport : Rpc.Transport σ) (options : Options) (id : UInt64)
    (scenarios : List Scenario) (world : σ) : List Outcome × σ :=
  runPrepared transport options (scenarios.map (·.prepare id)) world

end NodeAudit.Suite
