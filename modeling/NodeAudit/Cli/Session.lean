import NodeAudit.Cli.Arguments
import NodeAudit.Cli.Printed
import NodeAudit.Config.Review
import NodeAudit.Environment.File
import NodeAudit.Http.Exchange

/-!
# Sessions of the program

A session is one run of the program as a function of its command line and of what surrounds it: the
variables of the environment, the files, the network and the clock. `execute` gives the exit code,
what was printed, the files afterwards and the state of the network.

What can be refused is refused before anything is sent: the command line, then the configuration,
then the account, the method and the number of requests in flight. A report is written after the
last request.
-/

namespace NodeAudit.Cli

/-- What surrounds a session, the network apart. -/
structure Setting where
  environment : Environment
  files : Files.Tree
  /-- The time as it stands in a report. -/
  now : String
  /-- The time in milliseconds, by which requests are numbered. -/
  clock : UInt64
  /-- How long the requests of a benchmark take, from the first one sent to the last answer. -/
  elapsed : Span := Span.zero

/-- What a session comes to. -/
structure Session (σ : Type) where
  exit : Nat := 0
  /-- The lines printed. -/
  out : List String := []
  /-- The lines printed about errors. -/
  err : List String := []
  files : Files.Tree
  world : σ

namespace Session

variable {σ : Type}

/-- Nothing is done but to print lines. -/
def only (out : List String) (setting : Setting) (world : σ) : Session σ :=
  { out, files := setting.files, world }

/-- Nothing is done but to print lines about an error. -/
def refused (err : List String) (setting : Setting) (world : σ) : Session σ :=
  { exit := 1, err, files := setting.files, world }

/-- A session ends with a failure. -/
def failed (f : Failure) (setting : Setting) (world : σ) : Session σ :=
  refused ["Error: " ++ f.display] setting world

/-- The exit code of a program that had to give up. -/
def abortCode : Nat := 101

/-- A session gives up because times add up to more than the largest span. -/
def aborted (setting : Setting) (world : σ) : Session σ :=
  { exit := abortCode, err := ["overflow when adding durations"], files := setting.files, world }

end Session

/-! ## Configurations -/

/-- The settings of a session: those of the file that the command line names, or the defaults, then
the variables of the environment, then the address of the node on the command line. The variable of
that address also counts as if it stood on the command line, whatever it holds. -/
def configuration (arguments : Arguments) (environment : Environment) (files : Files.Tree) :
    Except Failure Config := do
  let loaded ← match arguments.config? with
    | some path => Config.load (files.read path)
    | none => .ok {}
  let config := loaded.withOverrides environment
  let netUrl? := arguments.netUrl? <|> environment.get? Config.netUrlVariable
  return { config with harness := { config.harness with
    netUrl := netUrl?.getD config.harness.netUrl } }

/-- The account of a session. -/
def account (config : Config) (address? : Option String) : Except Failure String :=
  match address? with
  | some address => .ok address
  | none => config.harness.requireAddress

/-- The plan of a benchmark. -/
def plan (config : Config) (requests? concurrency? : Option UInt64) : Except Failure Bench.Plan :=
  Bench.Plan.make (requests?.getD config.bench.requests).toNat
    (concurrency?.getD config.bench.maxConcurrent).toNat

/-- The path of the report of a stress run, unless told otherwise. -/
def stressReportPath : String := "stress-result.json"

/-- Where a command writes a report. -/
def reportPath? (config : Config) : Command → Option String
  | .run _ report? _ => some (report?.getD config.harness.reportPath)
  | .stress _ _ _ report? => some (report?.getD stressReportPath)
  | _ => none

/-- How a command sends more than one request at a time: in blocks as large as the plan, with as
many in flight as it allows. Other commands wait for each answer. -/
def plan? (config : Config) : Command → Option Bench.Plan
  | .bench _ _ requests? concurrency? | .stress _ requests? concurrency? _ =>
    (plan config requests? concurrency?).toOption
  | _ => none

/-! ## Commands -/

variable {σ : Type}

/-- Run all scenarios, print their metrics and write the report. -/
def runSuite (config : Config) (address report : String) (strict : Bool) (setting : Setting)
    (network : Http.Network σ) (world : σ) : Session σ :=
  let transport := Http.transport network config.harness.netUrl config.harness.requestTimeout
  let options : Suite.Options := { strictEnvelope := strict || config.harness.strictEnvelope }
  let (outcomes, world) :=
    Suite.runAll transport options setting.clock (Suite.fullSuite address) world
  let r := Suite.Report.ofOutcomes address transport.endpoint setting.now outcomes
  let out := r.metrics.flatMap metricLines
  match setting.files.write report r.pretty with
  | .error e => { Session.failed (.ofIo e.message) setting world with out }
  | .ok files =>
    { exit := if r.failed = 0 then 0 else 1,
      out := out ++ summaryLines r.passed r.failed report, files, world }

/-- Benchmark one method. -/
def runBench (config : Config) (method : Rpc.Method) (address : String) (plan : Bench.Plan)
    (setting : Setting) (network : Http.Network σ) (world : σ) : Session σ :=
  let transport := Http.transport network config.harness.netUrl config.harness.requestTimeout
  let request := Rpc.Request.make method.name (method.defaultParams address) setting.clock
  match plan.run transport .pending request world with
  | none => .aborted setting world
  | some p => .only (benchLines method p.summary setting.elapsed) setting p.world

/-- Benchmark every method and write the report. -/
def runStress (config : Config) (address report : String) (plan : Bench.Plan) (setting : Setting)
    (network : Http.Network σ) (world : σ) : Session σ :=
  let transport := Http.transport network config.harness.netUrl config.harness.requestTimeout
  match plan.stress transport .pending Rpc.Method.all address setting.clock world with
  | none => .aborted setting world
  | some (r, s) =>
    match setting.files.write report r.pretty with
    | .error e => .failed (.ofIo e.message) setting s.world
    | .ok files => { out := stressLines r report, files, world := s.world }

/-- Print the profile of a network. -/
def showProfile (n : Profile.Network) (setting : Setting) (world : σ) : Session σ :=
  match Profile.resolve setting.environment n with
  | .ok p => .only (profileLines p) setting world
  | .error f => .refused ["Error: " ++ f.text] setting world

/-- Print the problems of all networks. -/
def checkProfiles (setting : Setting) (world : σ) : Session σ :=
  let problems := Profile.problems setting.environment
  { exit := if Profile.Network.all.all fun n => (problems n).isEmpty then 0 else 1,
    out := Profile.Network.all.flatMap fun n => checkLines n (problems n),
    files := setting.files, world }

/-- Print the review of a configuration. -/
def validateConfig (config : Config) (setting : Setting) (world : σ) : Session σ :=
  let r := config.review (some setting.environment)
  { exit := if r.faults.isEmpty then 0 else 1, out := r.lines, files := setting.files, world }

/-- What a command refuses to go on with before it sends anything. -/
def prepare (config : Config) : Command →
    Except Failure (Setting → Http.Network σ → σ → Session σ)
  | .overview => .ok fun setting _ => .only overviewLines setting
  | .run address? report? strict => do
    let address ← account config address?
    return runSuite config address (report?.getD config.harness.reportPath) strict
  | .profileShow n => .ok fun setting _ => showProfile n setting
  | .profileCheck => .ok fun setting _ => checkProfiles setting
  | .bench method? address? requests? concurrency? => do
    let address ← account config address?
    let method ← Rpc.Method.parse (method?.getD config.bench.method)
    return runBench config method address (← plan config requests? concurrency?)
  | .stress address? requests? concurrency? report? => do
    let address ← account config address?
    let plan ← plan config requests? concurrency?
    return runStress config address (report?.getD stressReportPath) plan
  | .configValidate => .ok fun setting _ => validateConfig config setting

/-- Carry out a command line that was read. -/
def perform (arguments : Arguments) (setting : Setting) (network : Http.Network σ) (world : σ) :
    Session σ :=
  match configuration arguments setting.environment setting.files with
  | .error f => .refused ["Error: Failed to load config: " ++ f.text] setting world
  | .ok config =>
    match prepare config arguments.command with
    | .error f => .failed f setting world
    | .ok act => act setting network world

/-- One run of the program. The file of the deployment is loaded into the environment first. -/
def execute (line : List String) (setting : Setting) (network : Http.Network σ) (world : σ) :
    Session σ :=
  let setting := { setting with
    environment := (Environment.File.loadFrom setting.files setting.environment).1 }
  match Arguments.read line with
  | .error .help => .only helpLines setting world
  | .error .version => .only [versionLine] setting world
  | .error .usage => { exit := 2, err := usageErrorLines, files := setting.files, world }
  | .ok arguments => perform arguments setting network world

end NodeAudit.Cli
