import NodeAudit.Bench.Stress
import NodeAudit.Profile.Resolve
import NodeAudit.Suite.Report

/-!
# What the commands print

Each function gives the lines that a command prints about a value of the library. Secrets are not
among them: credentials are cut out of addresses, and of a mnemonic or a key only whether it is set
is told.
-/

namespace NodeAudit.Cli

/-- A text with blanks behind it up to a width. -/
def padEnd (width : Nat) (s : String) : String :=
  s ++ String.ofList (List.replicate (width - s.length) ' ')

/-- A text with blanks before it up to a width. -/
def padStart (width : Nat) (s : String) : String :=
  String.ofList (List.replicate (width - s.length) ' ') ++ s

/-- The lines about one scenario. -/
def metricLines (m : Suite.Metric) : List String :=
  ((if m.pass then "PASS " else "FAIL ") ++ m.method ++ " " ++ m.test ++ " (" ++ m.duration ++ ")")
    :: (m.error.map ("     " ++ ·)).toList

/-- The lines at the end of a run. -/
def summaryLines (passed failed : Nat) (path : String) : List String :=
  ["", Decimal.ofNat passed ++ " passed, " ++ Decimal.ofNat failed ++ " failed",
    "Report written to " ++ path]

/-- The lines about a profile. -/
def profileLines (p : Profile.NetworkProfile) : List String :=
  ["=== Network Profile: " ++ p.network.name ++ " ===",
    "  network_id:   " ++ p.network.networkId,
    "  endpoint_url: " ++ redact p.endpointUrl,
    "  shard_id:     " ++ Decimal.ofNat p.network.shardId.toNat,
    "  chain_id:     " ++ Decimal.ofNat p.network.chainId.toNat,
    "  mnemonic:     " ++ redactSecret p.credential.mnemonic,
    "  private_key:  " ++ redactSecret p.credential.privateKey,
    "  gas_limit:    " ++ Decimal.ofNat p.gas.limit.toNat,
    "  gas_price:    " ++ Decimal.ofNat p.gas.price.toNat]

/-- The lines about the problems of a network. -/
def checkLines (n : Profile.Network) (problems : List String) : List String :=
  ((if problems.isEmpty then "✓ " else "✗ ") ++ n.name) :: problems.map ("   - " ++ ·)

/-- The lines about a benchmark. -/
def benchLines (m : Rpc.Method) (s : Bench.Summary) (elapsed : Span) : List String :=
  ["=== Benchmark: " ++ m.name ++ " ===",
    "  requests:       " ++ Decimal.ofNat s.processed,
    "  failures:       " ++ Decimal.ofNat s.failures,
    "  average:        " ++ Decimal.ofNat s.average.toMillis ++ " ms",
    "  total elapsed:  " ++ Decimal.ofNat elapsed.toMillis ++ " ms"]

/-- The line about the figures of one method. -/
def figuresLine (name : String) (f : Bench.Figures) : String :=
  "  " ++ padEnd 32 name ++ " " ++ padStart 6 (Decimal.ofNat f.responses.toNat) ++ " responses  "
    ++ Decimal.ofNat f.failures.toNat ++ " failures  avg " ++ f.average

/-- The lines about a stress run. -/
def stressLines (r : Bench.StressReport) (path : String) : List String :=
  ("=== Stress: " ++ r.network ++ " ===") :: r.methods.map (fun (name, f) => figuresLine name f)
    ++ ["Report written to " ++ path]

/-- The lines printed when no command is named. -/
def overviewLines : List String :=
  ["No command specified. Use --help for usage information.",
    "Available commands:",
    "  run               - Run the account and protocol suites",
    "  profile show      - Print a resolved network profile",
    "  profile check     - Check every network's environment",
    "  bench             - Benchmark a single method",
    "  stress            - Benchmark every method and write a report",
    "  config validate   - Validate configuration"]

/-- The line that tells the version. -/
def versionLine : String := "hmy-probe-cli 0.1.0"

/-- The line about how the program is called. -/
def usageLine : String := "Usage: hmy-probe [OPTIONS] [COMMAND]"

/-- The lines printed when help is asked for. -/
def helpLines : List String :=
  ["hmy-probe - Harmony JSON-RPC verification harness", "", usageLine, "",
    "Commands:",
    "  run [--address A] [--report FILE] [--strict]",
    "                   Run the account and protocol suites against the node",
    "  profile show NETWORK",
    "                   Resolve one network and print its profile with secrets redacted",
    "  profile check    Check the environment of every network",
    "  bench [--method M] [--address A] [--requests N] [--concurrency N]",
    "                   Send one method repeatedly with bounded concurrency",
    "  stress [--address A] [--requests N] [--concurrency N] [--report FILE]",
    "                   Benchmark every known method in turn and write a stress report",
    "  config validate  Validate configuration file and network environment", "",
    "Options:",
    "  --net-url URL            Node JSON-RPC endpoint URL (overrides the config file)",
    "  --config FILE            Path to probe configuration file (TOML format)",
    "  --logging-format FORMAT  Log output format: standard or json",
    "  -h, --help               Print help",
    "  -V, --version            Print version"]

/-- The lines printed when a command line cannot be read. -/
def usageErrorLines : List String :=
  ["error: the command line cannot be read", "", usageLine, "",
    "For more information, try '--help'."]

end NodeAudit.Cli
