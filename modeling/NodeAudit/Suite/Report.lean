import NodeAudit.Suite.Run

/-!
# Reports of a suite

The report of a run lists a metric for each scenario. The address of the node stands in it without
credentials. A report is written as indented JSON (`Report.pretty`) and read back by
`Report.decode`.
-/

namespace NodeAudit.Suite

/-- The report of a run. -/
structure Report where
  addressUsed : String
  network : String
  generatedAt : String
  metrics : List Metric
deriving BEq, Repr

namespace Report

/-- The report of outcomes; the network stands in it without credentials. -/
def ofOutcomes (address network generatedAt : String) (outcomes : List Outcome) : Report :=
  { addressUsed := address, network := redact network, generatedAt,
    metrics := outcomes.map (·.metric) }

/-- How many scenarios passed. -/
def passed (r : Report) : Nat := (r.metrics.filter (·.pass)).length

/-- How many scenarios failed. -/
def failed (r : Report) : Nat := r.metrics.length - r.passed

/-- Every scenario passed. -/
def allPassed (r : Report) : Bool := r.metrics.all (·.pass)

/-- The report as an object. -/
def toJson (r : Report) : Json :=
  .object [("addressUsed", .string r.addressUsed), ("network", .string r.network),
    ("generatedAt", .string r.generatedAt), ("metrics", .array (r.metrics.map Metric.toJson))]

/-- The text of the report in a file. -/
def pretty (r : Report) : String := r.toJson.pretty

/-- What has been read of a report. -/
structure Fields where
  addressUsed : Option String := none
  network : Option String := none
  generatedAt : Option String := none
  metrics : Option (List Metric) := none

/-- How the fields of a report are read. -/
def fields (origin : Origin) (opened : Nat) : List (Document.Field Fields) :=
  [{ name := "addressUsed", required := true, get := (·.addressUsed),
     set := fun s v => { s with addressUsed := some v }, decode := Document.text },
   { name := "network", required := true, get := (·.network),
     set := fun s v => { s with network := some v }, decode := Document.text },
   { name := "generatedAt", required := true, get := (·.generatedAt),
     set := fun s v => { s with generatedAt := some v }, decode := Document.text },
   { name := "metrics", required := true, get := (·.metrics),
     set := fun s v => { s with metrics := some v },
     decode := Document.list (Metric.decode origin (opened + 2)) }]

/-- Read a report inside `opened` containers. -/
def decode (origin : Origin) (opened : Nat) (d : Document) : Decoded Report := do
  let s ← d.record origin "struct TestReport" (fields origin opened) {}
  return { addressUsed := ← Document.require "addressUsed" s.addressUsed,
           network := ← Document.require "network" s.network,
           generatedAt := ← Document.require "generatedAt" s.generatedAt,
           metrics := ← Document.require "metrics" s.metrics }

end Report

end NodeAudit.Suite
