import NodeAudit.Bench.Schedule
import NodeAudit.Rpc.Method

/-!
# Stress runs

A stress run benchmarks one method after the other with parameters that the node accepts, and
reports the figures of each by name. If a method is listed twice the figures of its last benchmark
stay. The report is written as indented JSON (`StressReport.pretty`) and read back by
`StressReport.decode`.
-/

namespace NodeAudit.Bench

/-- The report of a stress run. -/
structure StressReport where
  addressUsed : String
  network : String
  methods : Entries Figures
deriving DecidableEq, Repr

namespace StressReport

/-- The failures of all methods, counted in a word of 64 bits. -/
def totalFailures (r : StressReport) : UInt64 :=
  r.methods.foldl (fun n m => n + m.2.failures) 0

/-- The report as an object. -/
def toJson (r : StressReport) : Json :=
  .object [("addressUsed", .string r.addressUsed), ("network", .string r.network),
    ("Methods", .object (r.methods.map fun m => (m.1, m.2.toJson)))]

/-- The text of the report in a file. -/
def pretty (r : StressReport) : String := r.toJson.pretty

/-- Read the figures of each method; of a repeated name the last figures stay. -/
def decodeMethods (origin : Origin) (d : Document) : Decoded (Entries Figures) :=
  match d with
  | .object members closed => do
    let entries ← members.mapM fun (name?, d) =>
      match name? with
      | some name => do return (name, ← Figures.decode origin d)
      | none => .error .malformed
    if closed then return Entries.sort entries else throw .malformed
  | d => .error (d.mismatch "a map")

/-- What has been read of a report. -/
structure Fields where
  addressUsed : Option String := none
  network : Option String := none
  methods : Option (Entries Figures) := none

/-- How the fields of a report are read. -/
def fields (origin : Origin) : List (Document.Field Fields) :=
  [{ name := "addressUsed", required := true, get := (·.addressUsed),
     set := fun s v => { s with addressUsed := some v }, decode := Document.text },
   { name := "network", required := true, get := (·.network),
     set := fun s v => { s with network := some v }, decode := Document.text },
   { name := "Methods", required := true, get := (·.methods),
     set := fun s v => { s with methods := some v }, decode := decodeMethods origin }]

/-- Read a report. -/
def decode (origin : Origin) (d : Document) : Decoded StressReport := do
  let s ← d.record origin "struct StressReport" (fields origin) {}
  return { addressUsed := ← Document.require "addressUsed" s.addressUsed,
           network := ← Document.require "network" s.network,
           methods := ← Document.require "Methods" s.methods }

end StressReport

/-- What a stress run has come to. -/
structure StressRun (σ : Type) where
  world : σ
  /-- The greatest number of sends in flight at once. -/
  peak : Nat
  methods : Entries Figures

/-- Benchmark one more method. -/
def StressRun.add? {σ : Type} (plan : Plan) (transport : Rpc.Transport σ) (pace : Pace)
    (address : String) (id : UInt64) (s : StressRun σ) (m : Rpc.Method) : Option (StressRun σ) := do
  let p ← plan.run transport pace (Rpc.Request.make m.name (m.defaultParams address) id) s.world
  return { world := p.world, peak := max s.peak p.peak,
           methods := s.methods.insert m.name (Figures.ofSummary p.summary) }

/-- Benchmark the methods in order; `none` if the sum of the times of one exceeds the largest
span. -/
def Plan.stress {σ : Type} (plan : Plan) (transport : Rpc.Transport σ) (pace : Pace)
    (methods : List Rpc.Method) (address : String) (id : UInt64) (world : σ) :
    Option (StressReport × StressRun σ) := do
  let s ← methods.foldlM (StressRun.add? plan transport pace address id)
    { world, peak := 0, methods := [] }
  return ({ addressUsed := address, network := redact transport.endpoint, methods := s.methods }, s)

end NodeAudit.Bench
