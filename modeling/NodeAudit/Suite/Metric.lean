import NodeAudit.Json.Decode
import NodeAudit.Span

/-!
# Metrics

The account of one scenario in a report: its call, whether it passed, how long it took, and what was
wrong.
-/

namespace NodeAudit.Suite

/-- The account of one scenario. -/
structure Metric where
  method : String
  test : String
  pass : Bool
  duration : String
  error : Option String := none
  params : List Json := []
deriving BEq, Repr

namespace Metric

/-- The account of a scenario that passed. -/
def passed (method test : String) (time : Span) (params : List Json) : Metric :=
  { method, test, pass := true, duration := time.millisText, params }

/-- The account of a scenario that failed. -/
def failed (method test : String) (time : Span) (params : List Json) (error : String) : Metric :=
  { method, test, pass := false, duration := time.millisText, error := some error, params }

/-- The metric as an object. An error that is absent and an empty list of parameters are not
written. -/
def toJson (m : Metric) : Json :=
  .object ([("method", .string m.method), ("test", .string m.test), ("pass", .bool m.pass),
      ("duration", .string m.duration)]
    ++ (m.error.map fun e => ("error", .string e)).toList
    ++ (if m.params.isEmpty then [] else [("params", .array m.params)]))

/-- What has been read of a metric. -/
structure Fields where
  method : Option String := none
  test : Option String := none
  pass : Option Bool := none
  duration : Option String := none
  error : Option (Option String) := none
  params : Option (List Json) := none

/-- How the fields of a metric are read. -/
def fields (opened : Nat) : List (Document.Field Fields) :=
  [{ name := "method", required := true, get := (·.method),
     set := fun s v => { s with method := some v }, decode := Document.text },
   { name := "test", required := true, get := (·.test),
     set := fun s v => { s with test := some v }, decode := Document.text },
   { name := "pass", required := true, get := (·.pass),
     set := fun s v => { s with pass := some v }, decode := Document.flag },
   { name := "duration", required := true, get := (·.duration),
     set := fun s v => { s with duration := some v }, decode := Document.text },
   { name := "error", required := false, get := (·.error),
     set := fun s v => { s with error := some v }, decode := Document.optional Document.text },
   { name := "params", required := false, get := (·.params),
     set := fun s v => { s with params := some v },
     decode := Document.list (Document.any (opened + 2)) }]

/-- Read a metric inside `opened` containers. -/
def decode (origin : Origin) (opened : Nat) (d : Document) : Decoded Metric := do
  let s ← d.record origin "struct TestMetric" (fields opened) {}
  return { method := ← Document.require "method" s.method,
           test := ← Document.require "test" s.test,
           pass := ← Document.require "pass" s.pass,
           duration := ← Document.require "duration" s.duration,
           error := s.error.join, params := s.params.getD [] }

end Metric

end NodeAudit.Suite
