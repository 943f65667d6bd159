import NodeAudit.Json.Decode
import NodeAudit.Rpc.Transport

/-!
# Summaries of a benchmark

A summary counts the sends of a benchmark and adds up the times of those that succeeded. The average
is the mean over the successes, rounded down to a nanosecond; it is zero if there are none or more
than thirty-two bits can count. `Figures` is what a report keeps of a summary.
-/

namespace NodeAudit.Bench

/-- What came of the sends of a benchmark. -/
structure Summary where
  processed : Nat := 0
  failures : Nat := 0
  /-- The sum of the times of the sends that succeeded. -/
  total : Span := Span.zero
deriving DecidableEq, Repr

namespace Summary

/-- Count one more send; `none` if the sum of the times exceeds the largest span. -/
def add? (s : Summary) (sent : Rpc.Sent) : Option Summary :=
  match sent.answer with
  | .ok reply =>
    if reply.response.isError then
      some { s with processed := s.processed + 1, failures := s.failures + 1 }
    else
      (s.total.add? reply.time).map fun total => { s with processed := s.processed + 1, total }
  | .error _ => some { s with processed := s.processed + 1, failures := s.failures + 1 }

/-- How many sends succeeded. -/
def succeeded (s : Summary) : Nat := s.processed - s.failures

/-- The mean time of the sends that succeeded. -/
def average (s : Summary) : Span :=
  if h : 0 < s.succeeded ∧ s.succeeded < UInt32.size then s.total.div s.succeeded h.1 else Span.zero

end Summary

/-- What a report keeps of a summary. -/
structure Figures where
  average : String
  responses : UInt64
  failures : UInt64
deriving DecidableEq, Repr

namespace Figures

/-- The figures of a summary. -/
def ofSummary (s : Summary) : Figures :=
  { average := s.average.text, responses := UInt64.ofNat s.processed,
    failures := UInt64.ofNat s.failures }

/-- The figures as an object. -/
def toJson (f : Figures) : Json :=
  .object [("Average", .string f.average), ("Responses", .ofNat f.responses.toNat),
    ("Failures", .ofNat f.failures.toNat)]

/-- What has been read of figures. -/
structure Fields where
  average : Option String := none
  responses : Option UInt64 := none
  failures : Option UInt64 := none

/-- How figures are read. -/
def fields : List (Document.Field Fields) :=
  [{ name := "Average", required := true, get := (·.average),
     set := fun s v => { s with average := some v }, decode := Document.text },
   { name := "Responses", required := true, get := (·.responses),
     set := fun s v => { s with responses := some v }, decode := Document.uint64 "usize" },
   { name := "Failures", required := true, get := (·.failures),
     set := fun s v => { s with failures := some v }, decode := Document.uint64 "usize" }]

/-- Read figures. -/
def decode (origin : Origin) (d : Document) : Decoded Figures := do
  let s ← d.record origin "struct MethodResult" fields {}
  return { average := ← Document.require "Average" s.average,
           responses := ← Document.require "Responses" s.responses,
           failures := ← Document.require "Failures" s.failures }

end Figures

end NodeAudit.Bench
