import NodeAudit.Bench.Summary

/-!
# Scheduling the sends of a benchmark

A benchmark sends one request many times and lets a limited number of sends be in flight. While it
runs it may start a further send as long as fewer than the limit are in flight (`Progress.start`),
and any send in flight may finish (`Progress.finish?`). `Step` is the relation of all that may
happen next. `run` follows one schedule, set by the pace of the node: sends either finish as they
start or stay in flight until no other may start.
-/

namespace NodeAudit.Bench

/-- How many requests are sent, and how many may be in flight. -/
structure Plan where
  requests : Nat
  maxConcurrent : Nat
  maxConcurrent_pos : 0 < maxConcurrent
deriving DecidableEq, Repr

/-- The plan, or the failure of one that lets nothing be in flight. -/
def Plan.make (requests maxConcurrent : Nat) : Except Failure Plan :=
  if h : 0 < maxConcurrent then .ok ⟨requests, maxConcurrent, h⟩
  else .error (.configuration "max_concurrent must be greater than 0")

/-- A benchmark that is running, over a transport with states `σ`. -/
structure Progress (σ : Type) where
  world : σ
  started : Nat := 0
  inFlight : List Rpc.Sent := []
  /-- The greatest number of sends in flight at once. -/
  peak : Nat := 0
  summary : Summary := {}

namespace Progress

variable {σ : Type}

/-- Start one more send. -/
def start (transport : Rpc.Transport σ) (request : Rpc.Request) (p : Progress σ) : Progress σ :=
  let (sent, world) := transport.send p.world request
  { p with
    world, started := p.started + 1, inFlight := p.inFlight ++ [sent],
    peak := max p.peak (p.inFlight.length + 1) }

/-- Finish the send at index `i` of those in flight; `none` if the sum of the times exceeds the
largest span. -/
def finish? (p : Progress σ) (i : Nat) (h : i < p.inFlight.length) : Option (Progress σ) :=
  (p.summary.add? p.inFlight[i]).map fun summary =>
    { p with inFlight := p.inFlight.eraseIdx i, summary }

/-- Finish all sends in flight, the oldest first. -/
def finishAll? (p : Progress σ) : Option (Progress σ) :=
  (p.inFlight.foldlM Summary.add? p.summary).map fun summary => { p with inFlight := [], summary }

/-- Nothing remains to be sent or to finish. -/
def IsDone (plan : Plan) (p : Progress σ) : Prop := p.started = plan.requests ∧ p.inFlight = []

end Progress

/-- What may happen next in a benchmark. -/
inductive Step {σ : Type} (transport : Rpc.Transport σ) (plan : Plan) (request : Rpc.Request) :
    Progress σ → Progress σ → Prop where
  | start {p : Progress σ} (hn : p.started < plan.requests)
      (hc : p.inFlight.length < plan.maxConcurrent) :
      Step transport plan request p (p.start transport request)
  | finish {p q : Progress σ} (i : Nat) (h : i < p.inFlight.length) (hq : p.finish? i h = some q) :
      Step transport plan request p q

/-- When the sends of a benchmark finish. -/
inductive Pace where
  /-- A send finishes as it starts. -/
  | immediate
  /-- A send is in flight until no other may start. -/
  | pending
deriving DecidableEq, Repr

/-- Send the request so many more times; `none` if the sum of the times exceeds the largest span. -/
def runFrom {σ : Type} (transport : Rpc.Transport σ) (pace : Pace) (limit : Nat)
    (request : Rpc.Request) : Nat → Progress σ → Option (Progress σ)
  | 0, p => p.finishAll?
  | more + 1, p =>
    let p := p.start transport request
    if pace = .pending ∧ p.inFlight.length < limit then
      runFrom transport pace limit request more p
    else
      match h : p.inFlight with
      | [] => runFrom transport pace limit request more p
      | _ :: _ =>
        match p.finish? 0 (by simp [h]) with
        | some p => runFrom transport pace limit request more p
        | none => none

/-- Run the whole plan; `none` if the sum of the times exceeds the largest span. -/
def Plan.run {σ : Type} (plan : Plan) (transport : Rpc.Transport σ) (pace : Pace)
    (request : Rpc.Request) (world : σ) : Option (Progress σ) :=
  runFrom transport pace plan.maxConcurrent request plan.requests { world }

end NodeAudit.Bench
