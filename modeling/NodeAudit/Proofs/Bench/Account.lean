import Mathlib.Algebra.Ring.Nat
import NodeAudit.Bench.Schedule
import NodeAudit.Proofs.Rpc.Sequence

/-!
# What a summary accounts for

`answers` lists what comes of the first sends of a request, in the order in which they are started.
`Accounts s l` says that the summary `s` accounts for the sends `l`: it counts all of them and their
failures, and adds up the times of the others.

* `Accounts.add?`: counting one more send accounts for it.
* `Accounts.add?_eq_none_iff`: counting fails when the times add up to more than the largest span.
* `Accounts.perm`, `Accounts.unique`: the order of the sends does not matter, and what they are
  determines the summary.
-/

namespace NodeAudit.Bench

variable {σ : Type}

/-! ## The answers of the node -/

section
variable (transport : Rpc.Transport σ) (request : Rpc.Request) (world : σ)

/-- The state of the transport when `k` sends have been started. -/
def worldAfter (k : Nat) : σ := (transport.sendAll (List.replicate k request) world).2

/-- What comes of the send that is started after `k` others. -/
def answer (k : Nat) : Rpc.Sent := (transport.send (worldAfter transport request world k) request).1

/-- What comes of the first `n` sends. -/
def answers (n : Nat) : List Rpc.Sent := (transport.sendAll (List.replicate n request) world).1

theorem worldAfter_succ (k : Nat) :
    worldAfter transport request world (k + 1)
      = (transport.send (worldAfter transport request world k) request).2 := by
  rw [worldAfter, List.replicate_succ', Rpc.Transport.sendAll_append]
  rfl

theorem length_answers (n : Nat) : (answers transport request world n).length = n := by
  rw [answers, Rpc.Transport.length_sendAll, List.length_replicate]

theorem answers_succ (n : Nat) :
    answers transport request world (n + 1)
      = answers transport request world n ++ [answer transport request world n] := by
  rw [answers, List.replicate_succ', Rpc.Transport.sendAll_append]
  rfl

end

/-! ## Counting sends -/

/-- How many of the sends failed. -/
def failureCount (sends : List Rpc.Sent) : Nat := sends.countP (·.isFailure)

/-- The nanoseconds of a send that count: those of its reply if it succeeded. -/
def countedNanos (sent : Rpc.Sent) : Nat := if sent.isFailure then 0 else sent.duration.toNanos

/-- The nanoseconds of the sends that succeeded. -/
def totalNanos (sends : List Rpc.Sent) : Nat := (sends.map countedNanos).sum

theorem totalNanos_append (l l' : List Rpc.Sent) :
    totalNanos (l ++ l') = totalNanos l + totalNanos l' := by
  simp [totalNanos]

theorem totalNanos_perm {l l' : List Rpc.Sent} (h : l.Perm l') : totalNanos l = totalNanos l' :=
  (h.map countedNanos).sum_nat

theorem totalNanos_answers_mono (transport : Rpc.Transport σ) (request : Rpc.Request) (world : σ)
    {k n : Nat} (h : k ≤ n) :
    totalNanos (answers transport request world k)
      ≤ totalNanos (answers transport request world n) := by
  induction h with
  | refl => exact Nat.le_refl _
  | step _ ih =>
    rw [answers_succ, totalNanos_append]
    exact Nat.le_add_right_of_le ih

/-- The summary accounts for the sends. -/
structure Accounts (s : Summary) (sends : List Rpc.Sent) : Prop where
  processed : s.processed = sends.length
  failures : s.failures = failureCount sends
  total : s.total.toNanos = totalNanos sends

namespace Accounts

variable {s s' : Summary} {l l' : List Rpc.Sent}

theorem nil : Accounts {} [] := ⟨rfl, rfl, Span.toNanos_zero⟩

/-- The sends that a summary accounts for do not take more than the largest span. -/
theorem totalNanos_le (h : Accounts s l) : totalNanos l ≤ Span.largest.toNanos :=
  h.total ▸ s.total.toNanos_le_largest

theorem perm (h : Accounts s l) (hl : l.Perm l') : Accounts s l' :=
  ⟨h.processed.trans hl.length_eq, h.failures.trans (hl.countP_eq _),
    h.total.trans (totalNanos_perm hl)⟩

theorem unique (h : Accounts s l) (h' : Accounts s' l) : s = s' := by
  obtain ⟨processed, failures, total⟩ := s
  obtain ⟨processed', failures', total'⟩ := s'
  obtain rfl : processed = processed' := h.processed.trans h'.processed.symm
  obtain rfl : failures = failures' := h.failures.trans h'.failures.symm
  obtain rfl : total = total' := Span.toNanos_injective (h.total.trans h'.total.symm)
  rfl

end Accounts

/-- What counting one more send does: a failure is only counted, and a success adds its time. -/
theorem Summary.add?_eq (s : Summary) (sent : Rpc.Sent) :
    s.add? sent =
      if sent.isFailure then
        some { s with processed := s.processed + 1, failures := s.failures + 1 }
      else (s.total.add? sent.duration).map fun total =>
        { s with processed := s.processed + 1, total } := by
  unfold Summary.add? Rpc.Sent.isFailure Rpc.Sent.duration
  cases sent.answer with
  | ok reply => rfl
  | error f => rfl

namespace Accounts

variable {s s' : Summary} {l : List Rpc.Sent} {sent : Rpc.Sent}

theorem add? (h : Accounts s l) (hs : s.add? sent = some s') : Accounts s' (l ++ [sent]) := by
  have hlen : (l ++ [sent]).length = l.length + 1 := by simp
  rw [Summary.add?_eq] at hs
  split at hs
  · rename_i hf
    obtain rfl := Option.some.inj hs
    refine ⟨by rw [hlen, ← h.processed], ?_, ?_⟩
    · simp [failureCount, hf, h.failures]
    · simp [totalNanos, countedNanos, hf, h.total]
  · rename_i hf
    obtain ⟨total, ht, rfl⟩ := Option.map_eq_some_iff.1 hs
    refine ⟨by rw [hlen, ← h.processed], ?_, ?_⟩
    · simp [failureCount, hf, h.failures]
    · simp [totalNanos, countedNanos, hf, h.total,
        Span.toNanos_eq_of_add? ht]

theorem add?_eq_none_iff (h : Accounts s l) :
    s.add? sent = none ↔ Span.largest.toNanos < totalNanos (l ++ [sent]) := by
  have hle := h.totalNanos_le
  rw [Summary.add?_eq, totalNanos_append]
  split
  · rename_i hf
    simp [totalNanos, countedNanos, hf] at hle ⊢
    omega
  · rename_i hf
    rw [Option.map_eq_none_iff, Span.add?_eq_none_iff, h.total]
    simp [totalNanos, countedNanos, hf]

end Accounts

end NodeAudit.Bench
