import Mathlib.Data.List.Perm.Basic
import Mathlib.Logic.Relation
import NodeAudit.Proofs.Bench.Account

/-!
# Every schedule of a benchmark comes to the same

A benchmark may start a send whenever fewer than the limit are in flight, and any send in flight may
finish next (`Step`). `Inv` is what all these schedules keep: the sends that were counted and those
in flight are, in some order, the sends started so far (`Inv.step`). `Ends p e` says that a run from
`p` may end with `e`: with a state in which nothing remains to be done, or with `none` when the
times add up to more than the largest span.

Main statement: `run_independent_of_schedule`. The limits hold in every state of every run; every
run ends; whatever the schedule, it ends with the summary that accounts for all answers, or with
none if these take more than the largest span. `Plan.run_ends`: `Plan.run` follows one of the
schedules.
-/

namespace NodeAudit.Bench

variable {σ : Type}

/-- The plan that lets one send be in flight. -/
def Plan.sequential (plan : Plan) : Plan := ⟨plan.requests, 1, Nat.one_pos⟩

section
variable (transport : Rpc.Transport σ) (plan : Plan) (request : Rpc.Request)

/-- A run may come from one state to the other. -/
def Reaches : Progress σ → Progress σ → Prop :=
  Relation.ReflTransGen (Step transport plan request)

/-- A run from the state may end so. -/
inductive Ends : Progress σ → Option (Progress σ) → Prop where
  /-- Nothing remains to be done. -/
  | done {p : Progress σ} (h : p.IsDone plan) : Ends p (some p)
  /-- A send finishes whose time brings the sum beyond the largest span. -/
  | overflow {p : Progress σ} (i : Nat) (h : i < p.inFlight.length) (hn : p.finish? i h = none) :
      Ends p none
  | step {p q : Progress σ} {e : Option (Progress σ)} (hs : Step transport plan request p q)
      (he : Ends q e) : Ends p e

/-- What holds in every state of a run from the state `world` of the transport. -/
structure Inv (world : σ) (p : Progress σ) : Prop where
  started_le : p.started ≤ plan.requests
  inFlight_le : p.inFlight.length ≤ plan.maxConcurrent
  peak_le : p.peak ≤ min plan.requests plan.maxConcurrent
  world_eq : p.world = worldAfter transport request world p.started
  /-- The sends counted and those in flight are the sends started. -/
  account : ∃ counted, Accounts p.summary counted ∧
    (counted ++ p.inFlight).Perm (answers transport request world p.started)

end

variable {transport : Rpc.Transport σ} {plan : Plan} {request : Rpc.Request} {world : σ}

/-! ## What a step keeps -/

theorem finish?_eq_none_iff {p : Progress σ} {i : Nat} {h : i < p.inFlight.length} :
    p.finish? i h = none ↔ p.summary.add? p.inFlight[i] = none := by
  simp [Progress.finish?]

theorem finish?_eq_some {p q : Progress σ} {i : Nat} {h : i < p.inFlight.length}
    (hq : p.finish? i h = some q) :
    ∃ s, p.summary.add? p.inFlight[i] = some s ∧
      q = { p with inFlight := p.inFlight.eraseIdx i, summary := s } := by
  obtain ⟨s, hs, rfl⟩ := Option.map_eq_some_iff.1 hq
  exact ⟨s, hs, rfl⟩

/-- Counting a send in flight moves it from one part of the sends to the other. -/
theorem perm_finish {counted l : List Rpc.Sent} {i : Nat} (h : i < l.length) :
    ((counted ++ [l[i]]) ++ l.eraseIdx i).Perm (counted ++ l) := by
  rw [List.append_assoc]
  exact (List.getElem_cons_eraseIdx_perm h).append_left counted

namespace Inv

theorem init : Inv transport plan request world { world } where
  started_le := Nat.zero_le _
  inFlight_le := Nat.zero_le _
  peak_le := Nat.zero_le _
  world_eq := rfl
  account := ⟨[], .nil, .refl _⟩

theorem inFlight_le_started {p : Progress σ} (h : Inv transport plan request world p) :
    p.inFlight.length ≤ p.started := by
  obtain ⟨counted, -, hp⟩ := h.account
  have := hp.length_eq
  rw [List.length_append, length_answers] at this
  omega

theorem start {p : Progress σ} (h : Inv transport plan request world p)
    (hn : p.started < plan.requests) (hc : p.inFlight.length < plan.maxConcurrent) :
    Inv transport plan request world (p.start transport request) := by
  have hstarted := h.inFlight_le_started
  have hpeak := h.peak_le
  have hsent : (transport.send p.world request).1
      = answer transport request world p.started := by rw [answer, h.world_eq]
  refine ⟨hn, ?_, ?_, ?_, ?_⟩
  · simp only [Progress.start, List.length_append, List.length_singleton]
    omega
  · simp only [Progress.start]
    omega
  · simp only [Progress.start, worldAfter_succ, h.world_eq]
  · obtain ⟨counted, hs, hp⟩ := h.account
    refine ⟨counted, hs, ?_⟩
    simp only [Progress.start, answers_succ, hsent, ← List.append_assoc]
    exact hp.append_right _

theorem finish {p q : Progress σ} (h : Inv transport plan request world p) {i : Nat}
    {hi : i < p.inFlight.length} (hq : p.finish? i hi = some q) :
    Inv transport plan request world q := by
  obtain ⟨s, hs, rfl⟩ := finish?_eq_some hq
  refine ⟨h.started_le, ?_, h.peak_le, h.world_eq, ?_⟩
  · have hlen := List.length_eraseIdx_le p.inFlight i
    exact Nat.le_trans hlen h.inFlight_le
  · obtain ⟨counted, hc, hp⟩ := h.account
    exact ⟨counted ++ [p.inFlight[i]], hc.add? hs, (perm_finish hi).trans hp⟩

theorem step {p q : Progress σ} (h : Inv transport plan request world p)
    (hs : Step transport plan request p q) : Inv transport plan request world q := by
  cases hs with
  | start hn hc => exact h.start hn hc
  | finish i hi hq => exact h.finish hq

theorem reaches {p q : Progress σ} (h : Inv transport plan request world p)
    (hr : Reaches transport plan request p q) : Inv transport plan request world q := by
  induction hr with
  | refl => exact h
  | tail _ hs ih => exact ih.step hs

/-! ## What a run ends with -/

theorem accounts {p : Progress σ} (h : Inv transport plan request world p)
    (hd : p.IsDone plan) :
    Accounts p.summary (answers transport request world plan.requests) := by
  obtain ⟨counted, hc, hp⟩ := h.account
  rw [hd.1, hd.2, List.append_nil] at hp
  exact hc.perm hp

/-- A send whose time is too long for the sum is one of all sends. -/
theorem largest_lt {p : Progress σ} (h : Inv transport plan request world p) {i : Nat}
    {hi : i < p.inFlight.length} (hn : p.finish? i hi = none) :
    Span.largest.toNanos < totalNanos (answers transport request world plan.requests) := by
  obtain ⟨counted, hc, hp⟩ := h.account
  have hlt := hc.add?_eq_none_iff.1 (finish?_eq_none_iff.1 hn)
  have hperm : ((counted ++ [p.inFlight[i]]) ++ p.inFlight.eraseIdx i).Perm _ :=
    (perm_finish hi).trans hp
  have hsum := totalNanos_perm hperm
  have hmono := totalNanos_answers_mono transport request world h.started_le
  rw [totalNanos_append] at hsum
  omega

end Inv

/-- A run that ends with a state has done everything and accounts for all sends. -/
theorem Ends.accounts {p : Progress σ} {e : Option (Progress σ)}
    (h : Ends transport plan request p e) (hi : Inv transport plan request world p) :
    ∀ q, e = some q → q.IsDone plan ∧
      Accounts q.summary (answers transport request world plan.requests) := by
  induction h with
  | done hd =>
    rintro _ ⟨⟩
    exact ⟨hd, hi.accounts hd⟩
  | overflow => rintro _ ⟨⟩
  | step hs _ ih => exact ih (hi.step hs)

theorem Ends.world_eq {p : Progress σ} {e : Option (Progress σ)}
    (h : Ends transport plan request p e) (hi : Inv transport plan request world p) :
    ∀ q, e = some q → q.world = worldAfter transport request world q.started := by
  induction h with
  | done hd =>
    rintro _ ⟨⟩
    exact hi.world_eq
  | overflow => rintro _ ⟨⟩
  | step hs _ ih => exact ih (hi.step hs)

/-- A run ends with none exactly if the sends take more than the largest span. -/
theorem Ends.eq_none_iff {p : Progress σ} {e : Option (Progress σ)}
    (h : Ends transport plan request p e) (hi : Inv transport plan request world p) :
    e = none ↔
      Span.largest.toNanos < totalNanos (answers transport request world plan.requests) := by
  induction h with
  | done hd =>
    have hle := (hi.accounts hd).totalNanos_le
    simp only [reduceCtorEq, false_iff]
    omega
  | overflow i hl hn => simpa using hi.largest_lt hn
  | step hs _ ih => exact ih (hi.step hs)

/-! ## Every run ends -/

/-- How many steps remain at most: a start and a finish of each send. -/
def remaining (plan : Plan) (p : Progress σ) : Nat :=
  2 * (plan.requests - p.started) + p.inFlight.length

theorem remaining_lt {p q : Progress σ} (h : Step transport plan request p q) :
    remaining plan q < remaining plan p := by
  cases h with
  | start hn hc =>
    simp only [remaining, Progress.start, List.length_append, List.length_singleton]
    omega
  | finish i hi hq =>
    obtain ⟨s, -, rfl⟩ := finish?_eq_some hq
    simp only [remaining, List.length_eraseIdx, if_pos hi]
    omega

/-- A state is the end of a run, or some step leads on. -/
theorem Inv.ends_or_step {p : Progress σ} (h : Inv transport plan request world p) :
    (∃ e, Ends transport plan request p e) ∨ ∃ q, Step transport plan request p q := by
  have hle := h.started_le
  rcases Nat.eq_zero_or_pos p.inFlight.length with hz | hpos
  · rcases Nat.lt_or_ge p.started plan.requests with hn | hge
    · exact .inr ⟨_, .start hn (hz ▸ plan.maxConcurrent_pos)⟩
    · exact .inl ⟨_, .done ⟨by omega, List.length_eq_zero_iff.1 hz⟩⟩
  · cases hq : p.finish? 0 hpos with
    | none => exact .inl ⟨_, .overflow 0 hpos hq⟩
    | some q => exact .inr ⟨q, .finish 0 hpos hq⟩

theorem Inv.exists_ends {p : Progress σ} (h : Inv transport plan request world p) :
    ∃ e, Ends transport plan request p e := by
  induction hn : remaining plan p using Nat.strongRecOn generalizing p with
  | _ n ih =>
    rcases h.ends_or_step with he | ⟨q, hs⟩
    · exact he
    · obtain ⟨e, he⟩ := ih _ (hn ▸ remaining_lt hs) (h.step hs) rfl
      exact ⟨e, .step hs he⟩

theorem wellFounded_step :
    WellFounded fun q p : Progress σ => Step transport plan request p q :=
  Subrelation.wf (fun h => remaining_lt h) (measure (remaining plan)).wf

/-! ## The schedule of `Plan.run` -/

theorem finishAll?_ends {p : Progress σ} (h : p.started = plan.requests) :
    Ends transport plan request p p.finishAll? := by
  induction hl : p.inFlight generalizing p with
  | nil =>
    have hp : p.finishAll? = some p := by
      obtain ⟨world, started, inFlight, peak, summary⟩ := p
      obtain rfl : inFlight = [] := hl
      rfl
    rw [hp]
    exact .done ⟨h, hl⟩
  | cons sent rest ih =>
    have hpos : 0 < p.inFlight.length := by simp [hl]
    cases hq : p.finish? 0 hpos with
    | none =>
      have hn : p.finishAll? = none := by
        have hadd := finish?_eq_none_iff.1 hq
        simp only [hl, List.getElem_cons_zero] at hadd
        simp [Progress.finishAll?, hl, List.foldlM_cons, hadd]
      rw [hn]
      exact .overflow 0 hpos hq
    | some q =>
      obtain ⟨s, hadd, rfl⟩ := finish?_eq_some hq
      simp only [hl, List.getElem_cons_zero] at hadd
      have heq : p.finishAll?
          = Progress.finishAll? { p with inFlight := p.inFlight.eraseIdx 0, summary := s } := by
        simp [Progress.finishAll?, hl, List.foldlM_cons, hadd]
      rw [heq]
      refine .step (.finish 0 hpos hq) (ih h ?_)
      simp [hl]

theorem runFrom_ends {pace : Pace} {more : Nat} {p : Progress σ}
    (hm : p.started + more = plan.requests) (hc : p.inFlight.length < plan.maxConcurrent) :
    Ends transport plan request p (runFrom transport pace plan.maxConcurrent request more p) := by
  induction more generalizing p with
  | zero => exact finishAll?_ends hm
  | succ more ih =>
    refine .step (.start (by omega) hc) ?_
    have hstarted : (p.start transport request).started + more = plan.requests := by
      simp only [Progress.start]
      omega
    have hlen : (p.start transport request).inFlight.length = p.inFlight.length + 1 := by
      simp [Progress.start]
    rw [runFrom]
    split
    · rename_i hlt
      exact ih hstarted hlt.2
    · split
      · rename_i hnil
        simp [hnil] at hlen
      · split
        · rename_i q hq
          refine .step (.finish 0 (by omega) hq) (ih ?_ ?_)
          · obtain ⟨s, -, rfl⟩ := finish?_eq_some hq
            exact hstarted
          · obtain ⟨s, -, rfl⟩ := finish?_eq_some hq
            simp only [List.length_eraseIdx]
            split <;> omega
        · rename_i hq
          exact .overflow 0 (by omega) hq

/-- `Plan.run` follows one of the schedules. -/
theorem Plan.run_ends (plan : Plan) (transport : Rpc.Transport σ) (pace : Pace)
    (request : Rpc.Request) (world : σ) :
    Ends transport plan request { world } (plan.run transport pace request world) :=
  runFrom_ends (Nat.zero_add _) plan.maxConcurrent_pos

/-! ## The schedule does not matter -/

theorem Inv.inFlight_le_min {p : Progress σ} (h : Inv transport plan request world p) :
    p.inFlight.length ≤ min plan.requests plan.maxConcurrent :=
  Nat.le_min.2 ⟨Nat.le_trans h.inFlight_le_started h.started_le, h.inFlight_le⟩

theorem Ends.summary_eq {plan' : Plan} {e e' : Option (Progress σ)}
    (h : Ends transport plan request { world } e) (h' : Ends transport plan' request { world } e')
    (hn : plan'.requests = plan.requests) : e.map (·.summary) = e'.map (·.summary) := by
  have hnone := h.eq_none_iff .init
  have hnone' := h'.eq_none_iff .init
  rw [hn, ← hnone] at hnone'
  cases e with
  | none => rw [hnone'.2 rfl]
  | some p =>
    cases e' with
    | none => exact absurd (hnone'.1 rfl) (by simp)
    | some q =>
      have hp := (h.accounts .init p rfl).2
      have hq := (h'.accounts .init q rfl).2
      rw [hn] at hq
      exact congrArg some (hp.unique hq)

/-- **The schedule does not matter.** Whatever the transport answers to the sends and in whatever
order they finish: the limits of the plan hold in every state; a run that finishes has started all
sends, and its summary, that of the runs with one send in flight, counts them, their failures and
the times of the others; it ends with none exactly if these times exceed the largest span; and every
run ends. -/
theorem run_independent_of_schedule (transport : Rpc.Transport σ) (plan : Plan)
    (request : Rpc.Request) (world : σ) :
    let sends := answers transport request world plan.requests
    (∀ p, Reaches transport plan request { world } p →
      p.started ≤ plan.requests ∧
      p.inFlight.length ≤ min plan.requests plan.maxConcurrent ∧
      p.peak ≤ min plan.requests plan.maxConcurrent ∧
      ∃ e, Ends transport plan request p e) ∧
    WellFounded (fun q p : Progress σ => Step transport plan request p q) ∧
    (∀ p, Ends transport plan request { world } (some p) →
      p.started = plan.requests ∧ p.inFlight = [] ∧
      p.summary.processed = plan.requests ∧
      p.summary.failures = failureCount sends ∧
      p.summary.total.toNanos = totalNanos sends) ∧
    (∀ e, Ends transport plan request { world } e →
      (e = none ↔ Span.largest.toNanos < totalNanos sends) ∧
      ∀ e', Ends transport plan.sequential request { world } e' →
        e.map (·.summary) = e'.map (·.summary)) ∧
    ∀ pace, Ends transport plan request { world } (plan.run transport pace request world) := by
  refine ⟨fun p hp => ?_, wellFounded_step, fun p hp => ?_, fun e he => ⟨?_, fun e' he' => ?_⟩,
    fun pace => plan.run_ends transport pace request world⟩
  · have hi : Inv transport plan request world p := Inv.init.reaches hp
    exact ⟨hi.started_le, hi.inFlight_le_min, hi.peak_le, hi.exists_ends⟩
  · obtain ⟨hd, ha⟩ := hp.accounts .init p rfl
    refine ⟨hd.1, hd.2, ?_, ha.failures, ha.total⟩
    rw [ha.processed, length_answers]
  · exact he.eq_none_iff .init
  · exact he.summary_eq he' rfl

end NodeAudit.Bench
