import NodeAudit.Bench.Stress
import NodeAudit.Proofs.Bench.Schedule

/-!
# Stress runs without failures

Where no send of a request fails, every run of a benchmark ends, unless its times add up to more
than the largest span, and counts no failure, whatever its schedule (`Ends.of_quiet`). A stress run
keeps that from method to method (`StressRun.add?_clean`).

Main statement: `Plan.stress_clean`.
-/

namespace NodeAudit.Bench

variable {σ : Type} {transport : Rpc.Transport σ} {plan : Plan} {request : Rpc.Request} {world : σ}
  {nanos : Nat}

/-- No send of the request fails, and none takes longer than the time. -/
def Quiet (transport : Rpc.Transport σ) (request : Rpc.Request) (nanos : Nat) : Prop :=
  ∀ world, (transport.send world request).1.isFailure = false ∧
    (transport.send world request).1.duration.toNanos ≤ nanos

/-! ## One benchmark -/

theorem failureCount_answers (h : Quiet transport request nanos) (n : Nat) :
    failureCount (answers transport request world n) = 0 := by
  induction n with
  | zero => rfl
  | succ n ih =>
    rw [failureCount] at ih ⊢
    rw [answers_succ, List.countP_append, ih, List.countP_singleton, answer, (h _).1]
    rfl

theorem totalNanos_answers_le (h : Quiet transport request nanos) (n : Nat) :
    totalNanos (answers transport request world n) ≤ n * nanos := by
  induction n with
  | zero => exact Nat.zero_le _
  | succ n ih =>
    obtain ⟨hok, hle⟩ := h (worldAfter transport request world n)
    have hlast : totalNanos [answer transport request world n] ≤ nanos := by
      simpa [totalNanos, countedNanos, answer, hok] using hle
    rw [answers_succ, totalNanos_append, Nat.succ_mul]
    omega

/-- However the sends are scheduled, a benchmark without failures counts none. -/
theorem Ends.of_quiet (h : Quiet transport request nanos)
    (hspan : plan.requests * nanos ≤ Span.largest.toNanos) {e : Option (Progress σ)}
    (he : Ends transport plan request { world } e) :
    ∃ p, e = some p ∧ p.summary.processed = plan.requests ∧ p.summary.failures = 0 := by
  have htotal : totalNanos (answers transport request world plan.requests)
      ≤ plan.requests * nanos := totalNanos_answers_le h plan.requests
  cases e with
  | none =>
    have hlt := (he.eq_none_iff .init).1 rfl
    omega
  | some p =>
    obtain ⟨-, haccounts⟩ := he.accounts .init p rfl
    refine ⟨p, rfl, ?_, ?_⟩
    · rw [haccounts.processed, length_answers]
    · rw [haccounts.failures, failureCount_answers h]

/-! ## Stress runs -/

/-- The figures are those of so many sends without a failure. -/
def Figures.IsClean (requests : Nat) (f : Figures) : Prop :=
  f.responses = UInt64.ofNat requests ∧ f.failures = 0

/-- There are figures of the methods, and none counts a failure. -/
structure StressRun.IsClean (plan : Plan) (methods : List Rpc.Method) (s : StressRun σ) : Prop where
  exists_figures : ∀ m ∈ methods, ∃ f, s.methods.get? m.name = some f ∧ f.IsClean plan.requests
  failures : ∀ e ∈ s.methods, e.2.failures = 0

/-- The request that a stress run sends for a method. -/
def requestOf (address : String) (id : UInt64) (m : Rpc.Method) : Rpc.Request :=
  .make m.name (m.defaultParams address) id

variable {address : String} {id : UInt64} {methods : List Rpc.Method} {s : StressRun σ}
  {m : Rpc.Method}

theorem StressRun.add?_clean (pace : Pace)
    (h : Quiet transport (requestOf address id m) nanos)
    (hspan : plan.requests * nanos ≤ Span.largest.toNanos) (hs : s.IsClean plan methods) :
    ∃ s', s.add? plan transport pace address id m = some s' ∧
      s'.IsClean plan (methods ++ [m]) := by
  obtain ⟨p, hp, hprocessed, hfailures⟩ := Ends.of_quiet h hspan
    (plan.run_ends transport pace (requestOf address id m) s.world)
  have hfigures : (Figures.ofSummary p.summary).IsClean plan.requests := by
    rw [Figures.ofSummary, hprocessed, hfailures]
    exact ⟨rfl, rfl⟩
  refine ⟨{ world := p.world, peak := max s.peak p.peak,
            methods := s.methods.insert m.name (Figures.ofSummary p.summary) }, ?_, ?_, ?_⟩
  · rw [requestOf] at hp
    rw [add?, hp]
    rfl
  · intro m' hm'
    by_cases hname : m'.name = m.name
    · exact ⟨_, hname ▸ Entries.get?_insert_self _ _ _, hfigures⟩
    · rcases List.mem_append.1 hm' with hm' | hm'
      · obtain ⟨f, hf, hclean⟩ := hs.exists_figures m' hm'
        exact ⟨f, (Entries.get?_insert_of_ne hname _ _).trans hf, hclean⟩
      · obtain rfl := List.mem_singleton.1 hm'
        exact absurd rfl hname
  · intro e he
    rcases Entries.mem_of_mem_insert he with rfl | he
    · exact hfigures.2
    · exact hs.failures e he

theorem StressRun.foldlM_clean (pace : Pace)
    (hspan : plan.requests * nanos ≤ Span.largest.toNanos)
    (hs : s.IsClean plan methods) (more : List Rpc.Method)
    (h : ∀ m ∈ more, Quiet transport (requestOf address id m) nanos) :
    ∃ s', more.foldlM (StressRun.add? plan transport pace address id) s = some s' ∧
      s'.IsClean plan (methods ++ more) := by
  induction more generalizing methods s with
  | nil => exact ⟨s, rfl, by rwa [List.append_nil]⟩
  | cons m more ih =>
    obtain ⟨hm, hmore⟩ := List.forall_mem_cons.1 h
    obtain ⟨s', hadd, hclean⟩ := add?_clean pace hm hspan hs
    obtain ⟨s'', hfold, hclean'⟩ := ih hclean hmore
    refine ⟨s'', ?_, ?_⟩
    · rw [List.foldlM_cons, hadd]
      exact hfold
    · rwa [List.append_assoc] at hclean'

theorem StressReport.totalFailures_eq_zero {r : StressReport}
    (h : ∀ e ∈ r.methods, e.2.failures = 0) : r.totalFailures = 0 := by
  rw [totalFailures]
  generalize r.methods = entries at h
  induction entries with
  | nil => rfl
  | cons e rest ih =>
    obtain ⟨he, hrest⟩ := List.forall_mem_cons.1 h
    rw [List.foldl_cons, he]
    exact ih hrest

/-- **A stress run in which no send fails.** It comes to an end, unless the times add up to more
than the largest span; its report has figures of every method and counts no failure. -/
theorem Plan.stress_clean (pace : Pace)
    (hspan : plan.requests * nanos ≤ Span.largest.toNanos) (methods : List Rpc.Method) (world : σ)
    (h : ∀ m ∈ methods, Quiet transport (requestOf address id m) nanos) :
    ∃ r s, plan.stress transport pace methods address id world = some (r, s) ∧
      r.totalFailures = 0 ∧
      ∀ m ∈ methods, ∃ f, r.methods.get? m.name = some f ∧ f.IsClean plan.requests := by
  have hinit : StressRun.IsClean plan [] { world, peak := 0, methods := [] } :=
    ⟨List.forall_mem_nil _, List.forall_mem_nil _⟩
  obtain ⟨s, hfold, hclean⟩ := StressRun.foldlM_clean pace hspan hinit methods h
  refine ⟨{ addressUsed := address, network := redact transport.endpoint, methods := s.methods },
    s, ?_, ?_, ?_⟩
  · rw [stress, hfold]
    rfl
  · exact StressReport.totalFailures_eq_zero hclean.failures
  · exact hclean.exists_figures

end NodeAudit.Bench
