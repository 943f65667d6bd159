import NodeAudit.Proofs.Rpc.Sequence
import NodeAudit.Suite.Report

/-!
# A run accounts for its scenarios one by one

`runPrepared_eq` splits a run into the sends, which depend on the requests alone, and the
judgements, each of one scenario and what came of its send. From this follow what is sent
(`runPrepared_recording`), what an outcome says of its scenario (`JudgedBy`), that nothing else has
a bearing on it (`getElem?_runPrepared_congr`), and what a report counts
(`Report.passed_ofOutcomes`).

Main statement: `runPrepared_account`.
-/

namespace NodeAudit.Suite

variable {σ : Type}

/-! ## Sends and judgements -/

section
variable (transport : Rpc.Transport σ) (options : Options)

theorem runPrepared_cons (s : Prepared) (rest : List Prepared) (world : σ) :
    runPrepared transport options (s :: rest) world
      = (options.judge s (transport.send world s.request).1 ::
          (runPrepared transport options rest (transport.send world s.request).2).1,
        (runPrepared transport options rest (transport.send world s.request).2).2) := rfl

/-- A run sends the requests one after the other and judges what comes of each. -/
theorem runPrepared_eq (scenarios : List Prepared) (world : σ) :
    runPrepared transport options scenarios world
      = (List.zipWith options.judge scenarios
          (transport.sendAll (scenarios.map (·.request)) world).1,
        (transport.sendAll (scenarios.map (·.request)) world).2) := by
  induction scenarios generalizing world with
  | nil => rfl
  | cons s rest ih =>
    simp only [runPrepared_cons, ih, List.map_cons, Rpc.Transport.sendAll_cons,
      List.zipWith_cons_cons]

/-- What is kept of a run are the requests of the scenarios, and keeping them changes nothing. -/
theorem runPrepared_recording (scenarios : List Prepared) (world : σ) (sent : List Rpc.Request) :
    runPrepared transport.recording options scenarios (world, sent)
      = ((runPrepared transport options scenarios world).1,
        (runPrepared transport options scenarios world).2, sent ++ scenarios.map (·.request)) := by
  induction scenarios generalizing world sent with
  | nil => simp [runPrepared]
  | cons s rest ih =>
    simp only [runPrepared_cons, Rpc.Transport.recording] at ih ⊢
    simp only [ih, List.map_cons, List.append_assoc, List.singleton_append]

theorem length_runPrepared (scenarios : List Prepared) (world : σ) :
    (runPrepared transport options scenarios world).1.length = scenarios.length := by
  rw [runPrepared_eq, List.length_zipWith, Rpc.Transport.length_sendAll, List.length_map,
    Nat.min_self]

theorem getElem?_runPrepared (scenarios : List Prepared) (world : σ) (i : Nat) :
    (runPrepared transport options scenarios world).1[i]?
      = scenarios[i]?.bind fun s =>
        (transport.sendAll (scenarios.map (·.request)) world).1[i]?.map (options.judge s) := by
  rw [runPrepared_eq, List.getElem?_zipWith]
  cases scenarios[i]? with
  | none => rfl
  | some s =>
    cases (transport.sendAll (scenarios.map (·.request)) world).1[i]? with
    | none => rfl
    | some x => rfl

end

/-! ## What an outcome says of its scenario -/

/-- The outcome is that of the scenario, judged by what came of its send. -/
structure JudgedBy (options : Options) (s : Prepared) (sent : Rpc.Sent) (o : Outcome) : Prop where
  method : o.metric.method = s.request.method
  test : o.metric.test = s.name
  params : o.metric.params = s.request.params
  duration : o.metric.duration = sent.duration.millisText
  /-- It passes exactly if a reply came whose response is as it must be. -/
  passed_iff : o.passed = true ↔
    ∃ reply, sent.answer = .ok reply ∧ options.verify s reply.response = .ok ()
  pass_eq : o.metric.pass = o.passed
  error_eq_none_iff : o.metric.error = none ↔ o.passed = true
  /-- The error is the message of what is wrong, without secrets. -/
  error_eq : ∀ f, o.error = some f → o.metric.error = some (redact f.text)
  /-- What is wrong is the failure of the send, or that of the check of its response. -/
  failure : ∀ f, o.error = some f ↔ options.verdict s sent = .error f

theorem verdict_eq_ok_iff (options : Options) (s : Prepared) (sent : Rpc.Sent) :
    options.verdict s sent = .ok () ↔
      ∃ reply, sent.answer = .ok reply ∧ options.verify s reply.response = .ok () := by
  unfold Options.verdict
  cases sent.answer with
  | ok reply => simp
  | error f => simp

theorem judgedBy_judge (options : Options) (s : Prepared) (sent : Rpc.Sent) :
    JudgedBy options s sent (options.judge s sent) := by
  have hiff := verdict_eq_ok_iff options s sent
  unfold Options.judge
  cases hv : options.verdict s sent with
  | ok u =>
    refine ⟨rfl, rfl, rfl, rfl, ?_, rfl, ?_, ?_, ?_⟩
    · exact ⟨fun _ => hiff.1 hv, fun _ => rfl⟩
    · exact ⟨fun _ => rfl, fun _ => rfl⟩
    · intro f hf
      cases hf
    · simp [hv]
  | error f =>
    refine ⟨rfl, rfl, rfl, rfl, ?_, rfl, ?_, ?_, ?_⟩
    · simp [← hiff, hv, Outcome.passed]
    · simp [Outcome.passed, Metric.failed]
    · intro g hg
      cases hg
      rfl
    · simp [hv]

section
variable {transport : Rpc.Transport σ} {options : Options} {scenarios : List Prepared} {world : σ}
  {i : Nat} {s : Prepared} {o : Outcome}

/-- Behind every outcome of a run stand a scenario and what came of its send. -/
theorem exists_judgedBy_of_getElem?
    (ho : (runPrepared transport options scenarios world).1[i]? = some o) :
    ∃ s sent, scenarios[i]? = some s ∧
      (transport.sendAll (scenarios.map (·.request)) world).1[i]? = some sent ∧
      JudgedBy options s sent o := by
  rw [getElem?_runPrepared] at ho
  obtain ⟨s, hs, ho⟩ := Option.bind_eq_some_iff.1 ho
  obtain ⟨sent, hsent, rfl⟩ := Option.map_eq_some_iff.1 ho
  exact ⟨s, sent, hs, hsent, judgedBy_judge options s sent⟩

theorem getElem?_runPrepared_judgedBy (hs : scenarios[i]? = some s)
    (ho : (runPrepared transport options scenarios world).1[i]? = some o) :
    ∃ sent, (transport.sendAll (scenarios.map (·.request)) world).1[i]? = some sent ∧
      JudgedBy options s sent o := by
  obtain ⟨s', sent, hs', hsent, hj⟩ := exists_judgedBy_of_getElem? ho
  rw [hs] at hs'
  obtain rfl := Option.some.inj hs'
  exact ⟨sent, hsent, hj⟩

theorem exists_judgedBy_of_mem (ho : o ∈ (runPrepared transport options scenarios world).1) :
    ∃ s sent, JudgedBy options s sent o := by
  obtain ⟨i, hi⟩ := List.mem_iff_getElem?.1 ho
  obtain ⟨s, sent, -, -, hj⟩ := exists_judgedBy_of_getElem? hi
  exact ⟨s, sent, hj⟩

end

/-! ## What has no bearing on an outcome -/

/-- An outcome depends on its scenario and what came of its send only. -/
theorem getElem?_runPrepared_congr {σ' : Type} {transport : Rpc.Transport σ}
    {transport' : Rpc.Transport σ'} {options : Options} {scenarios scenarios' : List Prepared}
    {world : σ} {world' : σ'} {i : Nat} (hs : scenarios'[i]? = scenarios[i]?)
    (hx : (transport'.sendAll (scenarios'.map (·.request)) world').1[i]?
      = (transport.sendAll (scenarios.map (·.request)) world).1[i]?) :
    (runPrepared transport' options scenarios' world').1[i]?
      = (runPrepared transport options scenarios world).1[i]? := by
  rw [getElem?_runPrepared, getElem?_runPrepared, hs, hx]

/-- The scenarios with another expectation at an index. -/
def expectAt (scenarios : List Prepared) (j : Nat) (e : Expectation) : List Prepared :=
  scenarios.modify j fun s => { s with expectation := e }

theorem map_request_expectAt (scenarios : List Prepared) (j : Nat) (e : Expectation) :
    (expectAt scenarios j e).map (·.request) = scenarios.map (·.request) := by
  apply List.ext_getElem?
  intro i
  simp only [expectAt, List.getElem?_map, List.getElem?_modify]
  by_cases h : j = i
  · simp [h, Function.comp_def]
  · simp [h]

theorem getElem?_runPrepared_expectAt {transport : Rpc.Transport σ} {options : Options}
    {scenarios : List Prepared} {world : σ} {i j : Nat} (e : Expectation) (h : i ≠ j) :
    (runPrepared transport options (expectAt scenarios j e) world).1[i]?
      = (runPrepared transport options scenarios world).1[i]? := by
  apply getElem?_runPrepared_congr
  · simp [expectAt, Ne.symm h]
  · rw [map_request_expectAt]

/-! ## What a report counts -/

namespace Report

variable (address network generatedAt : String) (outcomes : List Outcome)

theorem passed_ofOutcomes (h : ∀ o ∈ outcomes, o.metric.pass = o.passed) :
    (ofOutcomes address network generatedAt outcomes).passed = outcomes.countP (·.passed) := by
  simp only [passed, ofOutcomes, ← List.countP_eq_length_filter, List.countP_map]
  exact List.countP_congr fun o ho => by simp [h o ho]

theorem passed_le (r : Report) : r.passed ≤ r.metrics.length := List.length_filter_le _ _

theorem passed_add_failed (r : Report) : r.passed + r.failed = r.metrics.length := by
  have := r.passed_le
  simp only [failed]
  omega

theorem allPassed_iff (r : Report) : r.allPassed = true ↔ r.failed = 0 := by
  have hle := r.passed_le
  have hall : r.passed = r.metrics.length ↔ ∀ m ∈ r.metrics, m.pass = true :=
    List.length_filter_eq_length_iff
  rw [allPassed, List.all_eq_true, ← hall]
  simp only [failed]
  omega

end Report

/-! ## The account of a run -/

/-- **A run accounts for its scenarios one by one.** It sends their requests, once each and in
order; the outcomes stand in the same order, each judged by what came of the send of its scenario
and by nothing else; and a report counts the outcomes that passed and those that did not. -/
theorem runPrepared_account (transport : Rpc.Transport σ) (options : Options)
    (scenarios : List Prepared) (world : σ) :
    let run := runPrepared transport options scenarios world
    let sends := (transport.sendAll (scenarios.map (·.request)) world).1
    runPrepared transport.recording options scenarios (world, [])
      = (run.1, run.2, scenarios.map (·.request)) ∧
    run.1.length = scenarios.length ∧
    (∀ (i : Nat) (s : Prepared) (o : Outcome), scenarios[i]? = some s → run.1[i]? = some o →
      ∃ sent, sends[i]? = some sent ∧ JudgedBy options s sent o) ∧
    (∀ (σ' : Type) (transport' : Rpc.Transport σ') (scenarios' : List Prepared) (world' : σ')
      (i : Nat), scenarios'[i]? = scenarios[i]? →
      (transport'.sendAll (scenarios'.map (·.request)) world').1[i]? = sends[i]? →
      (runPrepared transport' options scenarios' world').1[i]? = run.1[i]?) ∧
    (∀ (i j : Nat) (e : Expectation), i ≠ j →
      (runPrepared transport options (expectAt scenarios j e) world).1[i]? = run.1[i]?) ∧
    ∀ address network generatedAt : String,
      let r := Report.ofOutcomes address network generatedAt run.1
      r.passed + r.failed = scenarios.length ∧ r.passed = run.1.countP (·.passed) ∧
      (r.allPassed = true ↔ r.failed = 0) := by
  intro run sends
  have hlen : run.1.length = scenarios.length :=
    length_runPrepared transport options scenarios world
  refine ⟨?_, hlen, fun i s o hs ho => getElem?_runPrepared_judgedBy hs ho,
    fun σ' transport' scenarios' world' i hs hx => getElem?_runPrepared_congr hs hx,
    fun i j e h => getElem?_runPrepared_expectAt e h, fun address network generatedAt => ?_⟩
  · exact runPrepared_recording transport options scenarios world []
  · refine ⟨?_, ?_, Report.allPassed_iff _⟩
    · rw [Report.passed_add_failed, ← hlen]
      exact List.length_map _
    · apply Report.passed_ofOutcomes
      intro o ho
      obtain ⟨s, sent, hj⟩ := exists_judgedBy_of_mem ho
      exact hj.pass_eq

end NodeAudit.Suite
