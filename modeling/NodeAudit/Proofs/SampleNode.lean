import Mathlib.Data.String.Basic
import NodeAudit.Proofs.Bench.Stress
import NodeAudit.Proofs.Http.SampleNode
import NodeAudit.Proofs.Suite.Acceptance
import NodeAudit.Proofs.Suite.Catalogue
import NodeAudit.Proofs.Suite.Run

/-!
# Scenarios against the sample node

What a scenario comes to against the sample node depends on its method, its expectation and the
number of its parameters only (`Scenario.isMet`): an error is found exactly where the parameters are
too few, a result exactly where they are not. The catalogue and the parameters of a stress run agree
with the node about how many each method takes. The server of the node is any that is lawful, and
the requests are those whose bodies it takes.

Main statement: `sample_node_partitions_calls`.
-/

namespace NodeAudit

open Http.SampleNode

theorem isReadable_of_isPlain {params : List Json} (h : ∀ v ∈ params, v.IsPlain) :
    IsReadable params :=
  fun v hv => ⟨.of_whole (h v hv).1 (h v hv).2.1, (h v hv).2.2 ▸ Nat.zero_le _⟩

namespace Suite

/-! ## Expectations -/

/-- The expectation is met by what the sample node makes of so many parameters of the method. -/
def Expectation.isMet (m : Rpc.Method) (count : Nat) : Expectation → Bool
  | .errorCode code => code == invalidParams && decide (count < m.arity)
  | .result kind => kind == m.resultKind && decide (m.arity ≤ count)
  | .resultForMethod => decide (m.arity ≤ count)

variable {m : Rpc.Method} {count : Nat} {r : Rpc.Response}

theorem carriesOne_of_answers (h : Answers m count r) : r.CarriesOne := by
  unfold Answers at h
  split at h
  · exact .inr ⟨h.1, h.2.imp fun _ he => he.1⟩
  · exact .inl ⟨h.2.imp fun _ hv => hv.1, h.1⟩

/-- Results of one type are not of the other. -/
theorem accepts_iff {kind kind' : Rpc.ResultKind} {v : Json} (h : kind.accepts v = true) :
    kind'.accepts v = true ↔ kind' = kind := by
  cases kind <;> cases kind' <;> cases v <;> simp_all [Rpc.ResultKind.accepts]

theorem checkErrorCode_of_answers (h : Answers m count r) (code : Int64) :
    Expectation.checkErrorCode code r = .ok () ↔ code = invalidParams ∧ count < m.arity := by
  rw [checkErrorCode_eq_ok_iff]
  unfold Answers at h
  split at h
  · rename_i hlt
    obtain ⟨-, e, he, hcode⟩ := h
    simp [he, hcode, hlt, invalidParams, eq_comm]
  · rename_i hle
    simp [h.1, hle]

theorem checkResult_of_answers (h : Answers m count r) (kind : Rpc.ResultKind) :
    Expectation.checkResult kind r = .ok () ↔ kind = m.resultKind ∧ m.arity ≤ count := by
  rw [checkResult_eq_ok_iff]
  unfold Answers at h
  split at h
  · rename_i hlt
    obtain ⟨-, e, he, -⟩ := h
    simp [he, hlt]
  · rename_i hle
    obtain ⟨hnone, v, hv, haccepts⟩ := h
    simp [hnone, hv, accepts_iff haccepts, Nat.not_lt.1 hle]

/-- A check of an answer of the sample node succeeds exactly if the expectation is met. -/
theorem check_of_answers (h : Answers m count r) (x : Expectation) :
    x.check m.name r = .ok () ↔ x.isMet m count = true := by
  cases x with
  | errorCode code =>
    simp only [Expectation.check, Expectation.isMet, Bool.and_eq_true, beq_iff_eq,
      decide_eq_true_eq]
    exact checkErrorCode_of_answers h code
  | result kind =>
    simp only [Expectation.check, Expectation.isMet, Bool.and_eq_true, beq_iff_eq,
      decide_eq_true_eq]
    exact checkResult_of_answers h kind
  | resultForMethod =>
    simp only [Expectation.check, Expectation.isMet, m.ofName?_name, decide_eq_true_eq]
    exact (checkResult_of_answers h m.resultKind).trans (and_iff_right rfl)

/-! ## Runs -/

/-- The scenario passes against the sample node. -/
def Scenario.isMet (s : Scenario) : Bool :=
  (Rpc.Method.ofName? s.method).any fun m => s.expectation.isMet m s.params.length

/-- The scenario calls a method of the node, and the server takes its body. -/
structure Scenario.IsSendable (limit : Nat) (id : UInt64) (s : Scenario) : Prop where
  exists_method : ∃ m : Rpc.Method, s.method = m.name
  params : IsReadable s.params
  size : (s.request id).toJson.compact.utf8ByteSize ≤ limit

section
variable {σ : Type} {server : Http.Server σ} {limit : Nat} {patience timeout : Span}
  {address : String} {url : Url} (hserver : server.Lawful url limit patience)
  (hurl : Http.destination address = .ok url) (htimeout : patience.toNanos ≤ timeout.toNanos)
include hserver hurl htimeout

theorem passed_judge (options : Options) {id : UInt64} {s : Scenario} (h : s.IsSendable limit id)
    (world : σ) :
    (options.judge (s.prepare id)
      ((Http.transport (server methods) address timeout).send world (s.request id)).1).passed
      = s.isMet := by
  obtain ⟨m, hm⟩ := h.exists_method
  obtain ⟨reply, hanswer, -, hanswers⟩ :=
    answers_send (r := s.request id) hserver hurl htimeout hm rfl h.params h.size world
  have hverify : options.verify (s.prepare id) reply.response
      = s.expectation.check m.name reply.response := by
    rw [verify_of_carriesOne (carriesOne_of_answers hanswers), ← hm]
    rfl
  have hcheck : s.expectation.check m.name reply.response = .ok ()
      ↔ s.expectation.isMet m s.params.length = true := check_of_answers hanswers s.expectation
  rw [Bool.eq_iff_iff, (judgedBy_judge _ _ _).passed_iff, hanswer, Scenario.isMet, hm,
    m.ofName?_name, Option.any_some, ← hcheck, ← hverify]
  constructor
  · rintro ⟨reply', hreply, hok⟩
    obtain rfl := Except.ok.inj hreply
    exact hok
  · exact fun hok => ⟨reply, rfl, hok⟩

/-- A scenario of a run passes exactly if the answer of the sample node is as it expects. -/
theorem passed_runAll (options : Options) {id : UInt64} {scenarios : List Scenario}
    (h : ∀ s ∈ scenarios, s.IsSendable limit id) (world : σ) :
    (runAll (Http.transport (server methods) address timeout) options id scenarios world).1.map
        (·.passed)
      = scenarios.map (·.isMet) := by
  induction scenarios generalizing world with
  | nil => rfl
  | cons s rest ih =>
    obtain ⟨hs, hrest⟩ := List.forall_mem_cons.1 h
    have hjudge := passed_judge hserver hurl htimeout options hs world
    simp only [runAll] at ih ⊢
    rw [List.map_cons, runPrepared_cons, List.map_cons, List.map_cons, ih hrest]
    exact congrArg (· :: rest.map (·.isMet)) hjudge

end

/-- What the catalogue expects is what the sample node answers. -/
theorem isMet_fullSuite {account : String} {s : Scenario} (h : s ∈ fullSuite account) :
    s.isMet = true := by
  obtain ⟨m, hmethod, hcase⟩ := arity_fullSuite h
  rw [Scenario.isMet, hmethod, m.ofName?_name, Option.any_some]
  rcases hcase with ⟨hx, hlt⟩ | ⟨hx, hle⟩
  · simp [hx, Expectation.isMet, hlt]
  · simp [hx, Expectation.isMet, hle]

end Suite

/-! ## Stress runs -/

namespace Bench

theorem quiet_requestOf {σ : Type} {server : Http.Server σ} {limit : Nat}
    {patience timeout : Span} {address : String} {url : Url}
    (hserver : server.Lawful url limit patience) (hurl : Http.destination address = .ok url)
    (htimeout : patience.toNanos ≤ timeout.toNanos) {account : String} {id : UInt64}
    {m : Rpc.Method} (hsize : (requestOf account id m).toJson.compact.utf8ByteSize ≤ limit) :
    Quiet (Http.transport (server methods) address timeout) (requestOf account id m)
      patience.toNanos := by
  intro world
  have hparams := isReadable_of_isPlain (m.isPlain_defaultParams account)
  obtain ⟨reply, hanswer, htime, hanswers⟩ :=
    answers_send (r := requestOf account id m) hserver hurl htimeout rfl rfl hparams hsize world
  have hnone : reply.response.error = none := by
    have henough : ¬ (requestOf account id m).params.length < m.arity :=
      Nat.not_lt.2 (m.arity_defaultParams account)
    rw [Answers, if_neg henough] at hanswers
    exact hanswers.1
  simp only [Rpc.Sent.isFailure, Rpc.Sent.duration, hanswer, Rpc.Response.isError, hnone]
  exact ⟨rfl, htime⟩

end Bench

section
variable {σ : Type} {server : Http.Server σ} {limit : Nat} {patience timeout : Span}
  {address : String} {url : Url}

/-- **The sample node and the expectations part the calls alike.** Behind any lawful server, for
all calls in bodies within its limit, and whatever the method, the parameters and the options: a
scenario that expects the error of wrong parameters passes exactly if its parameters are fewer than
the method takes, and one that expects a result of the type of the family passes exactly if they are
not. Therefore all scenarios of the catalogue pass, and a stress run of all methods, however it is
scheduled, counts no failure. -/
theorem sample_node_partitions_calls (hserver : server.Lawful url limit patience)
    (hurl : Http.destination address = .ok url) (htimeout : patience.toNanos ≤ timeout.toNanos) :
    let transport := Http.transport (server methods) address timeout
    (∀ (m : Rpc.Method) (params : List Json), (∀ v ∈ params, v.IsValue ∧ v.depth ≤ 100) →
      ∀ (id : UInt64), (Rpc.Request.make m.name params id).toJson.compact.utf8ByteSize ≤ limit →
      ∀ (name : String) (options : Suite.Options) (world : σ),
      let passed := fun expectation => (Suite.runAll transport options id
        [⟨name, m.name, params, expectation⟩] world).1.map (·.passed)
      passed (.errorCode (-32602)) = [decide (params.length < m.arity)] ∧
        passed .resultForMethod = [decide (¬ params.length < m.arity)]) ∧
    (∀ (account : String) (id : UInt64), (∀ s ∈ Suite.fullSuite account,
        (Rpc.Request.make s.method s.params id).toJson.compact.utf8ByteSize ≤ limit) →
      ∀ (options : Suite.Options) (world : σ),
      (Suite.runAll transport options id (Suite.fullSuite account) world).1.map (·.passed)
        = List.replicate 19 true) ∧
    ∀ (account : String) (id : UInt64), (∀ m ∈ Rpc.Method.all,
        (Rpc.Request.make m.name (m.defaultParams account) id).toJson.compact.utf8ByteSize
          ≤ limit) →
      ∀ plan : Bench.Plan, plan.requests * patience.toNanos ≤ Span.largest.toNanos →
      (∀ (pace : Bench.Pace) (world : σ),
        ∃ r s, plan.stress transport pace Rpc.Method.all account id world = some (r, s) ∧
          r.totalFailures = 0 ∧
          ∀ m ∈ Rpc.Method.all, ∃ f, r.methods.get? m.name = some f ∧ f.IsClean plan.requests) ∧
      ∀ m ∈ Rpc.Method.all, ∀ (world : σ) (e : Option (Bench.Progress σ)),
        Bench.Ends transport plan (Bench.requestOf account id m) { world } e →
        ∃ p, e = some p ∧ p.summary.processed = plan.requests ∧ p.summary.failures = 0 := by
  intro transport
  refine ⟨fun m params hparams id hsize name options world => ?_,
    fun account id hsize options world => ?_, fun account id hsize plan hspan => ?_⟩
  · have hsend : ∀ x, ∀ s ∈ [(⟨name, m.name, params, x⟩ : Suite.Scenario)],
        s.IsSendable limit id :=
      fun x => List.forall_mem_singleton.2 ⟨⟨m, rfl⟩, hparams, hsize⟩
    have hpassed := fun x => Suite.passed_runAll hserver hurl htimeout options (hsend x) world
    refine ⟨(hpassed _).trans ?_, (hpassed _).trans ?_⟩
    · simp [Suite.Scenario.isMet, m.ofName?_name, Suite.Expectation.isMet, Suite.invalidParams]
    · simp [Suite.Scenario.isMet, m.ofName?_name, Suite.Expectation.isMet]
  · have hsend : ∀ s ∈ Suite.fullSuite account, s.IsSendable limit id := by
      intro s hs
      obtain ⟨m, hm, -⟩ := Suite.arity_fullSuite hs
      exact ⟨⟨m, hm⟩, isReadable_of_isPlain (Suite.isPlain_fullSuite hs), hsize s hs⟩
    rw [Suite.passed_runAll hserver hurl htimeout options hsend world, List.eq_replicate_iff,
      List.length_map, List.forall_mem_map]
    exact ⟨Suite.length_fullSuite account, fun s hs => Suite.isMet_fullSuite hs⟩
  · have hquiet := fun m hm => Bench.quiet_requestOf hserver hurl htimeout (hsize m hm)
    exact ⟨fun pace world => Bench.Plan.stress_clean pace hspan Rpc.Method.all world hquiet,
      fun m hm world e he => Bench.Ends.of_quiet (hquiet m hm) hspan he⟩

end

/-- A node on this host, which takes a millisecond for an answer and bodies of ten mebibytes: it
answers a call with the last but one of all doubles, whose text is read as the last one, and all
calls of the catalogue and of a stress run. -/
theorem sample_node_partitions_calls_local :
    let transport := Http.transport (network (σ := Unit)) "http://[::1]:9500" (Span.ofMillis 5000)
    let double : Json := .number (.double false ⟨2 ^ 53 - 2, 971⟩)
    let plan : Bench.Plan := ⟨10, 4, by decide⟩
    (Suite.runAll transport { strictEnvelope := true } 0
        [⟨"double", "hmyv2_getBalance", [double], .resultForMethod⟩] ()).1.map (·.passed) = [true] ∧
      (Suite.runAll transport { strictEnvelope := true } 0 (Suite.fullSuite "one1") ()).1.map
        (·.passed) = List.replicate 19 true ∧
      ∃ r s, plan.stress transport .pending Rpc.Method.all "one1" 0 () = some (r, s) ∧
        r.totalFailures = 0 := by
  intro transport double plan
  let url : Url :=
    { scheme := "http".toList, host? := some (.v6 [0, 0, 0, 0, 0, 0, 0, 1]),
      port? := some 9500, path := ['/'] }
  have hurl : Http.destination "http://[::1]:9500" = .ok url := by decide +kernel
  obtain ⟨hcalls, hsuite, hstress⟩ :=
    sample_node_partitions_calls (Http.lawful_plain (σ := Unit) url 10485760) hurl
      (by decide : (Span.ofMillis 1).toNanos ≤ (Span.ofMillis 5000).toNanos)
  have hdouble : ∀ v ∈ [double], v.IsValue ∧ v.depth ≤ 100 :=
    List.forall_mem_singleton.2 ⟨⟨rfl, List.forall_mem_singleton.2
      (⟨by decide, by decide, by decide⟩ : Decimal.Magnitude.IsFinite _)⟩, by decide⟩
  have hsuiteSizes : ∀ s ∈ Suite.fullSuite "one1",
      (Rpc.Request.make s.method s.params 0).toJson.compact.utf8ByteSize ≤ 10485760 := by
    simp only [Json.compact, String.utf8ByteSize_ofList]
    decide +kernel
  have hstressSizes : ∀ m ∈ Rpc.Method.all,
      (Rpc.Request.make m.name (m.defaultParams "one1") 0).toJson.compact.utf8ByteSize
        ≤ 10485760 := by
    simp only [Json.compact, String.utf8ByteSize_ofList]
    decide +kernel
  obtain ⟨hreports, -⟩ := hstress "one1" 0 hstressSizes plan (by decide)
  obtain ⟨r, s, hrs, hnone, -⟩ := hreports .pending ()
  exact ⟨(hcalls ⟨.balance, .v2⟩ [double] hdouble 0 (by decide +kernel) "double" _ ()).2.trans
      (by decide),
    hsuite "one1" 0 hsuiteSizes _ (), r, s, hrs, hnone⟩

end NodeAudit
