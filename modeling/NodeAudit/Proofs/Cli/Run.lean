import NodeAudit.Proofs.Cli.Endpoint
import NodeAudit.Proofs.Http.Exchange
import NodeAudit.Proofs.Reports
import NodeAudit.Proofs.Rpc.Codec
import NodeAudit.Proofs.Suite.Acceptance
import NodeAudit.Proofs.Suite.Catalogue

/-!
# What a run tells

A run over answers that are known beforehand sends the requests of all scenarios, each once and in
order (`sendAll_canned`), and a scenario passes exactly if its answer meets it (`Canned.Meets`,
`verdict_canned_iff`). From this follow the metrics of the report, and from the report what is
printed, what the file holds and the exit code.

Main statement: `run_tells_one_story`.
-/

namespace NodeAudit

/-! ## Answers known beforehand -/

namespace Http

/-- An answer of the node that is known beforehand. -/
structure Canned where
  status : Status
  body : List UInt8
  time : Span := Span.zero

namespace Canned

/-- What the network makes of a request that is answered so. -/
def exchange (c : Canned) : Exchange := { result := .answered c.status c.body, time := c.time }

/-- The answer is a success whose body is a response, which holds exactly one of a result and an
error if that is asked for, and which is as the scenario expects. -/
def Meets (c : Canned) (strict : Bool) (s : Suite.Scenario) : Prop :=
  (200 ≤ c.status ∧ c.status < 300) ∧
    ∃ response, JsonText.decode (Rpc.Response.decode .text 0)
        (String.ofList (bodyChars 0 false c.body)) = .ok response ∧
      (strict = true → response.result.isSome ≠ response.error.isSome) ∧
      s.expectation.check s.method response = .ok ()

end Canned

/-- Requests to a node whose answers are known beforehand all go out, and each gets its answer. -/
theorem sendAll_canned {address : String} {url : Url} (hurl : destination address = .ok url)
    (timeout : Span) (requests : List Rpc.Request) (replies : List Canned) (posts : List Post)
    (hlen : replies.length = requests.length) :
    (transport (watched replaying) address timeout).sendAll requests
        (replies.map (·.exchange), posts)
      = (List.zipWith (fun r c => c.exchange.sent url r.method) requests replies,
        [], posts ++ requests.map (Post.ofRequest url timeout)) := by
  induction requests generalizing replies posts with
  | nil =>
    obtain rfl := List.length_eq_zero_iff.1 hlen
    simp [Rpc.Transport.sendAll]
  | cons r rest ih =>
    obtain ⟨c, replies, rfl⟩ := List.exists_cons_of_length_eq_add_one hlen
    have hsend : (transport (watched replaying) address timeout).send
        ((c :: replies).map (·.exchange), posts) r
        = (c.exchange.sent url r.method,
          replies.map (·.exchange), posts ++ [Post.ofRequest url timeout r]) := by
      simp only [transport, hurl]
      rfl
    rw [Rpc.Transport.sendAll_cons, hsend, ih replies _ (by simpa using hlen)]
    simp

end Http

/-! ## Metrics of a run -/

namespace Suite

variable {options : Options} {id : UInt64} {url : Url}

/-- A scenario passes exactly if its answer meets it. -/
theorem verdict_canned_iff {s : Scenario} {c : Http.Canned} :
    options.verdict (s.prepare id) (c.exchange.sent url s.method) = .ok () ↔
      c.Meets options.strictEnvelope s := by
  rw [verdict_eq_ok_iff]
  simp only [Http.Exchange.answer_sent_eq_ok_iff (x := c.exchange) rfl, Http.decodeBody_eq_ok_iff,
    verify_eq_ok_iff, Rpc.Response.carriesOne_iff_ne]
  constructor
  · rintro ⟨reply, ⟨hstatus, hbody, -⟩, hok⟩
    exact ⟨hstatus, reply.response, hbody, hok⟩
  · rintro ⟨hstatus, response, hbody, hok⟩
    exact ⟨⟨response, c.time⟩, ⟨hstatus, hbody, rfl⟩, hok⟩

/-- The metric is that of the scenario, and its flag the verdict on the answer. -/
structure Metric.Tells (m : Metric) (strict : Bool) (s : Scenario) (c : Http.Canned) : Prop where
  method : m.method = s.method
  test : m.test = s.name
  params : m.params = s.params
  duration : m.duration = c.time.millisText
  pass_iff : m.pass = true ↔ c.Meets strict s
  error_eq_none_iff : m.error = none ↔ m.pass = true

theorem tells_judge (s : Scenario) (c : Http.Canned) :
    (options.judge (s.prepare id) (c.exchange.sent url s.method)).metric.Tells
      options.strictEnvelope s c := by
  have hj := judgedBy_judge options (s.prepare id) (c.exchange.sent url s.method)
  refine ⟨hj.method, hj.test, hj.params, ?_, ?_, ?_⟩
  · rw [hj.duration, Http.Exchange.duration_sent]
    rfl
  · rw [hj.pass_eq, ← verdict_canned_iff, verdict_eq_ok_iff]
    exact hj.passed_iff
  · rw [hj.pass_eq]
    exact hj.error_eq_none_iff

theorem runAll_canned (options : Options) (id : UInt64) {address : String}
    (hurl : Http.destination address = .ok url) (timeout : Span) (scenarios : List Scenario)
    (replies : List Http.Canned) (posts : List Http.Post)
    (hlen : replies.length = scenarios.length) :
    runAll (Http.transport (Http.watched Http.replaying) address timeout) options id scenarios
        (replies.map (·.exchange), posts)
      = (List.zipWith (fun s c => options.judge (s.prepare id) (c.exchange.sent url s.method))
          scenarios replies,
        [], posts ++ scenarios.map fun s => .ofRequest url timeout (s.request id)) := by
  have hrequests : (scenarios.map (·.prepare id)).map (·.request)
      = scenarios.map (·.request id) := by
    rw [List.map_map]
    rfl
  have hlen' : replies.length = (scenarios.map (·.request id)).length := by
    rw [List.length_map, hlen]
  rw [runAll, runPrepared_eq, hrequests, Http.sendAll_canned hurl timeout _ replies posts hlen']
  simp only [List.map_map]
  refine Prod.ext ?_ rfl
  apply List.ext_getElem?
  intro i
  simp only [List.getElem?_zipWith, List.getElem?_map]
  cases scenarios[i]? with
  | none => rfl
  | some s => cases replies[i]? <;> rfl

/-! ## Reports of the catalogue -/

theorem Metric.depth_le {m : Metric} (h : ∀ v ∈ m.params, v.depth = 0) :
    m.toJson.depth ≤ 2 := by
  have hparams : Json.itemsDepth m.params ≤ 0 :=
    Json.itemsDepth_le_iff.2 fun v hv => Nat.le_of_eq (h v hv)
  have hmembers : ∀ p ∈ [("method", Json.string m.method), ("test", .string m.test),
      ("pass", .bool m.pass), ("duration", .string m.duration)]
      ++ (m.error.map fun e => ("error", Json.string e)).toList
      ++ (if m.params.isEmpty then [] else [("params", .array m.params)]), p.2.depth ≤ 1 := by
    simp only [List.forall_mem_append]
    refine ⟨⟨?_, ?_⟩, ?_⟩
    · simp [Json.depth]
    · simp [Json.depth]
    · split
      · exact List.forall_mem_nil _
      · rw [List.forall_mem_singleton, Json.depth]
        omega
  have hdepth := Json.membersDepth_le_iff.2 hmembers
  rw [toJson, Json.depth]
  omega

theorem Report.depth_le {r : Report} (h : ∀ m ∈ r.metrics, ∀ v ∈ m.params, v.depth = 0) :
    r.toJson.depth ≤ 4 := by
  have hmetrics : Json.itemsDepth (r.metrics.map Metric.toJson) ≤ 2 := by
    rw [Json.itemsDepth_le_iff, List.forall_mem_map]
    exact fun m hm => Metric.depth_le (h m hm)
  simp only [toJson, Json.depth, Json.membersDepth]
  omega

/-- The report tells of the scenarios over the answers, one by one. -/
def Report.Tells (r : Report) (strict : Bool) (scenarios : List Scenario)
    (replies : List Http.Canned) : Prop :=
  r.metrics.length = scenarios.length ∧
    ∀ (i : Nat) (s : Scenario) (c : Http.Canned) (m : Metric), scenarios[i]? = some s →
      replies[i]? = some c → r.metrics[i]? = some m → m.Tells strict s c

section
variable {strict : Bool} {scenarios : List Scenario} {replies : List Http.Canned} {r : Report}

theorem Report.Tells.exists_of_mem (h : r.Tells strict scenarios replies)
    (hlen : replies.length = scenarios.length) {m : Metric} (hm : m ∈ r.metrics) :
    ∃ s ∈ scenarios, ∃ c ∈ replies, m.Tells strict s c := by
  obtain ⟨i, hi, rfl⟩ := List.mem_iff_getElem.1 hm
  have hs : i < scenarios.length := h.1 ▸ hi
  have hc : i < replies.length := hlen ▸ hs
  exact ⟨scenarios[i], List.getElem_mem hs, replies[i], List.getElem_mem hc,
    h.2 i _ _ _ (List.getElem?_eq_getElem hs) (List.getElem?_eq_getElem hc)
      (List.getElem?_eq_getElem hi)⟩

theorem Report.tells_ofOutcomes (address network generatedAt : String)
    (hlen : replies.length = scenarios.length) :
    (ofOutcomes address network generatedAt (List.zipWith
      (fun s c => options.judge (s.prepare id) (c.exchange.sent url s.method)) scenarios
      replies)).Tells options.strictEnvelope scenarios replies := by
  refine ⟨?_, fun i s c m hs hc hm => ?_⟩
  · simp [ofOutcomes, hlen]
  · simp only [ofOutcomes, List.getElem?_map, List.getElem?_zipWith, hs, hc, Option.map_some,
      Option.some.injEq] at hm
    exact hm ▸ tells_judge s c

/-- A report of the catalogue is read back from its text. -/
theorem Report.Tells.decode_pretty {address : String}
    (h : r.Tells strict (fullSuite address) replies)
    (hlen : replies.length = (fullSuite address).length) :
    JsonText.decode (Report.decode .text 0) r.pretty = .ok r := by
  have hparams : ∀ m ∈ r.metrics, ∀ v ∈ m.params, v.IsPlain := by
    intro m hm
    obtain ⟨s, hs, c, -, htells⟩ := h.exists_of_mem hlen hm
    rw [htells.params]
    exact isPlain_fullSuite hs
  have hdepth := Report.depth_le fun m hm v hv => (hparams m hm v hv).2.2
  refine Report.decode_pretty (fun m hm v hv => ?_) ?_
  · exact ⟨(hparams m hm v hv).1, (hparams m hm v hv).2.1⟩
  · have hmax : 4 ≤ Document.maxOpen := by decide
    omega

end

end Suite

/-! ## What a run tells -/

namespace Cli

/-- What a run of the suite tells over answers known beforehand. -/
theorem runSuite_canned (config : Config) (address path : String) (strict : Bool)
    (setting : Setting) {url : Url} (replies : List Http.Canned)
    (hurl : Http.destination config.harness.netUrl = .ok url) (hreplies : replies.length = 19) :
    let scenarios := Suite.fullSuite address
    let s := runSuite config address path strict setting (Http.watched Http.replaying)
      (replies.map (·.exchange), [])
    s.world.2 = scenarios.map (fun scenario =>
      Http.Post.ofRequest url config.harness.requestTimeout (scenario.request setting.clock)) ∧
    ∃ r : Suite.Report,
      r.Tells (strict || config.harness.strictEnvelope) scenarios replies ∧
      (∀ files, setting.files.write path r.pretty = .ok files →
        let passed := r.metrics.countP (·.pass)
        let failed := r.metrics.countP (!·.pass)
        s.files.read path = .ok r.pretty ∧
        JsonText.decode (Suite.Report.decode .text 0) r.pretty = .ok r ∧
        s.out = r.metrics.flatMap metricLines ++ summaryLines passed failed path ∧
        passed + failed = 19 ∧ (s.exit = 0 ↔ failed = 0)) ∧
      ∀ e, setting.files.write path r.pretty = .error e →
        s.out = r.metrics.flatMap metricLines ∧ s.exit ≠ 0 := by
  intro scenarios s
  have hlen : replies.length = scenarios.length := hreplies
  let outcomes := List.zipWith (fun s c =>
    Suite.Options.judge { strictEnvelope := strict || config.harness.strictEnvelope }
      (s.prepare setting.clock) (c.exchange.sent url s.method)) scenarios replies
  let r := Suite.Report.ofOutcomes address (redact config.harness.netUrl) setting.now outcomes
  have hrun := Suite.runAll_canned { strictEnvelope := strict || config.harness.strictEnvelope }
    setting.clock hurl config.harness.requestTimeout scenarios replies [] hlen
  have htells : r.Tells (strict || config.harness.strictEnvelope) scenarios replies :=
    Suite.Report.tells_ofOutcomes _ _ _ hlen
  have hcount : r.passed + r.failed = 19 := r.passed_add_failed.trans htells.1
  have hpassed : r.metrics.countP (·.pass) = r.passed := List.countP_eq_length_filter
  have hfailed : r.metrics.countP (!·.pass) = r.failed := by
    have hsplit := List.length_eq_countP_add_countP (·.pass) (l := r.metrics)
    have hall := r.passed_add_failed
    simp only [decide_not, Bool.decide_eq_true] at hsplit
    omega
  refine ⟨?_, r, htells, fun files hfiles => ?_, fun e he => ?_⟩
  · simp only [s, world_runSuite hrun]
    rfl
  · simp only [s, runSuite_eq hrun]
    rw [hfiles]
    dsimp only
    rw [hpassed, hfailed]
    refine ⟨Files.Tree.read_of_write hfiles, htells.decode_pretty hlen, rfl, hcount, ?_⟩
    change (if r.failed = 0 then 0 else 1) = 0 ↔ r.failed = 0
    by_cases hnone : r.failed = 0 <;> simp [hnone]
  · simp only [s, runSuite_eq hrun]
    rw [he]
    exact ⟨rfl, Nat.one_ne_zero⟩

theorem decode_request {address : String} {s : Suite.Scenario}
    (h : s ∈ Suite.fullSuite address) (id : UInt64) :
    JsonText.decode (Rpc.Request.decode .text 0) (s.request id).toJson.compact
      = .ok { version := "2.0", method := s.method, params := s.params, id } := by
  have hplain := Suite.isPlain_fullSuite h
  refine Rpc.Request.decode_compact (fun v hv => ⟨(hplain v hv).1, (hplain v hv).2.1⟩) ?_
  have hparams : Json.itemsDepth s.params ≤ 0 :=
    Json.itemsDepth_le_iff.2 fun v hv => Nat.le_of_eq (hplain v hv).2.2
  simp only [Suite.Scenario.request, Rpc.Request.make, Rpc.Request.toJson, Json.ofNat, Json.depth,
    Json.membersDepth]
  omega

/-- **The exit code, the printed lines and the report tell the same story.** Whatever the account,
the settings and the answers of the node: a run sends the requests of the catalogue, each once and
in order, as objects of the protocol, and a scenario passes exactly if its answer meets it. If the
report can be written, the file holds a metric for each scenario in that order whose flag is the
verdict; the metrics are printed in that order, each with its flag in words, then how many passed
and how many failed, and the exit code is zero exactly if none failed. If the report cannot be
written, the exit code is not zero. -/
theorem run_tells_one_story {line : List String} {arguments : Arguments}
    {address? report? : Option String} {strict : Bool} {config : Config} {address : String}
    {url : Url} (setting : Setting) (replies : List Http.Canned)
    (hline : Arguments.read line = .ok arguments)
    (hcommand : arguments.command = .run address? report? strict)
    (hconfig : configuration arguments
      (Environment.File.loadFrom setting.files setting.environment).1 setting.files = .ok config)
    (haddress : account config address? = .ok address)
    (hurl : Http.destination config.harness.netUrl = .ok url) (hreplies : replies.length = 19) :
    let scenarios := Suite.fullSuite address
    let path := report?.getD config.harness.reportPath
    let s := execute line setting (Http.watched Http.replaying) (replies.map (·.exchange), [])
    let body := fun scenario : Suite.Scenario => (Json.object [("jsonrpc", .string "2.0"),
      ("method", .string scenario.method), ("params", .array scenario.params),
      ("id", .ofNat setting.clock.toNat)]).compact
    let metricLines := fun m : Suite.Metric =>
      ((if m.pass then "PASS " else "FAIL ") ++ m.method ++ " " ++ m.test ++ " (" ++ m.duration
        ++ ")") :: (m.error.map ("     " ++ ·)).toList
    scenarios.length = 19 ∧
    s.world.2 = scenarios.map (fun scenario =>
      { url, body := body scenario, timeout := config.harness.requestTimeout }) ∧
    (∀ scenario ∈ scenarios, JsonText.decode (Rpc.Request.decode .text 0) (body scenario)
      = .ok { version := "2.0", method := scenario.method, params := scenario.params,
              id := setting.clock }) ∧
    ∃ r : Suite.Report,
      r.Tells (strict || config.harness.strictEnvelope) scenarios replies ∧
      (∀ files, setting.files.write path r.pretty = .ok files →
        let passed := r.metrics.countP (·.pass)
        let failed := r.metrics.countP (!·.pass)
        s.files.read path = .ok r.pretty ∧
        JsonText.decode (Suite.Report.decode .text 0) r.pretty = .ok r ∧
        s.out = r.metrics.flatMap metricLines
          ++ ["", toString passed ++ " passed, " ++ toString failed ++ " failed",
            "Report written to " ++ path] ∧
        passed + failed = 19 ∧ (s.exit = 0 ↔ failed = 0)) ∧
      ∀ e, setting.files.write path r.pretty = .error e →
        s.out = r.metrics.flatMap metricLines ∧ s.exit ≠ 0 := by
  intro scenarios path s body metricLines
  -- the session is the run of the suite, over the environment with the file of the deployment
  have hs : s = runSuite config address path strict { setting with
        environment := (Environment.File.loadFrom setting.files setting.environment).1 }
      (Http.watched Http.replaying) (replies.map (·.exchange), []) := by
    simp only [s, execute_eq hline, perform, hconfig, hcommand, prepare, haddress, ok_bind]
    rfl
  obtain ⟨hsent, r, htells, hwritten, hrefused⟩ :=
    runSuite_canned config address path strict { setting with
      environment := (Environment.File.loadFrom setting.files setting.environment).1 }
      replies hurl hreplies
  rw [hs]
  refine ⟨Suite.length_fullSuite address, hsent,
    fun scenario hscenario => decode_request hscenario setting.clock, r, htells,
    fun files hfiles => ?_, hrefused⟩
  obtain ⟨hread, hdecode, hout, hcount, hexit⟩ := hwritten files hfiles
  refine ⟨hread, hdecode, ?_, hcount, hexit⟩
  simp only [hout, summaryLines, Decimal.ofNat_eq_toString]
  rfl

/-- What the command line of a run says that names the account and the node. -/
def runArguments : Arguments :=
  { command := .run (some "one1") none false, netUrl? := some "http://[::1]:9500" }

/-- Of a node that fails whatever it is asked, the report is written all the same: it holds no
metric that passes, which is what the last lines say, and the exit code is not zero. -/
theorem run_tells_one_story_failing :
    let setting := settingWith none
    let replies := List.replicate 19 { status := 500, body := [] : Http.Canned }
    let s := execute ["run", "--address=one1", "--net-url=http://[::1]:9500"] setting
      (Http.watched Http.replaying) (replies.map (·.exchange), [])
    s.world.2.length = 19 ∧ s.exit ≠ 0 ∧ "0 passed, 19 failed" ∈ s.out ∧
      ∃ r : Suite.Report, r.metrics.length = 19 ∧ r.metrics.countP (·.pass) = 0 ∧
        s.files.read "results.json" = .ok r.pretty := by
  intro setting replies s
  have hline : Arguments.read ["run", "--address=one1", "--net-url=http://[::1]:9500"]
      = .ok runArguments := by decide
  have hconfig : configuration runArguments
      (Environment.File.loadFrom setting.files setting.environment).1 setting.files
      = .ok { harness := { netUrl := "http://[::1]:9500" } } := by decide +kernel
  let url : Url :=
    { scheme := "http".toList, host? := some (.v6 [0, 0, 0, 0, 0, 0, 0, 1]),
      port? := some 9500, path := ['/'] }
  have hurl : Http.destination "http://[::1]:9500" = .ok url := by decide +kernel
  obtain ⟨-, hsent, -, r, htells, hwritten, -⟩ :=
    run_tells_one_story setting replies hline rfl hconfig rfl hurl List.length_replicate
  have hplace : setting.files.place "results.json" = .ok ["home", "results.json"] := by
    decide +kernel
  obtain ⟨files, hfiles⟩ : ∃ files, setting.files.write "results.json" r.pretty = .ok files :=
    ⟨_, Files.Tree.write_eq_ok_iff.2 ⟨_, hplace, by decide +kernel, by decide +kernel, rfl⟩⟩
  obtain ⟨hread, -, hout, hcount, hexit⟩ := hwritten files hfiles
  have hlen : replies.length = (Suite.fullSuite "one1").length := rfl
  have hnone : r.metrics.countP (·.pass) = 0 := by
    refine List.countP_eq_zero.2 fun m hm hpass => ?_
    obtain ⟨scenario, -, c, hc, htold⟩ := htells.exists_of_mem hlen hm
    obtain rfl := List.eq_of_mem_replicate hc
    obtain ⟨⟨-, hstatus⟩, -⟩ := htold.pass_iff.1 hpass
    exact absurd hstatus (by decide)
  have hall : r.metrics.countP (!·.pass) = 19 := by omega
  refine ⟨by rw [hsent]; rfl, fun h => ?_, ?_, r, htells.1, hnone, hread⟩
  · have hfailed := hexit.1 h
    omega
  · rw [hnone, hall] at hout
    exact hout ▸ List.mem_append_right _ (List.mem_cons_of_mem _ List.mem_cons_self)

end Cli

end NodeAudit
