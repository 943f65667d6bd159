import NodeAudit.Proofs.Cli.Endpoint

/-!
# What stands in the way of a session

An `Obstacle` is what keeps a session from acting: settings that cannot be read, a command that
needs an account where none is given, the name of no method, or a limit that lets nothing be in
flight. An option of a command goes before the settings (`accountOption?`, `methodOption?`,
`limitOption?`), and so does the variable of the account.

`Ready` says what a command needs of the settings: it acts exactly if it has that
(`exists_acts_iff`), and it lacks something, or there are no settings, exactly if there is an
obstacle (`obstacle_iff`). A session whose command does not act is refused (`perform_cases`).

Main statement: `obstacle_stops_session`. With an obstacle a session fails, sends nothing and leaves
the files as they are; without one it does what its command does.
-/

namespace NodeAudit

theorem Rpc.Method.exists_parse_eq_ok_iff {name : String} :
    (∃ m, parse name = .ok m) ↔ ∃ m ∈ all, m.name = name := by
  have hfind : (∃ m, parse name = .ok m) ↔ (ofName? name).isSome = true := by
    unfold parse
    cases ofName? name <;> simp
  rw [hfind, ofName?, List.find?_isSome]
  simp only [beq_iff_eq]

namespace Cli

variable {arguments : Arguments} {environment : Environment} {files : Files.Tree}
  {config : Config} {command : Command} {σ : Type}

/-! ## Options -/

namespace Command

/-- The account among the options of the command, if the command asks for one. -/
def accountOption? : Command → Option (Option String)
  | run address? _ _ | bench _ address? _ _ | stress address? _ _ _ => some address?
  | _ => none

/-- The name of the method among the options of the command, if the command asks for one. -/
def methodOption? : Command → Option (Option String)
  | bench method? _ _ _ => some method?
  | _ => none

/-- How many requests may be in flight, among the options of the command, if the command asks for
it. -/
def limitOption? : Command → Option (Option UInt64)
  | bench _ _ _ limit? | stress _ _ limit? _ => some limit?
  | _ => none

end Command

/-! ## Obstacles -/

/-- What keeps a session from acting. -/
inductive Obstacle (arguments : Arguments) (environment : Environment) (files : Files.Tree) :
    Prop where
  /-- The file that the command line names cannot be read. -/
  | unreadable {path : String} {e : FileError} (hpath : arguments.config? = some path)
      (hread : files.read path = .error e)
  /-- The file that the command line names holds no settings. -/
  | malformed {path text : String} (hpath : arguments.config? = some path)
      (hread : files.read path = .ok text)
      (hparse : ∀ d c, Toml.read text = some d → Config.decode .table d ≠ .ok c)
  /-- The command asks for an account, and neither an option nor the variable nor the settings give
  one. -/
  | noAccount {loaded : Config} (hload : fileSettings arguments files = .ok loaded)
      (hoption : arguments.command.accountOption? = some none)
      (hvariable : environment.nonBlank? "ADDRESS" = none)
      (hsettings : loaded.harness.address = none)
  /-- The command asks for a method, and the name given is that of none. -/
  | unknownMethod {loaded : Config} {name? : Option String}
      (hload : fileSettings arguments files = .ok loaded)
      (hoption : arguments.command.methodOption? = some name?)
      (hname : ∀ m ∈ Rpc.Method.all, m.name ≠ name?.getD loaded.bench.method)
  /-- The command bounds how many requests are in flight, and the bound given is zero. -/
  | nothingInFlight {loaded : Config} {limit? : Option UInt64}
      (hload : fileSettings arguments files = .ok loaded)
      (hoption : arguments.command.limitOption? = some limit?)
      (hlimit : limit?.getD loaded.bench.maxConcurrent = 0)

/-! ### Settings -/

/-- The settings are those that were loaded, but for what goes before them. -/
theorem exists_fileSettings_of_configuration
    (h : configuration arguments environment files = .ok config) :
    ∃ loaded, fileSettings arguments files = .ok loaded ∧
      config.harness.address
        = (environment.nonBlank? "ADDRESS" <|> loaded.harness.address) ∧
      config.bench = loaded.bench := by
  rw [configuration_eq] at h
  obtain ⟨loaded, hload, rfl⟩ := map_eq_ok_iff.1 h
  exact ⟨loaded, hload, rfl, rfl⟩

theorem exists_fileSettings (h : ¬ Obstacle arguments environment files) :
    ∃ loaded, fileSettings arguments files = .ok loaded := by
  unfold fileSettings
  cases hpath : arguments.config? with
  | none => exact ⟨_, rfl⟩
  | some path =>
    dsimp only
    cases hread : files.read path with
    | error e => exact absurd (.unreadable hpath hread) h
    | ok text =>
      cases hparse : Config.parse text with
      | ok c => exact ⟨c, hparse⟩
      | error f =>
        refine absurd (.malformed hpath hread fun d c hd hc => ?_) h
        rw [Config.parse_eq_ok_iff.2 ⟨d, hd, hc⟩] at hparse
        cases hparse

/-! ### What a command needs -/

/-- The command has what it needs before it acts. -/
structure Ready (config : Config) (command : Command) : Prop where
  account : command.accountOption? = some none → config.harness.address ≠ none
  method : ∀ name?, command.methodOption? = some name? →
    ∃ m ∈ Rpc.Method.all, m.name = name?.getD config.bench.method
  limit : ∀ limit?, command.limitOption? = some limit? →
    limit?.getD config.bench.maxConcurrent ≠ 0

theorem exists_account_iff {address? : Option String} :
    (∃ address, account config address? = .ok address) ↔
      (address? = none → config.harness.address ≠ none) := by
  cases address? with
  | some address => simp [account]
  | none => cases h : config.harness.address <;> simp [account, Config.Harness.requireAddress, h]

theorem exists_plan_iff {requests? limit? : Option UInt64} :
    (∃ p, plan config requests? limit? = .ok p) ↔ limit?.getD config.bench.maxConcurrent ≠ 0 := by
  have hpos : 0 < (limit?.getD config.bench.maxConcurrent).toNat ↔
      limit?.getD config.bench.maxConcurrent ≠ 0 := by
    rw [Nat.pos_iff_ne_zero, ← UInt64.toNat_zero, Ne, UInt64.toNat_inj]
  rw [← hpos, plan, Bench.Plan.make]
  split <;> simp_all

theorem exists_acts_iff :
    (∃ act : Setting → Http.Network σ → σ → Session σ, Acts config command act) ↔
      Ready config command := by
  constructor
  · rintro ⟨act, ha⟩
    cases ha with
    | overview => exact ⟨nofun, nofun, nofun⟩
    | run haccount =>
      exact ⟨fun h => exists_account_iff.1 ⟨_, haccount⟩ (Option.some.inj h), nofun, nofun⟩
    | profileShow => exact ⟨nofun, nofun, nofun⟩
    | profileCheck => exact ⟨nofun, nofun, nofun⟩
    | bench haccount hmethod hplan =>
      refine ⟨fun h => exists_account_iff.1 ⟨_, haccount⟩ (Option.some.inj h), ?_, ?_⟩
      · rintro _ ⟨⟩
        exact Rpc.Method.exists_parse_eq_ok_iff.1 ⟨_, hmethod⟩
      · rintro _ ⟨⟩
        exact exists_plan_iff.1 ⟨_, hplan⟩
    | stress haccount hplan =>
      refine ⟨fun h => exists_account_iff.1 ⟨_, haccount⟩ (Option.some.inj h), nofun, ?_⟩
      rintro _ ⟨⟩
      exact exists_plan_iff.1 ⟨_, hplan⟩
    | configValidate => exact ⟨nofun, nofun, nofun⟩
  · intro h
    have haccount : ∀ address?, command.accountOption? = some address? →
        ∃ address, account config address? = .ok address :=
      fun _ ho => exists_account_iff.2 fun hnone => h.account (hnone ▸ ho)
    cases command with
    | overview => exact ⟨_, .overview⟩
    | run address? report? strict =>
      obtain ⟨address, ha⟩ := haccount address? rfl
      exact ⟨_, .run ha⟩
    | profileShow n => exact ⟨_, .profileShow n⟩
    | profileCheck => exact ⟨_, .profileCheck⟩
    | bench method? address? requests? limit? =>
      obtain ⟨address, ha⟩ := haccount address? rfl
      obtain ⟨method, hm⟩ := Rpc.Method.exists_parse_eq_ok_iff.2 (h.method method? rfl)
      obtain ⟨p, hp⟩ := exists_plan_iff.2 (h.limit limit? rfl)
      exact ⟨_, .bench ha hm hp⟩
    | stress address? requests? limit? report? =>
      obtain ⟨address, ha⟩ := haccount address? rfl
      obtain ⟨p, hp⟩ := exists_plan_iff.2 (h.limit limit? rfl)
      exact ⟨_, .stress ha hp⟩
    | configValidate => exact ⟨_, .configValidate⟩

/-- There is an obstacle exactly if the settings cannot be loaded or the command lacks something. -/
theorem obstacle_iff :
    Obstacle arguments environment files ↔
      ∀ config, configuration arguments environment files = .ok config →
        ¬ Ready config arguments.command := by
  constructor
  · intro h config hconfig hready
    obtain ⟨settings, hsettings, haddress, hbench⟩ := exists_fileSettings_of_configuration hconfig
    cases h with
    | unreadable hpath hread => simp [fileSettings, hpath, hread, Config.load] at hsettings
    | malformed hpath hread hparse =>
      simp only [fileSettings, hpath, hread, Config.load] at hsettings
      obtain ⟨d, hd, hc⟩ := Config.parse_eq_ok_iff.1 hsettings
      exact hparse d _ hd hc
    | noAccount hload hoption hvariable hnone =>
      obtain rfl := Except.ok.inj (hload.symm.trans hsettings)
      exact hready.account hoption (by simp [haddress, hvariable, hnone])
    | unknownMethod hload hoption hname =>
      obtain rfl := Except.ok.inj (hload.symm.trans hsettings)
      obtain ⟨m, hm, heq⟩ := hready.method _ hoption
      exact hname m hm (hbench ▸ heq)
    | nothingInFlight hload hoption hlimit =>
      obtain rfl := Except.ok.inj (hload.symm.trans hsettings)
      exact hready.limit _ hoption (hbench ▸ hlimit)
  · intro h
    refine Classical.byContradiction fun hfree => ?_
    obtain ⟨config, hconfig⟩ := configuration_eq_ok_iff.2 (exists_fileSettings hfree)
    obtain ⟨loaded, hload, haddress, hbench⟩ := exists_fileSettings_of_configuration hconfig
    refine h config hconfig ⟨fun hoption hnone => hfree ?_, fun name? hoption => ?_,
      fun limit? hoption hlimit => hfree ?_⟩
    · rw [haddress] at hnone
      cases hvariable : environment.nonBlank? "ADDRESS" with
      | some address => simp [hvariable] at hnone
      | none => exact .noAccount hload hoption hvariable (by simpa [hvariable] using hnone)
    · refine Classical.byContradiction fun hname => hfree (.unknownMethod hload hoption ?_)
      intro m hm heq
      exact hname ⟨m, hm, hbench ▸ heq⟩
    · exact .nothingInFlight hload hoption (hbench ▸ hlimit)

/-! ## Sessions -/

/-- A session does what its command does, or it is refused. -/
theorem perform_cases (arguments : Arguments) (setting : Setting) (network : Http.Network σ)
    (world : σ) :
    (∃ config act, configuration arguments setting.environment setting.files = .ok config ∧
      Acts config arguments.command act ∧
      perform arguments setting network world = act setting network world) ∨
    (∀ config, configuration arguments setting.environment setting.files = .ok config →
      ¬ Ready config arguments.command) ∧
      ∃ err, perform arguments setting network world = .refused err setting world := by
  unfold perform
  cases hconfig : configuration arguments setting.environment setting.files with
  | error f => exact .inr ⟨nofun, _, rfl⟩
  | ok config =>
    dsimp only
    cases hprepare : prepare (σ := σ) config arguments.command with
    | ok act => exact .inl ⟨config, act, rfl, prepare_eq_ok_iff.1 hprepare, rfl⟩
    | error f =>
      refine .inr ⟨?_, _, rfl⟩
      rintro _ ⟨⟩ hready
      obtain ⟨act, ha⟩ := exists_acts_iff (σ := σ).2 hready
      rw [prepare_eq_ok_iff.2 ha] at hprepare
      cases hprepare

/-- **A session fails before it acts.** For every command line that can be read and whatever
surrounds it: if the settings cannot be read, or the command asks for an account and none is given,
or for a method and the name is that of none, or may have nothing in flight, then the session fails,
nothing is sent and no file changes, whatever the network would answer. If none of these is the
case, the session does what its command does with the settings. -/
theorem obstacle_stops_session (line : List String) (arguments : Arguments)
    (hline : Arguments.read line = .ok arguments) (setting : Setting) :
    let environment := (Environment.File.loadFrom setting.files setting.environment).1
    (Obstacle arguments environment setting.files →
      ∀ (σ : Type) (network : Http.Network σ) (world : σ),
        let s := execute line setting (Http.watched network) (world, [])
        s.exit ≠ 0 ∧ s.world = (world, []) ∧ s.files = setting.files) ∧
    (¬ Obstacle arguments environment setting.files →
      ∀ (σ : Type) (network : Http.Network σ) (world : σ),
        ∃ config act, configuration arguments environment setting.files = .ok config ∧
          Acts config arguments.command act ∧
          execute line setting network world = act { setting with environment } network world) := by
  intro environment
  refine ⟨fun hobstacle σ network world => ?_, fun hfree σ network world => ?_⟩
  · intro s
    have hs : s = perform arguments { setting with environment } (Http.watched network)
        (world, []) := execute_eq hline setting _ _
    have hlacks := obstacle_iff.1 hobstacle
    obtain ⟨config, act, hconfig, ha, -⟩ | ⟨-, err, hrefused⟩ :=
      perform_cases arguments { setting with environment } (Http.watched network) (world, [])
    · exact absurd (exists_acts_iff.1 ⟨act, ha⟩) (hlacks config hconfig)
    · rw [hs, hrefused]
      exact ⟨Nat.one_ne_zero, rfl, rfl⟩
  · rw [execute_eq hline]
    obtain ⟨config, act, hconfig, ha, hacts⟩ | ⟨hlacks, -⟩ :=
      perform_cases arguments { setting with environment } network world
    · exact ⟨config, act, hconfig, ha, hacts⟩
    · exact absurd (obstacle_iff.2 hlacks) hfree

/-- What surrounds a session whose settings let nothing be in flight, with a report that stands
there from before. -/
def settingWithoutLimit : Setting where
  environment := {}
  files := .ofList ["home"] [("audit.toml", .file "[bench]\nmax_concurrent = 0\n"),
    ("stress-result.json", .file "{}")]
  now := "2026-03-01T00:00:00+00:00"
  clock := 0

/-- The arguments of a stress run with these settings. -/
def stressArguments (limit? : Option UInt64) : Arguments :=
  { command := .stress (some "one1") none limit? none, config? := some "audit.toml" }

/-- Settings that let nothing be in flight stop a stress run, to which the node would have answered,
before the report changes; a limit on the command line goes before them. -/
theorem obstacle_stops_session_withoutLimit :
    let line := ["stress", "--address=one1", "--config=audit.toml"]
    let answers : List Http.Exchange := [{ result := .answered 200 "{}".toUTF8.toList }]
    let s := execute line settingWithoutLimit (Http.watched Http.replaying) (answers, [])
    s.exit ≠ 0 ∧ s.world = (answers, []) ∧
      s.files.read "stress-result.json" = .ok "{}" ∧
      ∃ config act,
        Acts config (stressArguments (some 1)).command act ∧
        execute (line ++ ["--concurrency=1"]) settingWithoutLimit Http.deserted ()
          = act settingWithoutLimit Http.deserted () := by
  intro line answers s
  let loaded : Config := { bench := { maxConcurrent := 0 } }
  have hload : fileSettings (stressArguments none) settingWithoutLimit.files = .ok loaded := by
    decide +kernel
  have henvironment : (Environment.File.loadFrom settingWithoutLimit.files
      settingWithoutLimit.environment).1 = {} := by decide +kernel
  obtain ⟨hstops, -⟩ := obstacle_stops_session line (stressArguments none) (by decide)
    settingWithoutLimit
  obtain ⟨-, hacts⟩ := obstacle_stops_session (line ++ ["--concurrency=1"])
    (stressArguments (some 1)) (by decide) settingWithoutLimit
  have hfree : ¬ Obstacle (stressArguments (some 1))
      (Environment.File.loadFrom settingWithoutLimit.files settingWithoutLimit.environment).1
      settingWithoutLimit.files := by
    have hconfig : configuration (stressArguments (some 1)) {} settingWithoutLimit.files
        = .ok loaded := by decide +kernel
    rw [henvironment, obstacle_iff]
    refine fun h => h loaded hconfig ⟨nofun, nofun, ?_⟩
    rintro _ ⟨⟩
    decide
  obtain ⟨hexit, hsent, hfiles⟩ := hstops (.nothingInFlight hload rfl rfl) _ Http.replaying
    answers
  obtain ⟨config, act, -, ha, hdoes⟩ := hacts hfree Unit Http.deserted ()
  rw [henvironment] at hdoes
  refine ⟨hexit, hsent, ?_, config, act, ha, hdoes⟩
  rw [hfiles]
  decide +kernel

end Cli

end NodeAudit
