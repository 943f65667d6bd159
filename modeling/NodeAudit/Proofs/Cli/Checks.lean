import NodeAudit.Proofs.Cli.Endpoint

/-!
# Three ways to check the networks

A network is checked by resolving it, by the check of all profiles and by the review of a
configuration. All of them go by `Profile.problems`: resolving fails with the problems joined
(`Profile.resolve_of_problems_ne_nil`), the check prints one a line (`checkProfiles_out`), and the
review puts one caution each behind those of the configuration (`verdict_review`).

Main statement: `network_checks_agree`.
-/

namespace NodeAudit

open Profile

variable {env : Environment}

/-! ## Reviews -/

namespace Config

theorem profileCautions_eq_nil_iff : profileCautions env = [] ↔ ∀ n, problems env n = [] := by
  simp only [profileCautions, List.flatMap_eq_nil_iff, List.map_eq_nil_iff]
  exact ⟨fun h n => h n n.mem_all, fun h n _ => h n⟩

theorem messages_profileCautions (env : Environment) :
    (profileCautions env).map Caution.message
      = Network.all.flatMap fun n => (problems env n).map fun p => n.name ++ ": " ++ p := by
  rw [profileCautions, List.map_flatMap]
  simp only [List.map_map]
  rfl

theorem verdict_review (c : Config) (profiles? : Option Environment) :
    (c.review profiles?).verdict =
      if c.faults = [] then .ok (c.cautions ++ profiles?.elim [] profileCautions)
      else .error c.faults := by
  simp only [Review.verdict, review, List.isEmpty_iff]

/-- If a review goes well, its cautions are those that it has without profiles exactly if no network
has a problem. -/
theorem verdict_review_none_iff {c : Config} {cautions : List Caution}
    (h : (c.review (some env)).verdict = .ok cautions) :
    (c.review none).verdict = .ok cautions ↔ ∀ n, problems env n = [] := by
  rw [verdict_review] at h ⊢
  split at h
  · rename_i hfaults
    obtain rfl := Except.ok.inj h
    rw [if_pos hfaults, Except.ok.injEq, ← profileCautions_eq_nil_iff]
    simp only [Option.elim, List.append_nil, List.self_eq_append_right]
  · cases h

theorem exists_own_cautions {c : Config} {cautions : List Caution}
    (h : (c.review (some env)).verdict = .ok cautions) :
    ∃ own, (c.review none).verdict = .ok own ∧
      cautions.map Caution.message = own.map Caution.message ++
        Network.all.flatMap fun n => (problems env n).map fun p => n.name ++ ": " ++ p := by
  refine ⟨c.cautions, ?_⟩
  rw [verdict_review] at h ⊢
  split at h
  · rename_i hfaults
    obtain rfl := Except.ok.inj h
    rw [if_pos hfaults, Option.elim, Option.elim, List.append_nil, List.map_append,
      messages_profileCautions]
    exact ⟨rfl, rfl⟩
  · cases h

theorem verdict_review_eq_error_iff {c : Config} {faults : List Fault} :
    (c.review (some env)).verdict = .error faults ↔ (c.review none).verdict = .error faults := by
  rw [verdict_review, verdict_review]
  split <;> simp

end Config

namespace Cli

variable {σ : Type}

/-! ## Checks of all profiles -/

theorem checkProfiles_exit (setting : Setting) (world : σ) :
    (checkProfiles setting world).exit = 0 ↔ ∀ n, problems setting.environment n = [] := by
  have hall : (Network.all.all fun n => (problems setting.environment n).isEmpty) = true ↔
      ∀ n, problems setting.environment n = [] := by
    simp only [List.all_eq_true, List.isEmpty_iff]
    exact ⟨fun h n => h n n.mem_all, fun h n _ => h n⟩
  rw [← hall]
  simp [checkProfiles]

theorem checkProfiles_out (setting : Setting) (world : σ) :
    (checkProfiles setting world).out = Network.all.flatMap fun n =>
      ((if problems setting.environment n = [] then "✓ " else "✗ ") ++ n.name) ::
        (problems setting.environment n).map ("   - " ++ ·) := by
  simp only [checkProfiles, checkLines, List.isEmpty_iff]

/-! ## Reviews of configurations -/

theorem validateConfig_exit (config : Config) (setting : Setting) (world : σ) :
    (validateConfig config setting world).exit = 0 ↔ config.faults = [] := by
  have hexit : (validateConfig config setting world).exit
      = if config.faults.isEmpty then 0 else 1 := rfl
  rw [hexit, ← List.isEmpty_iff]
  split <;> simp [*]

theorem validateConfig_out (config : Config) (setting : Setting) (world : σ) :
    (validateConfig config setting world).out =
      let errors := config.faults.map Config.Fault.message
      let warnings := config.cautions.map Config.Caution.message ++ Network.all.flatMap fun n =>
        (problems setting.environment n).map fun p => n.name ++ ": " ++ p
      "=== Configuration Validation ===" ::
        (if errors = [] then ["✓ Configuration validation successful!"]
          else "✗ Configuration validation failed!" :: "" :: "❌ Errors:" ::
            errors.map ("   - " ++ ·))
        ++ if warnings = [] then [] else "" :: "⚠️  Warnings:" :: warnings.map ("   - " ++ ·) := by
  have hlines : (validateConfig config setting world).out
      = (config.review (some setting.environment)).lines := rfl
  rw [hlines, ← Config.messages_profileCautions, ← List.map_append]
  simp only [Config.Review.lines, Config.review, Config.Review.listing, Option.elim,
    Option.isSome_some, if_true, List.nil_append, List.isEmpty_iff, List.map_eq_nil_iff]
  split <;> simp [*]

/-! ## The checks agree -/

/-- **The checks of the networks agree.** Whatever the environment: every network can be resolved
exactly if all of them are, exactly if the check of all profiles exits with zero, and, for a
configuration without faults, exactly if the review has the same cautions as without the profiles.
What cannot be resolved fails with the problems that the check prints of the network and that the
review puts, with the network's name, behind the cautions of the configuration, in the same order;
and faults are the same with the profiles and without. So it prints them, faults or not. -/
theorem network_checks_agree (setting : Setting) :
    let env := (Environment.File.loadFrom setting.files setting.environment).1
    ((∃ ps, resolveAll env = .ok ps) ↔ ∀ n, ∃ p, resolve env n = .ok p) ∧
    (∀ n, (∃ p, resolve env n = .ok p) ∧ problems env n = [] ∨
      problems env n ≠ [] ∧ resolve env n
        = .error (.configuration (n.name ++ ": " ++ String.intercalate "; " (problems env n)))) ∧
    (∀ line arguments config, Arguments.read line = .ok arguments →
      configuration arguments env setting.files = .ok config →
      ∀ (σ : Type) (network : Http.Network σ) (world : σ),
        let s := execute line setting network world
        (arguments.command = .profileCheck →
          (s.exit = 0 ↔ ∀ n, ∃ p, resolve env n = .ok p) ∧
          s.out = [Network.localnet, .devnet, .mainnet0].flatMap fun n =>
            ((if problems env n = [] then "✓ " else "✗ ") ++ n.name) ::
              (problems env n).map ("   - " ++ ·)) ∧
        (arguments.command = .configValidate →
          let errors := config.faults.map Config.Fault.message
          let warnings := config.cautions.map Config.Caution.message ++
            [Network.localnet, .devnet, .mainnet0].flatMap fun n =>
              (problems env n).map fun p => n.name ++ ": " ++ p
          (s.exit = 0 ↔ errors = []) ∧
          s.out = "=== Configuration Validation ===" ::
            (if errors = [] then ["✓ Configuration validation successful!"]
              else "✗ Configuration validation failed!" :: "" :: "❌ Errors:" ::
                errors.map ("   - " ++ ·))
            ++ if warnings = [] then [] else
              "" :: "⚠️  Warnings:" :: warnings.map ("   - " ++ ·))) ∧
    ∀ config : Config,
      (∀ cautions, (config.review (some env)).verdict = .ok cautions →
        ((config.review none).verdict = .ok cautions ↔ ∀ n, ∃ p, resolve env n = .ok p) ∧
        ∃ own, (config.review none).verdict = .ok own ∧
          cautions.map Config.Caution.message = own.map Config.Caution.message ++
            [Network.localnet, .devnet, .mainnet0].flatMap fun n =>
              (problems env n).map fun p => n.name ++ ": " ++ p) ∧
      ∀ faults, (config.review (some env)).verdict = .error faults ↔
        (config.review none).verdict = .error faults := by
  intro env
  have hresolve : (∀ n, ∃ p, resolve env n = .ok p) ↔ ∀ n, problems env n = [] :=
    forall_congr' fun n => exists_resolve_eq_ok_iff
  refine ⟨exists_resolveAll_eq_ok_iff.trans hresolve.symm, fun n => ?_,
    fun line arguments config hl hc σ network world => ?_, fun config => ⟨?_, fun faults => ?_⟩⟩
  · by_cases hn : problems env n = []
    · exact .inl ⟨exists_resolve_eq_ok_iff.2 hn, hn⟩
    · exact .inr ⟨hn, resolve_of_problems_ne_nil hn⟩
  · intro s
    have hs : s = perform arguments { setting with environment := env } network world :=
      execute_eq hl setting network world
    constructor
    · intro hcommand
      have hcheck : s = checkProfiles { setting with environment := env } world := by
        rw [hs, perform, hc]
        simp only [hcommand, prepare]
      rw [hcheck, hresolve]
      exact ⟨checkProfiles_exit _ world, checkProfiles_out _ world⟩
    · intro hcommand errors warnings
      have hvalidate : s = validateConfig config { setting with environment := env } world := by
        rw [hs, perform, hc]
        simp only [hcommand, prepare]
      rw [hvalidate]
      exact ⟨(validateConfig_exit config _ world).trans List.map_eq_nil_iff.symm,
        validateConfig_out config _ world⟩
  · intro cautions hok
    exact ⟨(Config.verdict_review_none_iff hok).trans hresolve.symm,
      Config.exists_own_cautions hok⟩
  · exact Config.verdict_review_eq_error_iff

/-- What surrounds a session in which one network is healthy and the others have no variables. -/
def oneHealthy : Setting where
  environment := paddedVariables
  files := .ofList ["home"] []
  now := "2026-03-01T00:00:00+00:00"
  clock := 0

/-- Settings without faults. -/
def faultless : Config := { harness := { netUrl := "http://[::1]:9500" } }

/-- One network that cannot be resolved makes the check of all fail and changes a review, in which
it is named also if the configuration is refused. -/
theorem network_checks_agree_oneHealthy :
    let s := execute ["profile", "check"] oneHealthy Http.deserted ()
    s.exit ≠ 0 ∧
      s.out = ["✓ localnet",
        "✗ devnet", "   - DEVNET_0_URL is not set",
          "   - neither DEVNET_MNEMONIC nor DEVNET_PRIVATE_KEY is set",
        "✗ mainnet0", "   - MAINNET_0_URL is not set",
          "   - neither MAINNET_MNEMONIC nor MAINNET_PRIVATE_KEY is set"] ∧
      (execute ["config", "validate", "--net-url=ftp://[::1]"] oneHealthy Http.deserted ()).out
        = ["=== Configuration Validation ===", "✗ Configuration validation failed!",
          "", "❌ Errors:",
          "   - harness.net_url must use http or https, got scheme 'ftp'",
          "", "⚠️  Warnings:",
          "   - No account address configured - `run` needs ADDRESS or --address",
          "   - devnet: DEVNET_0_URL is not set",
          "   - devnet: neither DEVNET_MNEMONIC nor DEVNET_PRIVATE_KEY is set",
          "   - mainnet0: MAINNET_0_URL is not set",
          "   - mainnet0: neither MAINNET_MNEMONIC nor MAINNET_PRIVATE_KEY is set"] ∧
      ∃ cautions, (faultless.review (some paddedVariables)).verdict = .ok cautions ∧
        (faultless.review none).verdict ≠ .ok cautions := by
  intro s
  have hload : (Environment.File.loadFrom oneHealthy.files oneHealthy.environment).1
      = paddedVariables := by decide
  obtain ⟨-, hresolve, hsession, hreview⟩ := network_checks_agree oneHealthy
  rw [hload] at hresolve hsession hreview
  have hsick : ¬ ∀ n, ∃ p, resolve paddedVariables n = .ok p := by
    intro h
    obtain ⟨p, hp⟩ := h .devnet
    obtain ⟨-, hnil⟩ | ⟨-, hfail⟩ := hresolve .devnet
    · exact absurd hnil (by decide)
    · rw [hfail] at hp
      cases hp
  obtain ⟨hexit, hout⟩ := (hsession ["profile", "check"] { command := .profileCheck } {} (by decide)
    (by decide +kernel) Unit Http.deserted ()).1 rfl
  obtain ⟨-, hprinted⟩ := (hsession ["config", "validate", "--net-url=ftp://[::1]"]
    { command := .configValidate, netUrl? := some "ftp://[::1]" }
    { harness := { netUrl := "ftp://[::1]" } } (by decide) (by decide +kernel) Unit Http.deserted
    ()).2 rfl
  have hfaults : faultless.faults = [] := by decide +kernel
  have hok := Config.verdict_review faultless (some paddedVariables)
  rw [if_pos hfaults] at hok
  refine ⟨fun h => hsick (hexit.1 h), hout.trans (by decide +kernel),
    hprinted.trans (by decide +kernel), _, hok, fun h => ?_⟩
  exact hsick (((hreview faultless).1 _ hok).1.1 h)

end Cli

end NodeAudit
