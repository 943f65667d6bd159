import NodeAudit.Proofs.Cli.Secrets
import NodeAudit.Proofs.Cli.Sent
import NodeAudit.Proofs.Json.Record

/-!
# The address of the node

The address of the node comes from the command line, the variable of the environment, the file that
the command line names, or the defaults, the first of these that gives one (`endpoint`). In the
documented order a blank variable gives none and the blanks around its value do not count
(`documentedEndpoint`).

Main statement: `session_endpoint`. Every session uses `endpoint`: its requests go there and its
review is about it. The two orders agree if the address stands on the command line, and also if the
variable is unset or holds a text that is not blank with no blanks around it; otherwise the value of
the variable counts as it is, even a blank one (`session_endpoint_blank`).
-/

namespace NodeAudit.Config

variable {origin : Origin} {d : Document}

/-! ## What a file says -/

/-- The address that a section gives the node, if it gives one. -/
def Harness.givenUrl? (d : Document) : Option String :=
  (d.given? "net_url" 0).bind fun d => d.text.toOption

/-- The address that the text of a file gives the node, if it gives one. -/
def givenUrl? (text : String) : Option String :=
  ((Toml.read text).bind (·.given? "harness" 0)).bind Harness.givenUrl?

theorem Harness.lawful_fields : Document.Lawful Harness.fields where
  nodup := by decide
  get_set := by simp [fields]
  apart := by simp [fields, Document.Field.apart_iff]
  ext := by
    rintro ⟨⟩ ⟨⟩ h
    simpa [fields] using h

theorem lawful_fields : Document.Lawful (fields origin) where
  nodup := by simp [fields]
  get_set := by simp [fields]
  apart := by simp [fields, Document.Field.apart_iff]
  ext := by
    rintro ⟨⟩ ⟨⟩ h
    simpa [fields] using h

theorem Harness.netUrl_of_decode {h : Harness} (hd : Harness.decode origin d = .ok h) :
    h.netUrl = (givenUrl? d).getD ({} : Harness).netUrl := by
  obtain ⟨s, hs, hh⟩ := bind_eq_ok_iff.1 hd
  obtain rfl := Except.ok.inj hh
  dsimp only
  have hget : s.netUrl = _ := Document.record_get (i := 0) lawful_fields rfl rfl hs
  rw [Fields.complete, hget]
  rfl

theorem netUrl_of_decode {c : Config} (hd : decode origin d = .ok c) :
    c.harness.netUrl
      = ((d.given? "harness" 0).bind Harness.givenUrl?).getD ({} : Harness).netUrl := by
  obtain ⟨s, hs, hc⟩ := bind_eq_ok_iff.1 hd
  obtain rfl := Except.ok.inj hc
  have hslot : (d.given? "harness" 0).map (Harness.decode origin) = s.harness.map .ok :=
    Document.record_field (i := 0) lawful_fields rfl rfl hs
  dsimp only
  cases hentry : d.given? "harness" 0 with
  | none =>
    rw [hentry] at hslot
    cases hget : s.harness with
    | none => rfl
    | some h =>
      rw [hget] at hslot
      cases hslot
  | some harness =>
    rw [hentry] at hslot
    cases hget : s.harness with
    | none =>
      rw [hget] at hslot
      cases hslot
    | some h =>
      rw [hget] at hslot
      exact Harness.netUrl_of_decode (Option.some.inj hslot)

theorem parse_eq_ok_iff {text : String} {c : Config} :
    parse text = .ok c ↔ ∃ d, Toml.read text = some d ∧ decode .table d = .ok c := by
  unfold parse
  cases Toml.read text with
  | none => simp
  | some d => cases hd : decode .table d <;> simp [hd]

/-- A file that loads gives the node its address, or the defaults do. -/
theorem netUrl_of_load {r : Except FileError String} {c : Config} (hl : load r = .ok c) :
    c.harness.netUrl = (r.toOption.bind givenUrl?).getD ({} : Harness).netUrl := by
  cases r with
  | error e => cases hl
  | ok text =>
    obtain ⟨d, ht, hd⟩ := parse_eq_ok_iff.1 hl
    have hgiven : givenUrl? text = (d.given? "harness" 0).bind Harness.givenUrl? := by
      rw [givenUrl?, ht, Option.bind_some]
    rw [netUrl_of_decode hd, ← hgiven]
    rfl

end NodeAudit.Config

namespace NodeAudit.Cli

variable {arguments : Arguments} {environment : Environment} {files : Files.Tree}
  {config : Config} {σ : Type}

/-! ## Which address counts -/

/-- The settings of the file that a command line names, or the defaults. -/
def fileSettings (arguments : Arguments) (files : Files.Tree) : Except Failure Config :=
  match arguments.config? with
  | some path => Config.load (files.read path)
  | none => .ok {}

/-- The address that the file gives which a command line names. -/
def fileUrl? (arguments : Arguments) (files : Files.Tree) : Option String :=
  arguments.config?.bind fun path => (files.read path).toOption.bind Config.givenUrl?

/-- The address of the node: the first that is given on the command line, by the variable of the
environment or by the file, or else the default. -/
def endpoint (arguments : Arguments) (environment : Environment) (files : Files.Tree) : String :=
  (arguments.netUrl? <|> environment.get? Config.netUrlVariable <|>
    fileUrl? arguments files).getD "http://localhost:9500"

/-- The address of the node if a blank variable gives none and blanks around its value do not
count. -/
def documentedEndpoint (arguments : Arguments) (environment : Environment) (files : Files.Tree) :
    String :=
  (arguments.netUrl? <|> environment.nonBlank? Config.netUrlVariable <|>
    fileUrl? arguments files).getD "http://localhost:9500"

theorem netUrl_of_fileSettings {c : Config} (h : fileSettings arguments files = .ok c) :
    c.harness.netUrl = (fileUrl? arguments files).getD "http://localhost:9500" := by
  unfold fileSettings at h
  unfold fileUrl?
  cases hpath : arguments.config? with
  | none =>
    rw [hpath] at h
    obtain rfl := Except.ok.inj h
    rfl
  | some path =>
    rw [hpath] at h
    exact Config.netUrl_of_load h

theorem configuration_eq (arguments : Arguments) (environment : Environment) (files : Files.Tree) :
    configuration arguments environment files = (fileSettings arguments files).map fun c =>
      let config := c.withOverrides environment
      { config with harness := { config.harness with
        netUrl := (arguments.netUrl? <|> environment.get? Config.netUrlVariable).getD
          config.harness.netUrl } } := by
  unfold configuration fileSettings
  cases arguments.config? with
  | none => rfl
  | some path => cases Config.load (files.read path) <;> rfl

theorem configuration_eq_ok_iff :
    (∃ config, configuration arguments environment files = .ok config) ↔
      ∃ c, fileSettings arguments files = .ok c := by
  rw [configuration_eq]
  cases fileSettings arguments files <;> simp [Except.map]

theorem configuration_netUrl (h : configuration arguments environment files = .ok config) :
    config.harness.netUrl = endpoint arguments environment files := by
  rw [configuration_eq] at h
  obtain ⟨c, hc, rfl⟩ := map_eq_ok_iff.1 h
  have hfile := netUrl_of_fileSettings hc
  unfold endpoint
  cases hflag : arguments.netUrl? with
  | some url => rfl
  | none =>
    cases hraw : environment.get? Config.netUrlVariable with
    | some raw => rfl
    | none =>
      -- a variable that is unset is not taken by the overrides either
      have hblank : environment.nonBlank? Config.netUrlVariable = none := by
        rw [Environment.nonBlank?, hraw]
        rfl
      simp only [Config.withOverrides, hblank]
      exact hfile

/-- The two orders agree if the command line gives the address or the variable needs no trimming. -/
theorem endpoint_eq_documentedEndpoint
    (h : arguments.netUrl? = none →
      environment.get? Config.netUrlVariable = environment.nonBlank? Config.netUrlVariable) :
    endpoint arguments environment files = documentedEndpoint arguments environment files := by
  unfold endpoint documentedEndpoint
  cases hflag : arguments.netUrl? with
  | some url => rfl
  | none => rw [h hflag]

/-! ## The variable beside the command line -/

theorem sameView_set_netUrl (environment : Environment) (raw : String) (n : Profile.Network) :
    Profile.SameView n (environment.set Config.netUrlVariable raw) environment := by
  have hother : ∀ name ≠ Config.netUrlVariable,
      (environment.set Config.netUrlVariable raw).nonBlank? name = environment.nonBlank? name :=
    fun name hne => Environment.nonBlank?_set_of_ne environment hne raw
  have hurl : n.urlVariable ≠ Config.netUrlVariable := by cases n <;> decide
  have hmnemonic : n.mnemonicVariable ≠ Config.netUrlVariable := by cases n <;> decide
  have hkey : n.privateKeyVariable ≠ Config.netUrlVariable := by cases n <;> decide
  exact ⟨hother _ hurl, by rw [hother _ hmnemonic], by rw [hother _ hkey],
    hother _ (by decide), hother _ (by decide)⟩

/-- If the address stands on the command line, the variable has no bearing on the configuration. -/
theorem configuration_set_netUrl {url : String} (h : arguments.netUrl? = some url) (raw : String) :
    configuration arguments (environment.set Config.netUrlVariable raw) files
      = configuration arguments environment files := by
  have haddress : (environment.set Config.netUrlVariable raw).nonBlank? Config.addressVariable
      = environment.nonBlank? Config.addressVariable :=
    Environment.nonBlank?_set_of_ne environment (by decide) raw
  unfold configuration Config.withOverrides
  rw [h, haddress]
  rfl

/-! ## Sessions -/

theorem execute_eq {line : List String} (h : Arguments.read line = .ok arguments)
    (setting : Setting) (network : Http.Network σ) (world : σ) :
    execute line setting network world
      = perform arguments { setting with
        environment := (Environment.File.loadFrom setting.files setting.environment).1 }
        network world := by
  unfold execute
  rw [h]

/-- **The address of the node in a session.** For every command line, whatever surrounds it: there
is a configuration exactly if the file loads. The address of the node is then the one given first by
the command line, the variable, the file or the defaults, and that is the documented address if the
command line gives it or the variable needs no trimming. Whatever the network answers, the session
sends nothing but to that address, and a review is about it. If the command line gives the address,
the session does not depend on the variable, be it blank or unset. -/
theorem session_endpoint (line : List String) (arguments : Arguments)
    (hl : Arguments.read line = .ok arguments) (setting : Setting) :
    let environment := (Environment.File.loadFrom setting.files setting.environment).1
    ((∃ config, configuration arguments environment setting.files = .ok config) ↔
      ∃ c, fileSettings arguments setting.files = .ok c) ∧
    (∀ config, configuration arguments environment setting.files = .ok config →
      config.harness.netUrl = endpoint arguments environment setting.files ∧
      ((arguments.netUrl? = none → environment.get? Config.netUrlVariable
          = environment.nonBlank? Config.netUrlVariable) →
        config.harness.netUrl = documentedEndpoint arguments environment setting.files) ∧
      (∀ (σ : Type) (network : Http.Network σ) (world : σ),
        Http.SentTo config.harness.netUrl
          (execute line setting (Http.watched network) (world, [])).world.2) ∧
      (arguments.command = .configValidate → ∀ (σ : Type) (network : Http.Network σ) (world : σ),
        let s := execute line setting network world
        s.out = (config.review (some environment)).lines ∧
          (s.exit = 0 ↔ config.faults = []))) ∧
    ((∃ url, arguments.netUrl? = some url) → ∀ (raw : String) (σ : Type)
      (network : Http.Network σ) (world : σ),
      perform arguments { setting with
          environment := environment.set Config.netUrlVariable raw } network world
        = perform arguments { setting with environment } network world) := by
  intro environment
  refine ⟨configuration_eq_ok_iff, fun config hc => ⟨configuration_netUrl hc, fun hraw => ?_,
    fun σ network world => ?_, fun hcommand σ network world => ?_⟩, ?_⟩
  · rw [configuration_netUrl hc, endpoint_eq_documentedEndpoint hraw]
  · rw [execute_eq hl]
    exact perform_sendsTo arguments { setting with environment } network world hc
  · intro s
    have hs : s = validateConfig config { setting with environment } world := by
      simp only [s, execute_eq hl, perform, hcommand, prepare]
      rw [hc]
    have hfaults : (config.review (some environment)).faults = config.faults := rfl
    rw [hs, validateConfig]
    refine ⟨rfl, ?_⟩
    simp [hfaults]
  · rintro ⟨url, hurl⟩ raw σ network world
    exact perform_congr (sameView_set_netUrl environment raw) { setting with environment }
      (configuration_set_netUrl hurl raw) network world

/-- What surrounds a session with a file that gives the node an address, and with a value of the
variable. -/
def settingWith (raw? : Option String) : Setting where
  environment := { entries := raw?.toList.map ("NET_URL", ·) }
  files := .ofList ["home"] [("audit.toml", .file "[harness]\nnet_url = \"http://file:1\"\n")]
  now := "2026-03-01T00:00:00+00:00"
  clock := 0

/-- The arguments of a line that asks for the review of that file. -/
def reviewArguments : Arguments := { command := .configValidate, config? := some "audit.toml" }

/-- The address of the file counts where nothing else gives one. -/
theorem session_endpoint_file :
    ∃ config, configuration reviewArguments
        (Environment.File.loadFrom (settingWith none).files (settingWith none).environment).1
        (settingWith none).files = .ok config ∧
      config.harness.netUrl = "http://file:1" := by
  obtain ⟨⟨-, hloads⟩, hconfig, -⟩ :=
    session_endpoint ["config", "validate", "--config=audit.toml"] reviewArguments (by decide)
      (settingWith none)
  have hfile : ∃ c, fileSettings reviewArguments (settingWith none).files = .ok c :=
    ⟨{ harness := { netUrl := "http://file:1" } }, by decide +kernel⟩
  obtain ⟨config, hc⟩ := hloads hfile
  refine ⟨config, hc, ?_⟩
  rw [(hconfig config hc).2.1 fun _ => by decide +kernel]
  decide +kernel

/-- Without an address on the command line a blank variable counts: it makes the configuration
unusable, where one that is unset leaves the address of the file, and blanks around a value stay. -/
theorem session_endpoint_blank :
    let line := ["config", "validate", "--config=audit.toml"]
    let blank := settingWith (some " ")
    let padded := settingWith (some " http://a ")
    Arguments.read line = .ok reviewArguments ∧
      endpoint reviewArguments blank.environment blank.files = " " ∧
      documentedEndpoint reviewArguments blank.environment blank.files = "http://file:1" ∧
      endpoint reviewArguments (settingWith none).environment (settingWith none).files
        = "http://file:1" ∧
      endpoint reviewArguments padded.environment padded.files = " http://a " ∧
      documentedEndpoint reviewArguments padded.environment padded.files = "http://a" ∧
      (execute line blank Http.deserted ()).exit = 1 := by
  decide +kernel

end NodeAudit.Cli
