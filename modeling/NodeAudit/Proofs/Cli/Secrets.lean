import NodeAudit.Proofs.Cli.Acts
import NodeAudit.Proofs.Profile.Views

/-!
# Secrets do not show

`SameButSecrets n e e'` says that two environments differ at most in the mnemonic and the private
key of a network, and there only in what is not told: which text is set, as long as one is set in
both and as long as the same is wrong with the keys. `SameView` is what this comes to for each
network (`SameButSecrets.sameView`): the same problems (`SameView.problems_eq`), and profiles that
show the same (`SameView.resolve_map_eq`), since nothing shows more of a secret than whether it is
set (`SameShown`).

Main statement: `secrets_do_not_show`, for problems, profiles, reviews and whole sessions.
-/

namespace NodeAudit.Profile

variable {e e' : Environment} {m n : Network} {p p' : NetworkProfile}

/-! ## Environments that differ in secrets -/

/-- The environments differ at most in the mnemonic and the private key of the network: both are set
in both or in neither, and the same is wrong with the keys. -/
structure SameButSecrets (n : Network) (e e' : Environment) : Prop where
  other : ∀ name, name ≠ n.mnemonicVariable → name ≠ n.privateKeyVariable →
    e.get? name = e'.get? name
  mnemonic : (e.nonBlank? n.mnemonicVariable).isSome = (e'.nonBlank? n.mnemonicVariable).isSome
  privateKey : (e.nonBlank? n.privateKeyVariable).map keyProblem?
    = (e'.nonBlank? n.privateKeyVariable).map keyProblem?

/-- What the environments tell of the network is the same. -/
structure SameView (n : Network) (e e' : Environment) : Prop where
  url : e.nonBlank? n.urlVariable = e'.nonBlank? n.urlVariable
  mnemonic : (e.nonBlank? n.mnemonicVariable).isSome = (e'.nonBlank? n.mnemonicVariable).isSome
  privateKey : (e.nonBlank? n.privateKeyVariable).map keyProblem?
    = (e'.nonBlank? n.privateKeyVariable).map keyProblem?
  gas : SameGas e e'

theorem SameButSecrets.nonBlank?_eq (h : SameButSecrets n e e') {name : String}
    (hm : name ≠ n.mnemonicVariable) (hk : name ≠ n.privateKeyVariable) :
    e.nonBlank? name = e'.nonBlank? name := by
  unfold Environment.nonBlank?
  rw [h.other name hm hk]

theorem mnemonicVariable_ne (m n : Network) :
    n.urlVariable ≠ m.mnemonicVariable ∧ n.privateKeyVariable ≠ m.mnemonicVariable ∧
      (n ≠ m → n.mnemonicVariable ≠ m.mnemonicVariable) := by
  cases m <;> cases n <;> decide

theorem privateKeyVariable_ne (m n : Network) :
    n.urlVariable ≠ m.privateKeyVariable ∧ n.mnemonicVariable ≠ m.privateKeyVariable ∧
      (n ≠ m → n.privateKeyVariable ≠ m.privateKeyVariable) := by
  cases m <;> cases n <;> decide

theorem secretVariables_ne (n : Network) :
    ∀ name ∈ [Gas.limitVariable, Gas.priceVariable, Config.netUrlVariable, Config.addressVariable],
      name ≠ n.mnemonicVariable ∧ name ≠ n.privateKeyVariable := by
  cases n <;> decide

/-- The secrets of one network change what is told of none. -/
theorem SameButSecrets.sameView (h : SameButSecrets n e e') (m : Network) : SameView m e e' := by
  obtain ⟨hum, hkm, hmm⟩ := mnemonicVariable_ne n m
  obtain ⟨huk, hmk, hkk⟩ := privateKeyVariable_ne n m
  have hgas := secretVariables_ne n
  refine ⟨h.nonBlank?_eq hum huk, ?_, ?_, ?_, ?_⟩
  · by_cases hmn : m = n
    · exact hmn ▸ h.mnemonic
    · rw [h.nonBlank?_eq (hmm hmn) hmk]
  · by_cases hmn : m = n
    · exact hmn ▸ h.privateKey
    · rw [h.nonBlank?_eq hkm (hkk hmn)]
  · obtain ⟨h1, h2⟩ := hgas Gas.limitVariable (by simp)
    exact h.nonBlank?_eq h1 h2
  · obtain ⟨h1, h2⟩ := hgas Gas.priceVariable (by simp)
    exact h.nonBlank?_eq h1 h2

/-! ## What is told of a network -/

theorem SameView.problems_eq (h : SameView n e e') : problems e n = problems e' n :=
  problems_congr h.gas.limit_eq h.gas.price_eq (by rw [h.url]) h.mnemonic h.privateKey

/-- The profiles show the same: they differ at most in which secrets are set. -/
structure SameShown (p p' : NetworkProfile) : Prop where
  network : p.network = p'.network
  endpointUrl : p.endpointUrl = p'.endpointUrl
  mnemonic : p.credential.mnemonic.isSome = p'.credential.mnemonic.isSome
  privateKey : p.credential.privateKey.isSome = p'.credential.privateKey.isSome
  gas : p.gas = p'.gas

namespace SameShown

theorem shown_eq (h : SameShown p p') : p.shown = p'.shown := by
  simp only [NetworkProfile.shown, Credential.shown, Cli.redactSecret_eq, h.network,
    h.endpointUrl, h.mnemonic, h.privateKey, h.gas]

theorem profileLines_eq (h : SameShown p p') : Cli.profileLines p = Cli.profileLines p' :=
  Cli.profileLines_congr h.network (by rw [h.endpointUrl]) h.mnemonic h.privateKey h.gas

end SameShown

/-- Profiles that are read of the same network in both environments show the same. -/
theorem SameView.sameShown (h : SameView n e e') (hp : read e n = .ok p)
    (hp' : read e' n = .ok p') : SameShown p p' := by
  obtain ⟨hn, hurl, hc, hg⟩ := read_eq_ok_iff.1 hp
  obtain ⟨hn', hurl', hc', hg'⟩ := read_eq_ok_iff.1 hp'
  rw [require_eq_ok_iff] at hurl hurl'
  obtain ⟨hm, hk⟩ := Credential.make_eq_ok_iff.1 hc
  obtain ⟨hm', hk'⟩ := Credential.make_eq_ok_iff.1 hc'
  refine ⟨hn.trans hn'.symm, ?_, ?_, ?_, ?_⟩
  · rw [h.url, hurl'] at hurl
    exact (Option.some.inj hurl).symm
  · rw [hm, hm', h.mnemonic]
  · have hsome := congrArg Option.isSome h.privateKey
    rw [Option.isSome_map, Option.isSome_map] at hsome
    rw [hk, hk', hsome]
  · rw [h.gas.ofEnvironment_eq, hg'] at hg
    exact (Except.ok.inj hg).symm

/-- What is shown of the resolved network, or why it cannot be resolved, is the same. -/
theorem SameView.resolve_map_eq {α : Type} {f : NetworkProfile → α} (h : SameView n e e')
    (hf : ∀ p p', SameShown p p' → f p = f p') :
    (resolve e n).map f = (resolve e' n).map f :=
  resolve_map_congr h.problems_eq fun p p' hp hp' => hf p p' (h.sameShown hp hp')

end NodeAudit.Profile

namespace NodeAudit.Cli

open Profile

variable {e e' : Environment} {n : Network} {σ : Type}

/-! ## Commands -/

section
variable (setting : Setting) (world : σ)

theorem showProfile_eq_of_sameView (h : SameView n e e') :
    showProfile n { setting with environment := e } world
      = showProfile n { setting with environment := e' } world :=
  showProfile_congr setting world (h.resolve_map_eq fun _ _ hs => hs.profileLines_eq)

theorem checkProfiles_congr (h : ∀ n, problems e n = problems e' n) :
    checkProfiles { setting with environment := e } world
      = checkProfiles { setting with environment := e' } world := by
  simp only [checkProfiles, h]

theorem review_congr (config : Config) (h : ∀ n, problems e n = problems e' n) :
    config.review (some e) = config.review (some e') := by
  simp only [Config.review, Option.elim, Config.profileCautions, h, Option.isSome_some]

end

/-! ## Sessions -/

theorem configuration_congr (h : SameButSecrets n e e') (arguments : Arguments)
    (files : Files.Tree) : configuration arguments e files = configuration arguments e' files := by
  have hfree := secretVariables_ne n
  obtain ⟨hu, hu'⟩ := hfree Config.netUrlVariable (by simp)
  obtain ⟨ha, ha'⟩ := hfree Config.addressVariable (by simp)
  unfold configuration Config.withOverrides
  rw [h.nonBlank?_eq hu hu', h.nonBlank?_eq ha ha', h.other _ hu hu']

theorem Acts.congr {config : Config} {command : Command}
    {act : Setting → Http.Network σ → σ → Session σ} (ha : Acts config command act)
    (h : ∀ n, SameView n e e') (setting : Setting) (network : Http.Network σ) (world : σ) :
    act { setting with environment := e } network world
      = act { setting with environment := e' } network world := by
  have hp : ∀ n, problems e n = problems e' n := fun n => (h n).problems_eq
  cases ha with
  | overview => rfl
  | run => rfl
  | profileShow n => exact showProfile_eq_of_sameView setting world (h n)
  | profileCheck => exact checkProfiles_congr setting world hp
  | bench => rfl
  | stress => rfl
  | configValidate => simp only [validateConfig, review_congr config hp]

/-- A session is the same in both environments if it has the same configuration. -/
theorem perform_congr (h : ∀ n, SameView n e e') {arguments : Arguments} (setting : Setting)
    (hc : configuration arguments e setting.files = configuration arguments e' setting.files)
    (network : Http.Network σ) (world : σ) :
    perform arguments { setting with environment := e } network world
      = perform arguments { setting with environment := e' } network world := by
  unfold perform
  simp only [hc]
  cases configuration arguments e' setting.files with
  | error f => rfl
  | ok config =>
    dsimp only
    split
    · rfl
    · rename_i act hact
      exact (prepare_eq_ok_iff.1 hact).congr h setting network world

/-- **Secrets do not show.** If two environments differ at most in the mnemonic and the private key
of a network, set in both or in neither and with the same wrong with the keys, then they have the
same problems, every network can be resolved in both or fails with the same, and the profiles are
displayed and printed the same; so are the checks of all profiles and the review of every
configuration. A whole session that starts from either prints the same, sends the same and writes
the same. -/
theorem secrets_do_not_show (n : Network) (e e' : Environment) (h : SameButSecrets n e e') :
    (∀ m, problems e m = problems e' m) ∧
    (∀ m, (resolve e m).map (fun p => (p.shown.line, p.shown.lines, profileLines p))
      = (resolve e' m).map (fun p => (p.shown.line, p.shown.lines, profileLines p))) ∧
    (∀ (σ : Type) (setting : Setting) (world : σ),
      (∀ m, showProfile m { setting with environment := e } world
        = showProfile m { setting with environment := e' } world) ∧
      checkProfiles { setting with environment := e } world
        = checkProfiles { setting with environment := e' } world) ∧
    (∀ config : Config, (config.review (some e)).verdict = (config.review (some e')).verdict ∧
      (config.review (some e)).text = (config.review (some e')).text) ∧
    ∀ (σ : Type) (arguments : Arguments) (setting : Setting) (network : Http.Network σ) (world : σ),
      perform arguments { setting with environment := e } network world
        = perform arguments { setting with environment := e' } network world := by
  have hp : ∀ m, problems e m = problems e' m := fun m => (h.sameView m).problems_eq
  refine ⟨hp, fun m => ?_, fun σ setting world => ⟨fun m => ?_, ?_⟩, fun config => ?_,
    fun σ arguments setting network world => ?_⟩
  · refine (h.sameView m).resolve_map_eq fun p p' hs => ?_
    rw [hs.shown_eq, hs.profileLines_eq]
  · exact showProfile_eq_of_sameView setting world (h.sameView m)
  · exact checkProfiles_congr setting world hp
  · rw [review_congr config hp]
    exact ⟨rfl, rfl⟩
  · have hc := configuration_congr h arguments setting.files
    exact perform_congr h.sameView setting hc network world

/-- A well-formed key in place of another changes nothing of the display. -/
theorem secrets_do_not_show_otherKey :
    let e := paddedVariables
    let e' := e.set Network.localnet.privateKeyVariable
      ("0x" ++ String.ofList (List.replicate 64 'b'))
    SameButSecrets .localnet e e' ∧
      e.nonBlank? Network.localnet.privateKeyVariable
        ≠ e'.nonBlank? Network.localnet.privateKeyVariable ∧
      problems e' .localnet = [] ∧
      (resolve e .localnet).map (fun p => (p.shown.line, p.shown.lines, profileLines p))
        = (resolve e' .localnet).map (fun p => (p.shown.line, p.shown.lines, profileLines p)) := by
  intro e e'
  have hkey : e.nonBlank? Network.localnet.privateKeyVariable
      ≠ e'.nonBlank? Network.localnet.privateKeyVariable := by decide
  have hsame : SameButSecrets .localnet e e' := by
    refine ⟨fun name _ hk => ?_, by decide, by decide⟩
    exact (Environment.get?_set_of_ne e hk _).symm
  obtain ⟨hp, hshown, -⟩ := secrets_do_not_show .localnet e e' hsame
  refine ⟨hsame, hkey, ?_, hshown .localnet⟩
  rw [← hp]
  decide

end NodeAudit.Cli
