import NodeAudit.Profile.Provider
import NodeAudit.Proofs.Profile.Key
import NodeAudit.Proofs.Profile.Resolve

/-!
# The protocol of a hand-over

A provider goes through stages: it is absent, connected, has imported a key, has a signer. `Step`
tells which call may be made at a stage and what comes of it, and `Run` which calls may be made one
after the other: a call that fails is the last. At every stage only so many kinds of calls remain
(`Step.remaining_eq`), so that the calls of a run are a beginning of those
(`Run.kinds_isPrefix`), and a run fails exactly if a call of it does, with the same failure
(`Run.ok_iff`, `Run.error_iff`).

`HandsOver` lists all that handing a profile over can come to (`handsOver`). From it is read that
the calls go through such a run from the start (`HandsOver.exists_run`), and are made with the parts
of the profile (`HandsOver.exists_eq_cons`, `HandsOver.addCredential_mem_iff`,
`HandsOver.setSigner_mem_iff`).

Main statement: `hand_over_follows_protocol`.
-/

namespace NodeAudit.Profile

variable {π α : Type}

/-- The kind of a call. -/
inductive Call.Kind where
  | connect
  | addCredential
  | setSigner
deriving DecidableEq, Repr

/-- The kind of the call. -/
def Call.kind : Call α → Call.Kind
  | connect _ _ _ _ => .connect
  | addCredential _ => .addCredential
  | setSigner _ => .setSigner

/-- How far a provider has come. -/
inductive Stage (π α : Type) where
  | absent
  | connected (provider : π)
  /-- A key has been imported, and this is its account. -/
  | imported (provider : π) (account : α)
  | signed (provider : π)

namespace Stage

/-- The provider at the stage, unless it is absent. -/
def provider? : Stage π α → Option π
  | absent => none
  | connected provider | imported provider _ | signed provider => some provider

/-- The kinds of calls that remain at the stage, in order. -/
def remaining : Stage π α → List Call.Kind
  | absent => [.connect, .addCredential, .setSigner]
  | connected _ => [.addCredential, .setSigner]
  | imported _ _ => [.setSigner]
  | signed _ => []

end Stage

/-- The call may be made at the stage, and this comes of it. -/
inductive Step (factory : Factory π α) :
    Stage π α → Call α → Except Failure (Stage π α) → Prop where
  | connect {url : String} {credential : Credential} {chain : ChainOptions} {gas : Gas}
      {answer : Except Failure π} (h : factory.connect url credential chain gas = answer) :
      Step factory .absent (.connect url credential chain gas) (answer.map .connected)
  | addCredential {provider : π} {key : String} {answer : Except Failure (α × π)}
      (h : factory.addCredential provider key = answer) :
      Step factory (.connected provider) (.addCredential key)
        (answer.map fun r => .imported r.2 r.1)
  /-- The signer is the account of the key that was imported. -/
  | setSigner {provider : π} {account : α} :
      Step factory (.imported provider account) (.setSigner account)
        (.ok (.signed (factory.setSigner provider account)))

/-- The calls may be made one after the other from the stage on, each with its failure if it has
one, and this comes of them. -/
inductive Run (factory : Factory π α) :
    Stage π α → List (Call α × Option Failure) → Except Failure (Stage π α) → Prop where
  | stop {s : Stage π α} : Run factory s [] (.ok s)
  | step {s s' : Stage π α} {call : Call α} {log : List (Call α × Option Failure)}
      {r : Except Failure (Stage π α)} (hstep : Step factory s call (.ok s'))
      (hrest : Run factory s' log r) : Run factory s ((call, none) :: log) r
  | fail {s : Stage π α} {call : Call α} {f : Failure} (hstep : Step factory s call (.error f)) :
      Run factory s [(call, some f)] (.error f)

variable {factory : Factory π α} {s s' : Stage π α} {call : Call α}
  {log : List (Call α × Option Failure)} {r : Except Failure (Stage π α)} {f : Failure}

/-! ## Runs -/

/-- A call is of the kind that is next, and one that succeeds leaves the others. -/
theorem Step.remaining_eq (h : Step factory s call r) :
    ∃ rest, s.remaining = call.kind :: rest ∧ ∀ s', r = .ok s' → s'.remaining = rest := by
  cases h with
  | connect =>
    refine ⟨_, rfl, fun s' hs' => ?_⟩
    obtain ⟨provider, -, rfl⟩ := map_eq_ok_iff.1 hs'
    rfl
  | addCredential =>
    refine ⟨_, rfl, fun s' hs' => ?_⟩
    obtain ⟨answer, -, rfl⟩ := map_eq_ok_iff.1 hs'
    rfl
  | setSigner =>
    refine ⟨_, rfl, fun s' hs' => ?_⟩
    obtain rfl := Except.ok.inj hs'
    rfl

namespace Run

/-- The calls of a run are of the first kinds that remain. -/
theorem kinds_isPrefix (h : Run factory s log r) :
    (log.map fun e => e.1.kind) <+: s.remaining := by
  induction h with
  | stop => exact List.nil_prefix
  | step hstep hrest ih =>
    obtain ⟨rest, hremaining, hnext⟩ := hstep.remaining_eq
    rw [hnext _ rfl] at ih
    rw [hremaining, List.map_cons]
    exact (List.prefix_cons_inj _).2 ih
  | fail hstep =>
    obtain ⟨rest, hremaining, -⟩ := hstep.remaining_eq
    rw [hremaining]
    exact (List.prefix_cons_inj _).2 List.nil_prefix

theorem ok_iff (h : Run factory s log r) : (∃ s', r = .ok s') ↔ ∀ e ∈ log, e.2 = none := by
  induction h with
  | stop => simp
  | step hstep hrest ih => simpa using ih
  | fail hstep => simp

/-- A run fails exactly if a call of it does, and with its failure. -/
theorem error_iff (h : Run factory s log r) : r = .error f ↔ ∃ call, (call, some f) ∈ log := by
  induction h with
  | stop => simp
  | step hstep hrest ih => simpa using ih
  | fail hstep => simp [eq_comm]

theorem eq_none_of_mem_dropLast (h : Run factory s log r) : ∀ e ∈ log.dropLast, e.2 = none := by
  induction h with
  | stop => simp
  | @step s s' call log r hstep hrest ih =>
    cases log with
    | nil => simp
    | cons e log => simpa using ih
  | fail hstep => simp

end Run

/-! ## What is handed over -/

variable {env : Environment} {n : Network} {p : NetworkProfile}

/-- The call that connects with the parts of the profile. -/
def connecting (p : NetworkProfile) : Call α :=
  .connect p.endpointUrl p.credential p.chainOptions p.gas

/-- What the factory makes of the parts of the profile. -/
def Factory.connection (factory : Factory π α) (p : NetworkProfile) : Except Failure π :=
  factory.connect p.endpointUrl p.credential p.chainOptions p.gas

/-- All that handing a profile over can come to. -/
inductive HandsOver (factory : Factory π α) (p : NetworkProfile) :
    List (Call α) × Except Failure π → Prop where
  | unconnected {f : Failure} (hconnect : factory.connection p = .error f) :
      HandsOver factory p ([connecting p], .error f)
  | unsigned {provider : π} (hconnect : factory.connection p = .ok provider)
      (hkey : p.credential.privateKey = none) :
      HandsOver factory p ([connecting p], .ok provider)
  | refused {provider : π} {key : String} {f : Failure}
      (hconnect : factory.connection p = .ok provider) (hkey : p.credential.privateKey = some key)
      (himport : factory.addCredential provider key = .error f) :
      HandsOver factory p ([connecting p, .addCredential key], .error f)
  | signed {provider provider' : π} {key : String} {account : α}
      (hconnect : factory.connection p = .ok provider) (hkey : p.credential.privateKey = some key)
      (himport : factory.addCredential provider key = .ok (account, provider')) :
      HandsOver factory p ([connecting p, .addCredential key, .setSigner account],
        .ok (factory.setSigner provider' account))

theorem handsOver (factory : Factory π α) (p : NetworkProfile) :
    HandsOver factory p (handOver factory p) := by
  unfold handOver
  dsimp only
  cases hconnect : factory.connect p.endpointUrl p.credential p.chainOptions p.gas with
  | error f => exact .unconnected hconnect
  | ok provider =>
    cases hkey : p.credential.privateKey with
    | none => exact .unsigned hconnect hkey
    | some key =>
      dsimp only
      cases himport : factory.addCredential provider key with
      | error f => exact .refused hconnect hkey himport
      | ok answer => exact .signed hconnect hkey himport

variable {handed : List (Call α) × Except Failure π}

/-- Handing a profile over goes through a run from the start. What comes of it is the provider at
the stage that is reached, or the failure of the run. -/
theorem HandsOver.exists_run (h : HandsOver factory p handed) :
    ∃ log last, Run factory .absent log last ∧ handed.1 = log.map (·.1) ∧
      (∀ f, handed.2 = .error f ↔ last = .error f) ∧
      ∀ provider, handed.2 = .ok provider ↔ ∃ s, last = .ok s ∧ s.provider? = some provider := by
  cases h with
  | unconnected hconnect => exact ⟨_, _, .fail (.connect hconnect), rfl, by simp, by simp⟩
  | unsigned hconnect hkey =>
    exact ⟨_, _, .step (.connect hconnect) .stop, rfl, by simp, by simp [Stage.provider?]⟩
  | refused hconnect hkey himport =>
    exact ⟨_, _, .step (.connect hconnect) (.fail (.addCredential himport)), rfl, by simp, by simp⟩
  | signed hconnect hkey himport =>
    have hrest := Run.step (.addCredential himport) (.step .setSigner .stop)
    exact ⟨_, _, .step (.connect hconnect) hrest, rfl, by simp, by simp [Stage.provider?]⟩

/-- The first call connects with the parts of the profile. -/
theorem HandsOver.exists_eq_cons (h : HandsOver factory p handed) :
    ∃ rest, handed.1 = connecting p :: rest := by
  cases h <;> exact ⟨_, rfl⟩

theorem HandsOver.addCredential_mem_iff (h : HandsOver factory p handed) {key : String} :
    .addCredential key ∈ handed.1 ↔ p.credential.privateKey = some key ∧
      ∃ provider, factory.connection p = .ok provider := by
  cases h with
  | unconnected hconnect => simp [connecting, hconnect]
  | unsigned hconnect hkey => simp [connecting, hkey]
  | refused hconnect hkey himport => simp [connecting, hconnect, hkey, eq_comm]
  | signed hconnect hkey himport => simp [connecting, hconnect, hkey, eq_comm]

theorem HandsOver.setSigner_mem_iff (h : HandsOver factory p handed) {account : α} :
    .setSigner account ∈ handed.1 ↔ ∃ provider key provider', factory.connection p = .ok provider ∧
      p.credential.privateKey = some key ∧
      factory.addCredential provider key = .ok (account, provider') := by
  cases h with
  | unconnected hconnect => simp [connecting, hconnect]
  | unsigned hconnect hkey => simp [connecting, hkey]
  | refused hconnect hkey himport => simp [connecting, hconnect, hkey, himport]
  | signed hconnect hkey himport => simp [connecting, hconnect, hkey, himport, eq_comm]

/-- **A hand-over follows its protocol.** If the network cannot be resolved, no call is made and the
failure is that of resolving. Otherwise the calls are a beginning of connecting, importing a key and
setting a signer, each made with what the ones before it gave. The provider is connected with the
parts of the profile. A key is imported exactly if its variable holds one and a provider is
connected: the value without the blanks around it, which spells 32 bytes. The signer is the account
that importing gave. A provider comes of it exactly if no call failed, and otherwise the failure of
the last call and no other. -/
theorem hand_over_follows_protocol (env : Environment) (n : Network) (factory : Factory π α) :
    (∀ f, resolve env n = .error f → resolveAndHandOver env n factory = ([], .error f)) ∧
    ∀ p, resolve env n = .ok p → ∃ log last calls result,
      resolveAndHandOver env n factory = (calls, result) ∧
      Run factory .absent log last ∧ calls = log.map (·.1) ∧
      calls.map Call.kind <+: [.connect, .addCredential, .setSigner] ∧
      (∃ rest, calls
        = .connect p.endpointUrl p.credential ⟨n.shardId, n.chainId⟩ p.gas :: rest) ∧
      (∀ key, .addCredential key ∈ calls ↔ Holds env n.privateKeyVariable key ∧ ∃ provider,
        factory.connect p.endpointUrl p.credential ⟨n.shardId, n.chainId⟩ p.gas = .ok provider) ∧
      (∀ key, .addCredential key ∈ calls → SpellsBytes key 32) ∧
      (∀ account, .setSigner account ∈ calls ↔ ∃ provider key provider',
        factory.connect p.endpointUrl p.credential ⟨n.shardId, n.chainId⟩ p.gas = .ok provider ∧
        Holds env n.privateKeyVariable key ∧
        factory.addCredential provider key = .ok (account, provider')) ∧
      (∀ provider, result = .ok provider ↔ ∃ s, last = .ok s ∧ s.provider? = some provider) ∧
      ((∃ provider, result = .ok provider) ↔ ∀ e ∈ log, e.2 = none) ∧
      (∀ f, result = .error f ↔ ∃ call, (call, some f) ∈ log) ∧
      ∀ e ∈ log.dropLast, e.2 = none := by
  refine ⟨fun f hresolve => ?_, fun p hresolve => ?_⟩
  · rw [resolveAndHandOver, hresolve]
  · have hdescribes := resolve_eq_ok_iff.1 hresolve
    have hconnecting : connecting p
        = (.connect p.endpointUrl p.credential ⟨n.shardId, n.chainId⟩ p.gas : Call α) := by
      rw [connecting, NetworkProfile.chainOptions, hdescribes.network]
    have hconnection : factory.connection p
        = factory.connect p.endpointUrl p.credential ⟨n.shardId, n.chainId⟩ p.gas := by
      rw [Factory.connection, NetworkProfile.chainOptions, hdescribes.network]
    have hhanded := handsOver factory p
    obtain ⟨log, last, hrun, hcalls, herror, hok⟩ := hhanded.exists_run
    refine ⟨log, last, (handOver factory p).1, (handOver factory p).2, ?_, hrun, hcalls, ?_, ?_,
      fun key => ?_, fun key hkey => ?_, fun account => ?_, hok, ?_, fun f => ?_,
      hrun.eq_none_of_mem_dropLast⟩
    · rw [resolveAndHandOver, hresolve]
    · rw [hcalls, List.map_map]
      exact hrun.kinds_isPrefix
    · rw [← hconnecting]
      exact hhanded.exists_eq_cons
    · rw [← hconnection, hhanded.addCredential_mem_iff, hdescribes.privateKey]
    · exact keyProblem?_eq_none_iff.1 (hdescribes.key key (hhanded.addCredential_mem_iff.1 hkey).1)
    · simp only [← hconnection, hhanded.setSigner_mem_iff, hdescribes.privateKey]
    · rw [← hrun.ok_iff]
      constructor
      · rintro ⟨provider, hprovider⟩
        obtain ⟨s, hs, -⟩ := (hok provider).1 hprovider
        exact ⟨s, hs⟩
      · intro hlast
        cases hresult : (handOver factory p).2 with
        | ok provider => exact ⟨provider, rfl⟩
        | error f =>
          obtain ⟨s, hs⟩ := hlast
          rw [(herror f).1 hresult] at hs
          cases hs
    · rw [herror, hrun.error_iff]

/-- The variables of one network, with a key among blanks. -/
def keyedVariables : Environment where
  entries := [("GAS_LIMIT", "21000"), ("GAS_PRICE", "1"), ("LOCAL_0_URL", "http://localhost"),
    ("LOCAL_PRIVATE_KEY", " 0x" ++ String.ofList (List.replicate 64 'a') ++ "\n")]

/-- Providers that remember their signer. A key that is imported gets the first account, and a
locked provider imports none. -/
def signerFactory (locked : Bool) : Factory (Option String) String where
  connect _ _ _ _ := .ok none
  addCredential provider _ :=
    if locked then .error (.configuration "locked") else .ok ("account-0", provider)
  setSigner _ account := some account

/-- The key is imported without the blanks, and its account is the signer unless the provider is
locked. No call is made for a network without variables. -/
theorem hand_over_follows_protocol_key :
    let key := "0x" ++ String.ofList (List.replicate 64 'a')
    let opened := (resolveAndHandOver keyedVariables .localnet (signerFactory false)).1
    let locked := (resolveAndHandOver keyedVariables .localnet (signerFactory true)).1
    .addCredential key ∈ opened ∧ SpellsBytes key 32 ∧ .setSigner "account-0" ∈ opened ∧
      .addCredential key ∈ locked ∧ .setSigner "account-0" ∉ locked ∧
      (resolveAndHandOver keyedVariables .devnet (signerFactory true)).1 = [] := by
  intro key opened locked
  have hkey : Holds keyedVariables Network.localnet.privateKeyVariable key :=
    holds_iff.2 (by decide)
  have hdev : problems keyedVariables .devnet ≠ [] := by decide
  have hlocal : problems keyedVariables .localnet = [] := by decide
  obtain ⟨p, hp⟩ := exists_resolve_eq_ok_iff.2 hlocal
  obtain ⟨-, hopened⟩ := hand_over_follows_protocol keyedVariables .localnet (signerFactory false)
  obtain ⟨-, hlocked⟩ := hand_over_follows_protocol keyedVariables .localnet (signerFactory true)
  obtain ⟨hnone, -⟩ := hand_over_follows_protocol keyedVariables .devnet (signerFactory true)
  obtain ⟨_, _, calls, _, heq, -, -, -, -, himport, hspells, hsigner, -⟩ := hopened p hp
  obtain ⟨_, _, calls', _, heq', -, -, -, -, himport', -, hsigner', -⟩ := hlocked p hp
  have hcalls : opened = calls := congrArg Prod.fst heq
  have hcalls' : locked = calls' := congrArg Prod.fst heq'
  have hmem : .addCredential key ∈ calls := (himport key).2 ⟨hkey, none, rfl⟩
  rw [hcalls, hcalls', hsigner']
  refine ⟨hmem, hspells key hmem, (hsigner _).2 ⟨none, key, none, rfl, hkey, rfl⟩,
    (himport' key).2 ⟨hkey, none, rfl⟩, ?_, ?_⟩
  · rintro ⟨_, _, _, -, -, hrefused⟩
    cases hrefused
  · rw [hnone _ (resolve_of_problems_ne_nil hdev)]

end NodeAudit.Profile
