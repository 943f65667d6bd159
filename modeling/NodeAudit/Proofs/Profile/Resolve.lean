import NodeAudit.Proofs.Collect
import NodeAudit.Proofs.Profile.Problems

/-!
# Looking for problems and resolving agree

`Describes env n p` says what a profile must be: its parts are the values of the network's variables
without the blanks around them. A profile that is described is the one that `resolve` gives
(`resolve_eq_ok_iff`), and there is one exactly if `problems` lists nothing
(`exists_resolve_eq_ok_iff`): no step of `read` can fail behind an empty list
(`exists_parts_of_problems_eq_nil`).

Main statement: `resolve_agrees_with_problems`, for one network and for all of them.
-/

namespace NodeAudit.Profile

/-- The variable is set to the value, with blanks around it or not, and the value is not empty. -/
def Holds (env : Environment) (name value : String) : Prop :=
  ∃ raw, env.get? name = some raw ∧ Text.trim raw = value ∧ value ≠ ""

/-- The variable is set to the text of the number. -/
def HoldsNumber (env : Environment) (name : String) (v : UInt64) : Prop :=
  ∃ text, Holds env name text ∧ Decimal.unsigned? text = some v

/-- The variables of the network say what is in the profile. That there is a mnemonic or a key is part
of every credential. -/
structure Describes (env : Environment) (n : Network) (p : NetworkProfile) : Prop where
  network : p.network = n
  endpointUrl : Holds env n.urlVariable p.endpointUrl
  mnemonic : ∀ v, p.credential.mnemonic = some v ↔ Holds env n.mnemonicVariable v
  privateKey : ∀ v, p.credential.privateKey = some v ↔ Holds env n.privateKeyVariable v
  key : ∀ v, p.credential.privateKey = some v → keyProblem? v = none
  limit : HoldsNumber env Gas.limitVariable p.gas.limit
  price : HoldsNumber env Gas.priceVariable p.gas.price

/-! ## The parts of a profile -/

variable {env : Environment} {n : Network}

theorem holds_iff {name value : String} :
    Holds env name value ↔ env.nonBlank? name = some value :=
  Environment.nonBlank?_eq_some_iff.symm

theorem holdsNumber_iff {name : String} {v : UInt64} :
    HoldsNumber env name v ↔ readUnsigned env name = .ok v := by
  simp only [HoldsNumber, holds_iff, readUnsigned_eq_ok_iff]

/-- A part that may be missing is the value of its variable. -/
theorem forall_eq_some_iff_holds {name : String} {o : Option String} :
    (∀ v, o = some v ↔ Holds env name v) ↔ o = env.nonBlank? name := by
  simp only [holds_iff]
  exact ⟨fun h => Option.ext h, fun h v => by rw [h]⟩

theorem require_eq_ok_iff {name value : String} :
    require env name = .ok value ↔ env.nonBlank? name = some value := by
  unfold require
  cases env.nonBlank? name <;> simp

theorem Credential.make_eq_ok_iff {mnemonic privateKey : Option String} {c : Credential} :
    Credential.make mnemonic privateKey = .ok c ↔
      c.mnemonic = mnemonic ∧ c.privateKey = privateKey := by
  unfold Credential.make
  constructor
  · intro h
    split at h
    · obtain rfl := Except.ok.inj h
      exact ⟨rfl, rfl⟩
    · cases h
  · rintro ⟨rfl, rfl⟩
    rw [dif_pos c.isSome]

theorem read_eq_ok_iff {p : NetworkProfile} :
    read env n = .ok p ↔
      p.network = n ∧ require env n.urlVariable = .ok p.endpointUrl ∧
      Credential.make (env.nonBlank? n.mnemonicVariable) (env.nonBlank? n.privateKeyVariable)
        = .ok p.credential ∧
      Gas.ofEnvironment env = .ok p.gas := by
  simp only [read, bind_eq_ok_iff, pure, Except.pure, Except.ok.injEq]
  constructor
  · rintro ⟨url, hurl, credential, hc, gas, hg, rfl⟩
    exact ⟨rfl, hurl, hc, hg⟩
  · rintro ⟨rfl, hurl, hc, hg⟩
    exact ⟨_, hurl, _, hc, _, hg, rfl⟩

/-- A described profile can be read, and its key is well formed. -/
theorem describes_iff {p : NetworkProfile} :
    Describes env n p ↔
      read env n = .ok p ∧ ∀ v, p.credential.privateKey = some v → keyProblem? v = none := by
  rw [read_eq_ok_iff, require_eq_ok_iff, Credential.make_eq_ok_iff, Gas.ofEnvironment_eq_ok_iff]
  constructor
  · intro h
    exact ⟨⟨h.network, holds_iff.1 h.endpointUrl,
      ⟨forall_eq_some_iff_holds.1 h.mnemonic, forall_eq_some_iff_holds.1 h.privateKey⟩,
      holdsNumber_iff.1 h.limit, holdsNumber_iff.1 h.price⟩, h.key⟩
  · rintro ⟨⟨hn, hurl, ⟨hm, hk⟩, hl, hp⟩, hkey⟩
    exact ⟨hn, holds_iff.2 hurl, forall_eq_some_iff_holds.2 hm, forall_eq_some_iff_holds.2 hk, hkey,
      holdsNumber_iff.2 hl, holdsNumber_iff.2 hp⟩

/-! ## No problem, no failure -/

theorem exists_parts_of_problems_eq_nil (h : problems env n = []) :
    ∃ url credential gas,
      require env n.urlVariable = .ok url ∧
      Credential.make (env.nonBlank? n.mnemonicVariable) (env.nonBlank? n.privateKeyVariable)
        = .ok credential ∧
      Gas.ofEnvironment env = .ok gas := by
  obtain ⟨hu, hc, hg⟩ := problems_eq_nil_iff.1 h
  obtain ⟨url, hurl⟩ := urlProblem?_eq_none_iff.1 hu
  obtain ⟨hsome, -⟩ := credentialProblem?_eq_none_iff.1 hc
  obtain ⟨⟨limit, hl⟩, ⟨price, hp⟩⟩ := Gas.problems_eq_nil_iff.1 hg
  exact ⟨url, ⟨_, _, hsome⟩, ⟨limit, price⟩, require_eq_ok_iff.2 hurl,
    Credential.make_eq_ok_iff.2 ⟨rfl, rfl⟩, Gas.ofEnvironment_eq_ok_iff.2 ⟨hl, hp⟩⟩

theorem Describes.problems_eq_nil {p : NetworkProfile} (h : Describes env n p) :
    problems env n = [] := by
  have hk := forall_eq_some_iff_holds.1 h.privateKey
  have hm := forall_eq_some_iff_holds.1 h.mnemonic
  refine problems_eq_nil_iff.2 ⟨?_, ?_, ?_⟩
  · exact urlProblem?_eq_none_iff.2 ⟨_, holds_iff.1 h.endpointUrl⟩
  · refine credentialProblem?_eq_none_iff.2 ⟨?_, fun v hv => h.key v (hk.trans hv)⟩
    rw [← hk, ← hm]
    exact p.credential.isSome
  · exact Gas.problems_eq_nil_iff.2
      ⟨⟨_, holdsNumber_iff.1 h.limit⟩, ⟨_, holdsNumber_iff.1 h.price⟩⟩

theorem resolve_of_problems_eq_nil (h : problems env n = []) : resolve env n = read env n := by
  rw [resolve, h]

theorem resolve_of_problems_ne_nil (h : problems env n ≠ []) :
    resolve env n = .error
      (.configuration (n.name ++ ": " ++ String.intercalate "; " (problems env n))) := by
  unfold resolve
  split
  · rename_i hnil
    exact absurd hnil h
  · rfl

theorem resolve_eq_ok_iff {p : NetworkProfile} : resolve env n = .ok p ↔ Describes env n p := by
  constructor
  · intro h
    by_cases hn : problems env n = []
    · rw [resolve_of_problems_eq_nil hn] at h
      refine describes_iff.2 ⟨h, fun v hv => ?_⟩
      have hc := credentialProblem?_eq_none_iff.1 (problems_eq_nil_iff.1 hn).2.1
      obtain ⟨-, -, hmake, -⟩ := read_eq_ok_iff.1 h
      exact hc.2 v ((Credential.make_eq_ok_iff.1 hmake).2 ▸ hv)
    · rw [resolve_of_problems_ne_nil hn] at h
      cases h
  · intro h
    rw [resolve_of_problems_eq_nil h.problems_eq_nil]
    exact (describes_iff.1 h).1

theorem exists_resolve_eq_ok_iff : (∃ p, resolve env n = .ok p) ↔ problems env n = [] := by
  constructor
  · rintro ⟨p, hp⟩
    exact (resolve_eq_ok_iff.1 hp).problems_eq_nil
  · intro h
    obtain ⟨url, credential, gas, hparts⟩ := exists_parts_of_problems_eq_nil h
    rw [resolve_of_problems_eq_nil h]
    exact ⟨⟨n, url, credential, gas⟩, read_eq_ok_iff.2 ⟨rfl, hparts⟩⟩

/-! ## All networks -/

theorem exists_resolveAll_eq_ok_iff :
    (∃ ps, resolveAll env = .ok ps) ↔ ∀ n, problems env n = [] := by
  simp only [resolveAll, mapM_eq_ok_iff, ← exists_resolve_eq_ok_iff]
  constructor
  · rintro ⟨ps, hps⟩ n
    have hmem : resolve env n ∈ ps.map .ok := by
      rw [← hps]
      exact List.mem_map_of_mem n.mem_all
    obtain ⟨p, -, hp⟩ := List.mem_map.1 hmem
    exact ⟨p, hp.symm⟩
  · intro h
    obtain ⟨a, ha⟩ := h .localnet
    obtain ⟨b, hb⟩ := h .devnet
    obtain ⟨c, hc⟩ := h .mainnet0
    exact ⟨[a, b, c], by simp [Network.all, ha, hb, hc]⟩

/-- **Looking for problems and resolving agree.** A network can be resolved exactly if it has no
problem. Then every part of its profile can be read and is what the variables say; otherwise the
failure lists all problems. All networks are resolved in order exactly if none has a problem;
otherwise the failure is that of the first that has one. -/
theorem resolve_agrees_with_problems (env : Environment) :
    (∀ n, (∃ p, resolve env n = .ok p) ↔ problems env n = []) ∧
    (∀ n p, resolve env n = .ok p ↔ Describes env n p) ∧
    (∀ n, problems env n = [] → ∃ url credential gas,
      require env n.urlVariable = .ok url ∧
      Credential.make (env.nonBlank? n.mnemonicVariable) (env.nonBlank? n.privateKeyVariable)
        = .ok credential ∧
      Gas.ofEnvironment env = .ok gas ∧
      resolve env n = .ok ⟨n, url, credential, gas⟩) ∧
    (∀ n, problems env n ≠ [] → resolve env n = .error
      (.configuration (n.name ++ ": " ++ String.intercalate "; " (problems env n)))) ∧
    ((∃ ps, resolveAll env = .ok ps) ↔ ∀ n, problems env n = []) ∧
    (∀ ps, resolveAll env = .ok ps ↔
      ps.map .ok = [resolve env .localnet, resolve env .devnet, resolve env .mainnet0]) ∧
    ∀ f, resolveAll env = .error f ↔
      ∃ before n after, [.localnet, .devnet, .mainnet0] = before ++ n :: after ∧
        (∀ m ∈ before, problems env m = []) ∧ problems env n ≠ [] ∧ resolve env n = .error f := by
  refine ⟨fun n => exists_resolve_eq_ok_iff, fun n p => resolve_eq_ok_iff, fun n h => ?_,
    fun n => resolve_of_problems_ne_nil, exists_resolveAll_eq_ok_iff, fun ps => ?_, fun f => ?_⟩
  · obtain ⟨url, credential, gas, hurl, hc, hg⟩ := exists_parts_of_problems_eq_nil h
    refine ⟨url, credential, gas, hurl, hc, hg, ?_⟩
    rw [resolve_of_problems_eq_nil h]
    exact read_eq_ok_iff.2 ⟨rfl, hurl, hc, hg⟩
  · rw [resolveAll, mapM_eq_ok_iff, eq_comm]
    rfl
  · simp only [resolveAll, mapM_eq_error_iff, exists_resolve_eq_ok_iff]
    constructor
    · rintro ⟨before, n, after, hall, hb, hf⟩
      refine ⟨before, n, after, hall, hb, fun h => ?_, hf⟩
      obtain ⟨p, hp⟩ := exists_resolve_eq_ok_iff.2 h
      rw [hf] at hp
      cases hp
    · rintro ⟨before, n, after, hall, hb, -, hf⟩
      exact ⟨before, n, after, hall, hb, hf⟩

/-- The variables of one network, with blanks around the values and in place of a mnemonic. -/
def paddedVariables : Environment where
  entries := [("GAS_LIMIT", " 21000 "), ("GAS_PRICE", "1"), ("LOCAL_0_URL", " http://localhost "),
    ("LOCAL_MNEMONIC", "  "), ("LOCAL_PRIVATE_KEY", String.ofList (List.replicate 64 'a'))]

/-- Blanks do no harm to one network, and what is missing of another one is told. -/
theorem resolve_paddedVariables :
    problems paddedVariables .localnet = [] ∧ problems paddedVariables .devnet ≠ [] ∧
      (∃ p, resolve paddedVariables .localnet = .ok p) ∧
      resolve paddedVariables .devnet = .error (.configuration ("devnet: DEVNET_0_URL is not set; "
        ++ "neither DEVNET_MNEMONIC nor DEVNET_PRIVATE_KEY is set")) := by
  have hlocal : problems paddedVariables .localnet = [] := by decide
  have hdev : problems paddedVariables .devnet ≠ [] := by decide
  obtain ⟨hiff, -, -, hfail, -⟩ := resolve_agrees_with_problems paddedVariables
  exact ⟨hlocal, hdev, (hiff _).2 hlocal, hfail _ hdev⟩

end NodeAudit.Profile
