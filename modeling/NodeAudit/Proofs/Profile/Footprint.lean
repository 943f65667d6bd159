import Mathlib.Logic.Relation
import NodeAudit.Proofs.Profile.Gas

/-!
# What a profile depends on

Five variables describe a network: the three that it shares with no other network
(`Network.ownVariables`, `not_mem_variables_of_ne`) and the two of the gas settings. Problems and
profile are what these variables mean (`SameMeaning.problems_eq`, `SameMeaning.resolve_eq`), and a
profile tells what they mean (`sameMeaning_iff`). Blanks around a value mean nothing, so that
environments in which the five are the same without them have the same profile; and neither what
happens to another variable nor blanks that are put around a value have a bearing on it (`Change`).

Main statement: `profile_footprint`.
-/

namespace NodeAudit.Profile

/-- The variables of the network that describe no other network. -/
def Network.ownVariables (n : Network) : List String :=
  [n.urlVariable, n.mnemonicVariable, n.privateKeyVariable]

/-- The variables that describe the network. -/
def Network.variables (n : Network) : List String := n.ownVariables ++ Gas.settingVariables

/-- The variables mean the same in both environments: its own hold the same for the network, and the
gas settings are read as the same. -/
structure SameMeaning (n : Network) (e e' : Environment) : Prop where
  own : ∀ name ∈ n.ownVariables, e.trimmed name = e'.trimmed name
  gas : ∀ name ∈ Gas.settingVariables, readUnsigned e name = readUnsigned e' name

/-- One change of an environment: another variable gets a value or loses it, or blanks are put around
the value of any variable, which is empty if it is not set. -/
inductive Change (n : Network) (e : Environment) : Environment → Prop where
  | set {name : String} (h : name ∉ n.variables) (value : String) : Change n e (e.set name value)
  | unset {name : String} (h : name ∉ n.variables) : Change n e (e.unset name)
  | pad (name : String) {before after : String}
      (hbefore : ∀ c ∈ before.toList, Text.isBlank c = true)
      (hafter : ∀ c ∈ after.toList, Text.isBlank c = true) :
      Change n e (e.set name (before ++ (e.get? name).getD "" ++ after))

variable {m n : Network} {e e' : Environment} {p : NetworkProfile} {name : String}

/-! ## Variables of a network -/

theorem mem_ownVariables_iff :
    name ∈ n.ownVariables ↔
      name = n.urlVariable ∨ name = n.mnemonicVariable ∨ name = n.privateKeyVariable := by
  simp only [Network.ownVariables, List.mem_cons, List.not_mem_nil, or_false]

theorem not_mem_variables_of_ne (hne : m ≠ n) (h : name ∈ m.ownVariables) : name ∉ n.variables := by
  have hall : ∀ m ∈ Network.all, ∀ n ∈ Network.all, m ≠ n →
      ∀ name ∈ m.ownVariables, name ∉ n.variables := by decide
  exact hall m m.mem_all n n.mem_all hne name h

/-! ## The same meaning, the same profile -/

namespace SameMeaning

/-- What is the same without blanks means the same. -/
theorem of_trimmed (h : ∀ name ∈ n.variables, e.trimmed name = e'.trimmed name) :
    SameMeaning n e e' where
  own name hname := h name (List.mem_append_left _ hname)
  gas name hname :=
    readUnsigned_congr (Environment.nonBlank?_eq_iff.2 (h name (List.mem_append_right _ hname)))

theorem url_eq (h : SameMeaning n e e') :
    e.nonBlank? n.urlVariable = e'.nonBlank? n.urlVariable :=
  Environment.nonBlank?_eq_iff.2 (h.own _ (mem_ownVariables_iff.2 (.inl rfl)))

theorem mnemonic_eq (h : SameMeaning n e e') :
    e.nonBlank? n.mnemonicVariable = e'.nonBlank? n.mnemonicVariable :=
  Environment.nonBlank?_eq_iff.2 (h.own _ (mem_ownVariables_iff.2 (.inr (.inl rfl))))

theorem privateKey_eq (h : SameMeaning n e e') :
    e.nonBlank? n.privateKeyVariable = e'.nonBlank? n.privateKeyVariable :=
  Environment.nonBlank?_eq_iff.2 (h.own _ (mem_ownVariables_iff.2 (.inr (.inr rfl))))

theorem limit_eq (h : SameMeaning n e e') :
    readUnsigned e Gas.limitVariable = readUnsigned e' Gas.limitVariable :=
  h.gas Gas.limitVariable (Gas.mem_settingVariables_iff.2 (.inl rfl))

theorem price_eq (h : SameMeaning n e e') :
    readUnsigned e Gas.priceVariable = readUnsigned e' Gas.priceVariable :=
  h.gas Gas.priceVariable (Gas.mem_settingVariables_iff.2 (.inr rfl))

theorem problems_eq (h : SameMeaning n e e') : problems e n = problems e' n := by
  apply problems_congr h.limit_eq h.price_eq
  · rw [h.url_eq]
  · rw [h.mnemonic_eq]
  · rw [h.privateKey_eq]

theorem read_eq (h : SameMeaning n e e') : read e n = read e' n := by
  have hurl : require e n.urlVariable = require e' n.urlVariable := by
    unfold require
    rw [h.url_eq]
  rw [read, read, hurl, h.mnemonic_eq, h.privateKey_eq,
    Gas.ofEnvironment_congr h.limit_eq h.price_eq]

theorem resolve_eq (h : SameMeaning n e e') : resolve e n = resolve e' n := by
  unfold resolve
  rw [h.problems_eq, h.read_eq]

end SameMeaning

/-- A profile tells what its variables mean: they mean the same in two environments exactly if it is
the profile of both. -/
theorem sameMeaning_iff (hp : resolve e n = .ok p) :
    SameMeaning n e e' ↔ resolve e' n = .ok p := by
  constructor
  · intro h
    rw [← h.resolve_eq, hp]
  · intro hp'
    have hd := resolve_eq_ok_iff.1 hp
    have hd' := resolve_eq_ok_iff.1 hp'
    refine ⟨fun name hname => Environment.nonBlank?_eq_iff.1 ?_, fun name hname => ?_⟩
    · rcases mem_ownVariables_iff.1 hname with rfl | rfl | rfl
      · rw [holds_iff.1 hd.endpointUrl, holds_iff.1 hd'.endpointUrl]
      · rw [← forall_eq_some_iff_holds.1 hd.mnemonic, ← forall_eq_some_iff_holds.1 hd'.mnemonic]
      · rw [← forall_eq_some_iff_holds.1 hd.privateKey, ← forall_eq_some_iff_holds.1 hd'.privateKey]
    · rcases Gas.mem_settingVariables_iff.1 hname with rfl | rfl
      · rw [holdsNumber_iff.1 hd.limit, holdsNumber_iff.1 hd'.limit]
      · rw [holdsNumber_iff.1 hd.price, holdsNumber_iff.1 hd'.price]

/-! ## Changes -/

/-- A change leaves what the network's variables are without the blanks around them. -/
theorem Change.trimmed_eq (h : Change n e e') (hname : name ∈ n.variables) :
    e'.trimmed name = e.trimmed name := by
  cases h with
  | @set other h value =>
    have hne : name ≠ other := fun heq => h (heq ▸ hname)
    exact Environment.trimmed_congr (e.get?_set_of_ne hne value)
  | @unset other h =>
    have hne : name ≠ other := fun heq => h (heq ▸ hname)
    exact Environment.trimmed_congr (e.get?_unset_of_ne hne)
  | pad other hbefore hafter =>
    by_cases heq : name = other
    · subst heq
      exact e.trimmed_set_blanks name hbefore hafter
    · exact Environment.trimmed_congr (e.get?_set_of_ne heq _)

/-- So do any number of changes. -/
theorem trimmed_eq_of_changes (h : Relation.ReflTransGen (Change n) e e')
    (hname : name ∈ n.variables) : e'.trimmed name = e.trimmed name := by
  induction h with
  | refl => rfl
  | tail _ hstep ih => exact (hstep.trimmed_eq hname).trans ih

/-- **The footprint of a profile.** In environments that hold the same in the five variables of a
network, blanks around the values apart and with a variable that is not set counting as empty, the
network has the same problems and is resolved to the same profile or fails the same. So it does after
any number of changes of other variables, among which are all that describe another network, and of
the blanks around values. The five variables do matter: two environments give the network the same
profile exactly if they mean the same by them. -/
theorem profile_footprint (n : Network) :
    (∀ e e' : Environment,
      (∀ name ∈ [n.urlVariable, n.mnemonicVariable, n.privateKeyVariable, Gas.limitVariable,
        Gas.priceVariable], e.trimmed name = e'.trimmed name) →
      problems e n = problems e' n ∧ resolve e n = resolve e' n) ∧
    (∀ e e' : Environment, Relation.ReflTransGen (Change n) e e' →
      problems e' n = problems e n ∧ resolve e' n = resolve e n) ∧
    (∀ m, m ≠ n → ∀ name ∈ m.ownVariables, name ∉ n.variables) ∧
    ∀ (e e' : Environment) (p : NetworkProfile), resolve e n = .ok p →
      (resolve e' n = .ok p ↔ SameMeaning n e e') := by
  refine ⟨fun e e' h => ?_, fun e e' h => ?_, fun m hne name => not_mem_variables_of_ne hne,
    fun e e' p hp => (sameMeaning_iff hp).symm⟩
  · have hsame : SameMeaning n e e' := .of_trimmed h
    exact ⟨hsame.problems_eq, hsame.resolve_eq⟩
  · have hsame : SameMeaning n e' e := .of_trimmed fun name hname => trimmed_eq_of_changes h hname
    exact ⟨hsame.problems_eq, hsame.resolve_eq⟩

/-- Variables of another network come and one of them goes, and a key gets wide blanks around it; all
that is nothing to the profile, but another address is. -/
theorem profile_footprint_paddedVariables :
    let e := paddedVariables
    let added := (e.set "DEVNET_0_URL" "http://elsewhere").set "DEVNET_PRIVATE_KEY" "0x"
    let e' := (added.unset "DEVNET_0_URL").set "LOCAL_PRIVATE_KEY"
      ("\u3000" ++ String.ofList (List.replicate 64 'a') ++ "\u2003 ")
    e'.get? "LOCAL_PRIVATE_KEY" ≠ e.get? "LOCAL_PRIVATE_KEY" ∧
      problems e' .devnet ≠ problems e .devnet ∧
      problems e .localnet = problems e' .localnet ∧
      ∃ p, resolve e .localnet = .ok p ∧ resolve e' .localnet = .ok p ∧
        resolve (e.set "LOCAL_0_URL" "http://elsewhere") .localnet ≠ .ok p := by
  intro e added e'
  have hset : Change .localnet e (e.set "DEVNET_0_URL" "http://elsewhere") := .set (by decide) _
  have hset' : Change .localnet (e.set "DEVNET_0_URL" "http://elsewhere") added :=
    .set (by decide) _
  have hunset : Change .localnet added (added.unset "DEVNET_0_URL") := .unset (by decide)
  have hpad : Change .localnet (added.unset "DEVNET_0_URL") e' :=
    .pad "LOCAL_PRIVATE_KEY" (List.all_eq_true.1 (by decide)) (List.all_eq_true.1 (by decide))
  have hchanges : Relation.ReflTransGen (Change .localnet) e e' :=
    (((Relation.ReflTransGen.single hset).tail hset').tail hunset).tail hpad
  have hvalid : problems e .localnet = [] := by decide
  obtain ⟨hsame, hrun, -, hmeaning⟩ := profile_footprint .localnet
  obtain ⟨p, hp⟩ := exists_resolve_eq_ok_iff.2 hvalid
  refine ⟨by decide, by decide, ?_, p, hp, ?_, fun hother => ?_⟩
  · exact (hsame e e' fun name hname => (trimmed_eq_of_changes hchanges hname).symm).1
  · rw [(hrun e e' hchanges).2, hp]
  · have hurl := ((hmeaning e _ p hp).1 hother).own "LOCAL_0_URL" (by decide)
    exact absurd hurl (by decide)

end NodeAudit.Profile
