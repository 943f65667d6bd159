import NodeAudit.Cli.Session
import NodeAudit.Proofs.Profile.Resolve

/-!
# What is shown of a profile

Two environments with the same problems show the same of a resolved network if the profiles that can
be read in them do (`resolve_map_congr`). The lines about a profile show of its address what
redaction leaves, and of its secrets whether they are set (`profileLines_congr`).
-/

namespace NodeAudit.Profile

variable {e e' : Environment} {n : Network}

/-! ## Gas settings -/

/-- The variables of the gas settings hold the same in both environments, blanks apart. -/
structure SameGas (e e' : Environment) : Prop where
  limit : e.nonBlank? Gas.limitVariable = e'.nonBlank? Gas.limitVariable
  price : e.nonBlank? Gas.priceVariable = e'.nonBlank? Gas.priceVariable

namespace SameGas

theorem limit_eq (h : SameGas e e') :
    readUnsigned e Gas.limitVariable = readUnsigned e' Gas.limitVariable :=
  readUnsigned_congr h.limit

theorem price_eq (h : SameGas e e') :
    readUnsigned e Gas.priceVariable = readUnsigned e' Gas.priceVariable :=
  readUnsigned_congr h.price

theorem ofEnvironment_eq (h : SameGas e e') : Gas.ofEnvironment e = Gas.ofEnvironment e' :=
  Gas.ofEnvironment_congr h.limit_eq h.price_eq

end SameGas

/-! ## Profiles -/

/-- What is shown of a resolved network, or why it cannot be resolved, is the same in two
environments with the same problems in which the profiles that can be read show the same. -/
theorem resolve_map_congr {α : Type} {f : NetworkProfile → α} (hp : problems e n = problems e' n)
    (hf : ∀ p p', read e n = .ok p → read e' n = .ok p' → f p = f p') :
    (resolve e n).map f = (resolve e' n).map f := by
  by_cases hnil : problems e n = []
  · have hnil' : problems e' n = [] := hp ▸ hnil
    obtain ⟨p, hr⟩ := exists_resolve_eq_ok_iff.2 hnil
    obtain ⟨p', hr'⟩ := exists_resolve_eq_ok_iff.2 hnil'
    have hread : read e n = .ok p := by rw [← resolve_of_problems_eq_nil hnil, hr]
    have hread' : read e' n = .ok p' := by rw [← resolve_of_problems_eq_nil hnil', hr']
    rw [hr, hr', Except.map, Except.map, hf p p' hread hread']
  · have hnil' : problems e' n ≠ [] := hp ▸ hnil
    rw [resolve_of_problems_ne_nil hnil, resolve_of_problems_ne_nil hnil', hp]

end NodeAudit.Profile

namespace NodeAudit.Cli

open Profile

/-! ## What is printed of a profile -/

theorem redactSecret_eq (secret : Option String) :
    redactSecret secret = if secret.isSome then Redaction.secretMark else "<unset>" := by
  cases secret <;> rfl

theorem profileLines_congr {p p' : NetworkProfile} (hn : p.network = p'.network)
    (hu : redact p.endpointUrl = redact p'.endpointUrl)
    (hm : p.credential.mnemonic.isSome = p'.credential.mnemonic.isSome)
    (hk : p.credential.privateKey.isSome = p'.credential.privateKey.isSome)
    (hg : p.gas = p'.gas) : profileLines p = profileLines p' := by
  simp only [profileLines, redactSecret_eq, hn, hu, hm, hk, hg]

/-- A profile is printed as its lines, or it is told why there is none. -/
theorem showProfile_eq {σ : Type} (n : Network) (setting : Setting) (world : σ) :
    showProfile n setting world =
      match (resolve setting.environment n).map profileLines with
      | .ok lines => .only lines setting world
      | .error f => .refused ["Error: " ++ f.text] setting world := by
  unfold showProfile
  cases resolve setting.environment n <;> rfl

/-- The same is printed from two environments in which the profiles have the same lines. -/
theorem showProfile_congr {σ : Type} {e e' : Environment} {n : Network} (setting : Setting)
    (world : σ) (h : (resolve e n).map profileLines = (resolve e' n).map profileLines) :
    showProfile n { setting with environment := e } world
      = showProfile n { setting with environment := e' } world := by
  rw [showProfile_eq, showProfile_eq]
  simp only [h]
  rfl

end NodeAudit.Cli
