import NodeAudit.Profile.Resolve

/-!
# What the problems of a network depend on

Each part of `problems` looks at variables of its own, and of some of them only at whether they are
set (`urlProblem?_eq`, `credentialProblem?_eq`); from this follows when two environments have the
same problems (`problems_congr`). Other lemmas say when a part finds nothing:
`urlProblem?_eq_none_iff`, `credentialProblem?_eq_none_iff`, `Gas.problems_eq_nil_iff`, and all of
them together in `problems_eq_nil_iff`.
-/

namespace NodeAudit.Profile

variable {env : Environment} {n : Network}

theorem Network.mem_all (n : Network) : n ∈ all := by
  cases n <;> decide

/-- A variable holds an unsigned integer if its value without the blanks around it is one. -/
theorem readUnsigned_eq_ok_iff {name : String} {v : UInt64} :
    readUnsigned env name = .ok v ↔
      ∃ text, env.nonBlank? name = some text ∧ Decimal.unsigned? text = some v := by
  unfold readUnsigned
  cases env.nonBlank? name with
  | none => simp
  | some text =>
    cases h : Decimal.unsigned? text with
    | none => simp [h]
    | some w => simp [h]

theorem readUnsigned_congr {env' : Environment} {name : String}
    (h : env.nonBlank? name = env'.nonBlank? name) :
    readUnsigned env name = readUnsigned env' name := by
  unfold readUnsigned
  rw [h]

theorem problem?_eq_none_iff {α : Type} {r : Except String α} :
    problem? r = none ↔ ∃ v, r = .ok v := by
  cases r <;> simp [problem?]

theorem Gas.problems_eq_nil_iff :
    Gas.problems env = [] ↔
      (∃ v, readUnsigned env limitVariable = .ok v) ∧
        ∃ v, readUnsigned env priceVariable = .ok v := by
  simp [problems, limitProblem?, priceProblem?, problem?_eq_none_iff]

theorem Gas.ofEnvironment_eq_ok_iff {g : Gas} :
    Gas.ofEnvironment env = .ok g ↔
      readUnsigned env limitVariable = .ok g.limit ∧
        readUnsigned env priceVariable = .ok g.price := by
  obtain ⟨limit, price⟩ := g
  unfold Gas.ofEnvironment
  cases readUnsigned env limitVariable <;> cases readUnsigned env priceVariable <;> simp

theorem urlProblem?_eq_none_iff :
    urlProblem? env n = none ↔ ∃ url, env.nonBlank? n.urlVariable = some url := by
  unfold urlProblem?
  cases env.nonBlank? n.urlVariable <;> simp

/-- The credential has no problem if there is one and its key, if any, is well formed. -/
theorem credentialProblem?_eq_none_iff :
    credentialProblem? env n = none ↔
      ((env.nonBlank? n.mnemonicVariable).isSome ||
        (env.nonBlank? n.privateKeyVariable).isSome) = true ∧
      ∀ key, env.nonBlank? n.privateKeyVariable = some key → keyProblem? key = none := by
  unfold credentialProblem?
  cases env.nonBlank? n.mnemonicVariable <;> cases env.nonBlank? n.privateKeyVariable <;> simp

theorem problems_eq_nil_iff :
    problems env n = [] ↔
      urlProblem? env n = none ∧ credentialProblem? env n = none ∧ Gas.problems env = [] := by
  simp [problems]

/-! ## The same problems -/

theorem urlProblem?_eq (env : Environment) (n : Network) :
    urlProblem? env n =
      if (env.nonBlank? n.urlVariable).isSome then none
      else some (n.urlVariable ++ " is not set") := by
  unfold urlProblem?
  cases env.nonBlank? n.urlVariable <;> rfl

/-- Of the mnemonic only whether it is set matters, and of the key also what is wrong with it. -/
theorem credentialProblem?_eq (env : Environment) (n : Network) :
    credentialProblem? env n =
      match (env.nonBlank? n.privateKeyVariable).map keyProblem? with
      | some p? => p?.map fun p => n.privateKeyVariable ++ " " ++ p.message
      | none =>
        if (env.nonBlank? n.mnemonicVariable).isSome then none
        else some ("neither " ++ n.mnemonicVariable ++ " nor " ++ n.privateKeyVariable
          ++ " is set") := by
  unfold credentialProblem?
  cases env.nonBlank? n.privateKeyVariable <;> cases env.nonBlank? n.mnemonicVariable <;> rfl

section
variable {env' : Environment}
  (hlimit : readUnsigned env Gas.limitVariable = readUnsigned env' Gas.limitVariable)
  (hprice : readUnsigned env Gas.priceVariable = readUnsigned env' Gas.priceVariable)
include hlimit hprice

theorem Gas.problems_congr : Gas.problems env = Gas.problems env' := by
  unfold problems limitProblem? priceProblem?
  rw [hlimit, hprice]

theorem Gas.ofEnvironment_congr : Gas.ofEnvironment env = Gas.ofEnvironment env' := by
  unfold ofEnvironment
  rw [hlimit, hprice]

theorem problems_congr
    (hurl : (env.nonBlank? n.urlVariable).isSome = (env'.nonBlank? n.urlVariable).isSome)
    (hmnemonic : (env.nonBlank? n.mnemonicVariable).isSome
      = (env'.nonBlank? n.mnemonicVariable).isSome)
    (hkey : (env.nonBlank? n.privateKeyVariable).map keyProblem?
      = (env'.nonBlank? n.privateKeyVariable).map keyProblem?) :
    problems env n = problems env' n := by
  unfold problems
  rw [urlProblem?_eq, urlProblem?_eq, hurl, credentialProblem?_eq, credentialProblem?_eq, hmnemonic,
    hkey, Gas.problems_congr hlimit hprice]

end

end NodeAudit.Profile
