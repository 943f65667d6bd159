import NodeAudit.Proofs.Decimal.Unsigned
import NodeAudit.Proofs.Environment
import NodeAudit.Proofs.Profile.Resolve

/-!
# Gas settings are read exactly

What a variable can hold that is no unsigned integer of 64 bits is listed once (`NumberFault`), and
reading fails exactly for that (`readUnsigned_eq_error_iff`); otherwise the variable holds a decimal
numeral and its value is read (`readUnsigned_eq_ok_iff_holdsDecimal`). The settings fail with the
faults of the limit and of the price, in this order (`Gas.ofEnvironment_eq_error_iff`), and the same
faults are appended to the problems of a network (`Gas.appendProblems_eq`).

Main statement: `gas_read_exactly`.
-/

namespace NodeAudit.Profile

variable {env : Environment} {name text problem : String} {n : Nat}

/-- The variable is set to a decimal numeral with the value, blanks around it apart. -/
def HoldsDecimal (env : Environment) (name : String) (n : Nat) : Prop :=
  ∃ text, Holds env name text ∧ Decimal.SpellsUnsigned text n

/-- What is wrong with a variable that holds no unsigned integer of 64 bits. -/
inductive NumberFault (env : Environment) (name : String) : String → Prop where
  /-- The variable is not set, or its value is blank. -/
  | unset (h : env.Missing name) : NumberFault env name (name ++ " is not set")
  /-- The value is no decimal numeral, or that of a number too great. -/
  | malformed {text : String} (h : Holds env name text)
      (hn : ∀ n, Decimal.SpellsUnsigned text n → 2 ^ 64 ≤ n) :
      NumberFault env name (name ++ " is not a non-negative integer: " ++ text)

/-- The variable is set to the decimal text of the number, behind any number of zeros and one plus
sign or none, with blanks around all of it or not. -/
def HoldsPadded (env : Environment) (name text : String) (n : Nat) : Prop :=
  ∃ before after sign zeros, env.get? name = some (before ++ text ++ after) ∧
    (∀ c ∈ before.toList, Text.isBlank c = true) ∧ (∀ c ∈ after.toList, Text.isBlank c = true) ∧
    text = sign ++ String.ofList (List.replicate zeros '0') ++ Decimal.ofNat n ∧
    (sign = "" ∨ sign = "+")

/-! ## One variable -/

/-- Reading succeeds with the value of a numeral below `2 ^ 64`. -/
theorem readUnsigned_eq_ok_iff_holdsDecimal {v : UInt64} :
    readUnsigned env name = .ok v ↔ HoldsDecimal env name v.toNat := by
  simp only [readUnsigned_eq_ok_iff, HoldsDecimal, holds_iff, Decimal.unsigned?_eq_some_iff]

theorem readUnsigned_of_holdsDecimal (h : HoldsDecimal env name n) (hlt : n < 2 ^ 64) :
    readUnsigned env name = .ok (UInt64.ofNat n) := by
  rw [readUnsigned_eq_ok_iff_holdsDecimal, UInt64.toNat_ofNat_of_lt' hlt]
  exact h

theorem readUnsigned_eq_error_iff :
    readUnsigned env name = .error problem ↔ NumberFault env name problem := by
  constructor
  · unfold readUnsigned
    intro h
    split at h
    · rename_i hnone
      obtain rfl := Except.error.inj h
      exact .unset (Environment.nonBlank?_eq_none_iff.1 hnone)
    · rename_i raw hraw
      split at h
      · cases h
      · rename_i hnone
        obtain rfl := Except.error.inj h
        exact .malformed (holds_iff.2 hraw) (Decimal.unsigned?_eq_none_iff.1 hnone)
  · rintro (hmissing | ⟨hholds, hn⟩)
    · unfold readUnsigned
      rw [Environment.nonBlank?_eq_none_iff.2 hmissing]
    · unfold readUnsigned
      rw [holds_iff.1 hholds]
      simp only [Decimal.unsigned?_eq_none_iff.2 hn]

theorem exists_numberFault_iff :
    (∃ problem, NumberFault env name problem) ↔ ∀ n, HoldsDecimal env name n → 2 ^ 64 ≤ n := by
  simp only [← readUnsigned_eq_error_iff]
  constructor
  · rintro ⟨problem, hproblem⟩ n hn
    by_contra hlt
    rw [readUnsigned_of_holdsDecimal hn (Nat.lt_of_not_le hlt)] at hproblem
    cases hproblem
  · intro h
    cases hread : readUnsigned env name with
    | ok v =>
      have hv := h _ (readUnsigned_eq_ok_iff_holdsDecimal.1 hread)
      exact absurd v.toNat_lt_size (Nat.not_lt.2 hv)
    | error problem => exact ⟨problem, rfl⟩

/-- What is wrong with a variable begins with its name. -/
theorem NumberFault.exists_rest (h : NumberFault env name problem) :
    ∃ rest, problem = name ++ (" " ++ rest) := by
  cases h with
  | unset h => exact ⟨"is not set", rfl⟩
  | @malformed text h hn =>
    have hsplit : " is not a non-negative integer: " = " " ++ "is not a non-negative integer: " :=
      rfl
    exact ⟨"is not a non-negative integer: " ++ text, by simp only [hsplit, String.append_assoc]⟩

theorem problem?_eq_some_iff {α : Type} {r : Except String α} :
    problem? r = some problem ↔ r = .error problem := by
  cases r <;> simp [problem?]

/-- The problem of a variable is what is wrong with it. -/
theorem problem?_readUnsigned_eq_some_iff :
    problem? (readUnsigned env name) = some problem ↔ NumberFault env name problem := by
  rw [problem?_eq_some_iff, readUnsigned_eq_error_iff]

/-! ## Numerals with blanks around them -/

theorem isBlank_eq_false_of_spellsUnsigned (h : Decimal.SpellsUnsigned text n) :
    ∀ c ∈ text.toList, Text.isBlank c = false := by
  obtain ⟨sign, ds, htext, hsign, -, hds, -⟩ := h
  have hdigit : ∀ c, Decimal.isDigit c = true → Text.isBlank c = false := by
    intro c hc
    obtain ⟨hlow, hhigh⟩ := Decimal.isDigit_iff.1 hc
    simp only [Text.isBlank, Bool.or_eq_false_iff, Bool.and_eq_false_iff, beq_eq_false_iff_ne,
      decide_eq_false_iff_not]
    omega
  rw [htext]
  refine List.forall_mem_append.2 ⟨?_, fun c hc => hdigit c (hds c hc)⟩
  rcases hsign with rfl | rfl
  · exact List.forall_mem_nil _
  · exact List.forall_mem_singleton.2 rfl

theorem ne_empty_of_spellsUnsigned (h : Decimal.SpellsUnsigned text n) : text ≠ "" := by
  obtain ⟨sign, ds, htext, -, hne, -⟩ := h
  rintro rfl
  exact hne (List.append_eq_nil_iff.1 htext.symm).2

namespace HoldsPadded

theorem spells (h : HoldsPadded env name text n) : Decimal.SpellsUnsigned text n := by
  obtain ⟨-, -, sign, zeros, -, -, -, rfl, hsign⟩ := h
  exact Decimal.spellsUnsigned_ofNat n zeros hsign

/-- The blanks around the numeral do not count. -/
theorem holds (h : HoldsPadded env name text n) : Holds env name text := by
  have hspells := h.spells
  obtain ⟨before, after, -, -, hget, hbefore, hafter, -, -⟩ := h
  exact holds_iff.2 (Environment.nonBlank?_of_padded hget (ne_empty_of_spellsUnsigned hspells)
    hbefore (isBlank_eq_false_of_spellsUnsigned hspells) hafter)

theorem holdsDecimal (h : HoldsPadded env name text n) : HoldsDecimal env name n :=
  ⟨text, h.holds, h.spells⟩

/-- A number of more than 64 bits is at fault. -/
theorem numberFault (h : HoldsPadded env name text n) (hn : 2 ^ 64 ≤ n) :
    NumberFault env name (name ++ " is not a non-negative integer: " ++ text) :=
  .malformed h.holds fun m hm => by rwa [hm.unique h.spells]

end HoldsPadded

/-! ## Both settings -/

namespace Gas

/-- The variables that hold the settings, in the order in which they are read. -/
def settingVariables : List String := [limitVariable, priceVariable]

theorem mem_settingVariables_iff :
    name ∈ settingVariables ↔ name = limitVariable ∨ name = priceVariable := by
  simp only [settingVariables, List.mem_cons, List.not_mem_nil, or_false]

/-- Append the problem of each variable to the problems found so far. -/
def appendProblems (env : Environment) (found : List String) : List String :=
  settingVariables.foldl (fun found name => found ++ (problem? (readUnsigned env name)).toList) found

/-- What is appended are the problems of the settings, whatever was found before. -/
theorem appendProblems_eq (found : List String) :
    appendProblems env found = found ++ problems env := by
  simp only [appendProblems, settingVariables, List.foldl_cons, List.foldl_nil, List.append_assoc]
  rfl

theorem mem_problems_of_numberFault (hname : name ∈ settingVariables)
    (h : NumberFault env name problem) : problem ∈ problems env := by
  have hsome := Option.mem_toList.2 (problem?_readUnsigned_eq_some_iff.2 h)
  rcases mem_settingVariables_iff.1 hname with rfl | rfl
  · exact List.mem_append_left _ hsome
  · exact List.mem_append_right _ hsome

theorem exists_ofEnvironment_eq_ok_iff {limit price : Nat} :
    (∃ g, ofEnvironment env = .ok g ∧ g.limit.toNat = limit ∧ g.price.toNat = price) ↔
      HoldsDecimal env limitVariable limit ∧ HoldsDecimal env priceVariable price ∧
        limit < 2 ^ 64 ∧ price < 2 ^ 64 := by
  constructor
  · rintro ⟨g, hg, rfl, rfl⟩
    obtain ⟨hl, hp⟩ := ofEnvironment_eq_ok_iff.1 hg
    exact ⟨readUnsigned_eq_ok_iff_holdsDecimal.1 hl, readUnsigned_eq_ok_iff_holdsDecimal.1 hp,
      g.limit.toNat_lt_size, g.price.toNat_lt_size⟩
  · rintro ⟨hl, hp, hll, hpl⟩
    refine ⟨⟨UInt64.ofNat limit, UInt64.ofNat price⟩, ofEnvironment_eq_ok_iff.2
      ⟨readUnsigned_of_holdsDecimal hl hll, readUnsigned_of_holdsDecimal hp hpl⟩, ?_, ?_⟩
    · exact UInt64.toNat_ofNat_of_lt' hll
    · exact UInt64.toNat_ofNat_of_lt' hpl

theorem ofEnvironment_eq_error_iff {f : Failure} :
    ofEnvironment env = .error f ↔
      problems env ≠ [] ∧ f = .configuration (String.intercalate "; " (problems env)) := by
  unfold ofEnvironment
  split
  · rename_i limit price hl hp
    have hnil : problems env = [] := problems_eq_nil_iff.2 ⟨⟨limit, hl⟩, ⟨price, hp⟩⟩
    exact ⟨nofun, fun h => absurd hnil h.1⟩
  · rename_i hnot
    have hne : problems env ≠ [] := by
      intro hnil
      obtain ⟨⟨limit, hl⟩, ⟨price, hp⟩⟩ := problems_eq_nil_iff.1 hnil
      exact hnot limit price hl hp
    exact ⟨fun h => ⟨hne, (Except.error.inj h).symm⟩, fun h => congrArg Except.error h.2.symm⟩

end Gas

/-- **Gas settings are read exactly.** They are read from an environment if the two variables hold,
blanks around them apart, decimal numerals with values below `2 ^ 64`, and these values are read.
Otherwise the failure tells what is wrong with the limit and with the price, in this order, each at
most once, and the same is appended to whatever problems a network has before. In particular the
decimal text of every number below `2 ^ 64` is read as the number, with zeros, a plus sign and blanks
or without, and that of every other number is a problem. -/
theorem gas_read_exactly (env : Environment) :
    (∀ limit price : Nat,
      (∃ g, Gas.ofEnvironment env = .ok g ∧ g.limit.toNat = limit ∧ g.price.toNat = price) ↔
        HoldsDecimal env Gas.limitVariable limit ∧ HoldsDecimal env Gas.priceVariable price ∧
          limit < 2 ^ 64 ∧ price < 2 ^ 64) ∧
    (∃ limit? price? : Option String,
      (∀ problem, limit? = some problem ↔ NumberFault env Gas.limitVariable problem) ∧
      (∀ problem, price? = some problem ↔ NumberFault env Gas.priceVariable problem) ∧
      Gas.problems env = limit?.toList ++ price?.toList) ∧
    (∀ f, Gas.ofEnvironment env = .error f ↔ Gas.problems env ≠ [] ∧
      f = .configuration (String.intercalate "; " (Gas.problems env))) ∧
    (∀ found, Gas.appendProblems env found = found ++ Gas.problems env) ∧
    (∀ n, problems env n =
      Gas.appendProblems env ((urlProblem? env n).toList ++ (credentialProblem? env n).toList)) ∧
    (∀ limit price l p, HoldsPadded env Gas.limitVariable limit l →
      HoldsPadded env Gas.priceVariable price p → l < 2 ^ 64 → p < 2 ^ 64 →
      Gas.ofEnvironment env = .ok ⟨UInt64.ofNat l, UInt64.ofNat p⟩) ∧
    (∀ name ∈ Gas.settingVariables, ∀ text n, HoldsPadded env name text n →
      (n < 2 ^ 64 → readUnsigned env name = .ok (UInt64.ofNat n)) ∧
      (2 ^ 64 ≤ n → name ++ " is not a non-negative integer: " ++ text ∈ Gas.problems env)) := by
  refine ⟨fun limit price => Gas.exists_ofEnvironment_eq_ok_iff,
    ⟨Gas.limitProblem? env, Gas.priceProblem? env,
      fun problem => problem?_readUnsigned_eq_some_iff,
      fun problem => problem?_readUnsigned_eq_some_iff, rfl⟩,
    fun f => Gas.ofEnvironment_eq_error_iff, Gas.appendProblems_eq,
    fun n => (Gas.appendProblems_eq _).symm, ?_, ?_⟩
  · intro limit price l p hl hp hll hpl
    exact Gas.ofEnvironment_eq_ok_iff.2 ⟨readUnsigned_of_holdsDecimal hl.holdsDecimal hll,
      readUnsigned_of_holdsDecimal hp.holdsDecimal hpl⟩
  · intro name hname text n h
    exact ⟨readUnsigned_of_holdsDecimal h.holdsDecimal,
      fun hn => Gas.mem_problems_of_numberFault hname (h.numberFault hn)⟩

/-- A limit that is just small enough, with blanks, a sign and zeros, and a price that is just too
great. -/
def borderlineGas : Environment where
  entries := [("GAS_LIMIT", "\u3000+0018446744073709551615 "), ("GAS_PRICE", "18446744073709551616")]

theorem gas_read_exactly_borderline :
    HoldsPadded borderlineGas Gas.limitVariable "+0018446744073709551615" (2 ^ 64 - 1) ∧
    HoldsPadded borderlineGas Gas.priceVariable "18446744073709551616" (2 ^ 64) ∧
    readUnsigned borderlineGas Gas.limitVariable = .ok (UInt64.ofNat (2 ^ 64 - 1)) ∧
    Gas.ofEnvironment borderlineGas = .error
      (.configuration "GAS_PRICE is not a non-negative integer: 18446744073709551616") := by
  have hl : HoldsPadded borderlineGas Gas.limitVariable "+0018446744073709551615" (2 ^ 64 - 1) :=
    ⟨"\u3000", " ", "+", 2, by decide, List.all_eq_true.1 (by decide),
      List.all_eq_true.1 (by decide), by decide +kernel, .inr rfl⟩
  have hp : HoldsPadded borderlineGas Gas.priceVariable "18446744073709551616" (2 ^ 64) :=
    ⟨"", "", "", 0, by decide, List.forall_mem_nil _, List.forall_mem_nil _, by decide +kernel,
      .inl rfl⟩
  obtain ⟨-, -, hfail, -, -, -, hread⟩ := gas_read_exactly borderlineGas
  refine ⟨hl, hp, (hread _ List.mem_cons_self _ _ hl).1 (by decide), ?_⟩
  exact (hfail _).2 ⟨by decide, by decide⟩

end NodeAudit.Profile
