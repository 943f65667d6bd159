import Mathlib.Data.List.Nodup
import NodeAudit.Proofs.Profile.Gas

/-!
# Problems part by part

The variables of a network fall into four parts, none of which shares a variable with another
(`Part.eq_of_mem_variableNames`). What can be wrong with a part is listed once (`Fault`); a part has
at most one problem, which is its fault (`Part.problem?_eq_some_iff`), and looks at its own variables
only (`Part.problem?_congr`). The problems of a network are those of its parts in order
(`problems_eq_flatMap`), so that a change of one part leaves the problems of the others where they
are (`problems_split`). The first word of a problem tells its part, so that no problem is listed
twice (`nodup_problems`).

Main statement: `problems_part_by_part`.
-/

namespace NodeAudit.Profile

/-- A part of what describes a network. -/
inductive Part where
  | url
  | credential
  | gasLimit
  | gasPrice
deriving DecidableEq, Repr

namespace Part

/-- All parts, in the order of their problems. -/
def all : List Part := [url, credential, gasLimit, gasPrice]

/-- The variables of the part. -/
def variableNames (n : Network) : Part → List String
  | url => [n.urlVariable]
  | credential => [n.mnemonicVariable, n.privateKeyVariable]
  | gasLimit => [Gas.limitVariable]
  | gasPrice => [Gas.priceVariable]

/-- What is wrong with the part. -/
def problem? (env : Environment) (n : Network) : Part → Option String
  | url => urlProblem? env n
  | credential => credentialProblem? env n
  | gasLimit => Gas.limitProblem? env
  | gasPrice => Gas.priceProblem? env

/-- The words that problems of the part begin with. -/
def firstWords (n : Network) : Part → List String
  | url => [n.urlVariable]
  | credential => ["neither", n.privateKeyVariable]
  | gasLimit => [Gas.limitVariable]
  | gasPrice => [Gas.priceVariable]

theorem mem_all (part : Part) : part ∈ all := by
  cases part <;> decide

end Part

/-- What can be wrong with each part, and what the problem then is. -/
inductive Fault (env : Environment) (n : Network) : Part → String → Prop where
  | noUrl (h : env.Missing n.urlVariable) : Fault env n .url (n.urlVariable ++ " is not set")
  | noCredential (hm : env.Missing n.mnemonicVariable) (hk : env.Missing n.privateKeyVariable) :
      Fault env n .credential
        ("neither " ++ n.mnemonicVariable ++ " nor " ++ n.privateKeyVariable ++ " is set")
  /-- Whether there is a mnemonic too does not matter. -/
  | malformedKey {key : String} {p : KeyProblem} (h : Holds env n.privateKeyVariable key)
      (hp : keyProblem? key = some p) :
      Fault env n .credential (n.privateKeyVariable ++ " " ++ p.message)
  | gasLimit {problem : String} (h : NumberFault env Gas.limitVariable problem) :
      Fault env n .gasLimit problem
  | gasPrice {problem : String} (h : NumberFault env Gas.priceVariable problem) :
      Fault env n .gasPrice problem

/-- The variable has no value that can be used. A mnemonic or a key may be missing if the other is
set. -/
inductive AtFault (env : Environment) (n : Network) : String → Prop where
  | url (h : env.Missing n.urlVariable) : AtFault env n n.urlVariable
  | credential {name : String} (hname : name ∈ Part.credential.variableNames n)
      (hm : env.Missing n.mnemonicVariable) (hk : env.Missing n.privateKeyVariable) :
      AtFault env n name
  | key {key : String} (h : Holds env n.privateKeyVariable key) (hp : keyProblem? key ≠ none) :
      AtFault env n n.privateKeyVariable
  | gas {name : String} (hname : name ∈ Gas.settingVariables)
      (h : ∀ v, HoldsDecimal env name v → 2 ^ 64 ≤ v) : AtFault env n name

/-- The name stands in the problem. -/
def Names (problem name : String) : Prop := ∃ before after, problem = before ++ name ++ after

variable {env env' : Environment} {n : Network} {part other : Part} {name problem : String}

/-! ## Faults -/

theorem Part.problem?_eq_some_iff :
    part.problem? env n = some problem ↔ Fault env n part problem := by
  constructor
  · intro h
    cases part with
    | url =>
      simp only [problem?, urlProblem?] at h
      split at h
      · cases h
      · rename_i hurl
        obtain rfl := Option.some.inj h
        exact .noUrl (Environment.nonBlank?_eq_none_iff.1 hurl)
    | credential =>
      simp only [problem?, credentialProblem?] at h
      split at h
      · rename_i hm hk
        obtain rfl := Option.some.inj h
        exact .noCredential (Environment.nonBlank?_eq_none_iff.1 hm)
          (Environment.nonBlank?_eq_none_iff.1 hk)
      · rename_i key hk
        obtain ⟨p, hp, rfl⟩ := Option.map_eq_some_iff.1 h
        exact .malformedKey (holds_iff.2 hk) hp
      · cases h
    | gasLimit => exact .gasLimit (problem?_readUnsigned_eq_some_iff.1 h)
    | gasPrice => exact .gasPrice (problem?_readUnsigned_eq_some_iff.1 h)
  · intro h
    cases h with
    | noUrl h => simp only [problem?, urlProblem?, Environment.nonBlank?_eq_none_iff.2 h]
    | noCredential hm hk =>
      simp only [problem?, credentialProblem?, Environment.nonBlank?_eq_none_iff.2 hm,
        Environment.nonBlank?_eq_none_iff.2 hk]
    | malformedKey h hp =>
      simp only [problem?, credentialProblem?, holds_iff.1 h, hp, Option.map_some]
    | gasLimit h => exact problem?_readUnsigned_eq_some_iff.2 h
    | gasPrice h => exact problem?_readUnsigned_eq_some_iff.2 h

/-- The problems are those of the parts in order. -/
theorem problems_eq_flatMap :
    problems env n = Part.all.flatMap fun part => (part.problem? env n).toList := by
  simp only [Part.all, List.flatMap_cons, List.flatMap_nil, List.append_nil, problems, Gas.problems,
    List.append_assoc]
  rfl

theorem mem_problems_of_fault (h : Fault env n part problem) : problem ∈ problems env n := by
  rw [problems_eq_flatMap]
  exact List.mem_flatMap.2
    ⟨part, part.mem_all, Option.mem_toList.2 (Part.problem?_eq_some_iff.2 h)⟩

/-! ## Variables of a part -/

theorem Part.problem?_congr
    (h : ∀ name ∈ part.variableNames n, env'.nonBlank? name = env.nonBlank? name) :
    part.problem? env' n = part.problem? env n := by
  cases part with
  | url => simp only [problem?, urlProblem?, h n.urlVariable List.mem_cons_self]
  | credential =>
    simp only [problem?, credentialProblem?, h n.mnemonicVariable List.mem_cons_self,
      h n.privateKeyVariable (List.mem_cons_of_mem _ List.mem_cons_self)]
  | gasLimit =>
    rw [problem?, problem?, Gas.limitProblem?, Gas.limitProblem?,
      readUnsigned_congr (h Gas.limitVariable List.mem_cons_self)]
  | gasPrice =>
    rw [problem?, problem?, Gas.priceProblem?, Gas.priceProblem?,
      readUnsigned_congr (h Gas.priceVariable List.mem_cons_self)]

theorem Part.eq_of_mem_variableNames (h : name ∈ part.variableNames n)
    (h' : name ∈ other.variableNames n) : part = other := by
  have hall : ∀ n ∈ Network.all, ∀ part ∈ all, ∀ other ∈ all, ∀ name ∈ part.variableNames n,
      name ∈ other.variableNames n → part = other := by decide
  exact hall n n.mem_all part part.mem_all other other.mem_all name h h'

/-- What is wrong with the other parts is not touched by a change of one part. -/
theorem Part.problem?_of_ne
    (h : ∀ name ∉ part.variableNames n, env'.nonBlank? name = env.nonBlank? name)
    (hne : other ≠ part) : other.problem? env' n = other.problem? env n :=
  problem?_congr fun name hname =>
    h name fun hmem => hne (eq_of_mem_variableNames hname hmem)

/-- The problems of the other parts stay where they are. -/
theorem problems_split
    (h : ∀ name ∉ part.variableNames n, env'.nonBlank? name = env.nonBlank? name) :
    ∃ before after, problems env n = before ++ (part.problem? env n).toList ++ after ∧
      problems env' n = before ++ (part.problem? env' n).toList ++ after := by
  obtain ⟨earlier, later, hall⟩ := List.append_of_mem part.mem_all
  have hnodup : Part.all.Nodup := by decide
  rw [hall, List.nodup_middle, List.nodup_cons, List.mem_append, not_or] at hnodup
  obtain ⟨⟨hearlier, hlater⟩, -⟩ := hnodup
  -- the problems of parts among which the changed one is not
  have hsame : ∀ parts : List Part, part ∉ parts →
      parts.flatMap (fun other => (other.problem? env' n).toList)
        = parts.flatMap fun other => (other.problem? env n).toList :=
    fun parts hnot => List.flatMap_congr fun other hother => by
      rw [Part.problem?_of_ne h fun heq => hnot (heq ▸ hother)]
  refine ⟨earlier.flatMap fun other => (other.problem? env n).toList,
    later.flatMap fun other => (other.problem? env n).toList, ?_, ?_⟩
  · rw [problems_eq_flatMap, hall, List.flatMap_append, List.flatMap_cons, List.append_assoc]
  · rw [problems_eq_flatMap, hall, List.flatMap_append, List.flatMap_cons, hsame _ hearlier,
      hsame _ hlater, List.append_assoc]

/-! ## No problem is listed twice -/

/-- The text before the first space. -/
def firstWord (problem : String) : String :=
  String.ofList (problem.toList.takeWhile (· != ' '))

theorem firstWord_append {word : String} (h : word.toList.all (· != ' ') = true) (rest : String) :
    firstWord (word ++ (" " ++ rest)) = word := by
  have hspace : " ".toList = [' '] := rfl
  rw [firstWord, String.toList_append, String.toList_append,
    List.takeWhile_append_of_pos (List.all_eq_true.1 h), hspace, List.singleton_append,
    List.takeWhile_cons_of_neg (by decide), List.append_nil, String.ofList_toList]

/-- A problem begins with a word of its part. -/
theorem Fault.firstWord_mem (h : Fault env n part problem) :
    firstWord problem ∈ part.firstWords n := by
  have hwords : ∀ n ∈ Network.all, ∀ part ∈ Part.all, ∀ word ∈ part.firstWords n,
      word.toList.all (· != ' ') = true := by decide
  have hbegins : ∃ word ∈ part.firstWords n, ∃ rest, problem = word ++ (" " ++ rest) := by
    cases h with
    | noUrl h => exact ⟨_, List.mem_cons_self, "is not set", rfl⟩
    | noCredential hm hk =>
      refine ⟨_, List.mem_cons_self, n.mnemonicVariable ++ " nor " ++ n.privateKeyVariable
        ++ " is set", ?_⟩
      simp only [← String.append_assoc]
      rfl
    | malformedKey h hp =>
      exact ⟨_, List.mem_cons_of_mem _ List.mem_cons_self, _, String.append_assoc⟩
    | gasLimit h => exact ⟨_, List.mem_cons_self, h.exists_rest⟩
    | gasPrice h => exact ⟨_, List.mem_cons_self, h.exists_rest⟩
  obtain ⟨word, hword, rest, rfl⟩ := hbegins
  rw [firstWord_append (hwords n n.mem_all part part.mem_all word hword)]
  exact hword

theorem Fault.part_unique (h : Fault env n part problem) (h' : Fault env n other problem) :
    part = other := by
  have hall : ∀ n ∈ Network.all, ∀ part ∈ Part.all, ∀ other ∈ Part.all,
      ∀ word ∈ part.firstWords n, word ∈ other.firstWords n → part = other := by decide
  exact hall n n.mem_all part part.mem_all other other.mem_all _ h.firstWord_mem h'.firstWord_mem

theorem nodup_problems : (problems env n).Nodup := by
  have hparts : Part.all.Nodup := by decide
  rw [problems_eq_flatMap, ← List.filterMap_eq_flatMap_toList]
  exact hparts.filterMap fun part other problem h h' =>
    (Part.problem?_eq_some_iff.1 h).part_unique (Part.problem?_eq_some_iff.1 h')

/-- Without its problem a part leaves the others as they are. -/
theorem problems_erase
    (h : ∀ name ∉ part.variableNames n, env'.nonBlank? name = env.nonBlank? name)
    (hproblem : part.problem? env n = some problem) (hvalid : part.problem? env' n = none) :
    problems env' n = (problems env n).erase problem := by
  obtain ⟨before, after, hbefore, hafter⟩ := problems_split h
  have hnodup : (problems env n).Nodup := nodup_problems
  rw [hproblem, Option.toList_some, List.append_assoc, List.singleton_append] at hbefore
  rw [hbefore, List.nodup_middle, List.nodup_cons, List.mem_append, not_or] at hnodup
  rw [hafter, hvalid, hbefore, List.erase_append_right _ hnodup.1.1, List.erase_cons_head,
    Option.toList_none, List.append_nil]

/-! ## Every variable at fault is named -/

theorem AtFault.exists_problem (h : AtFault env n name) :
    ∃ problem ∈ problems env n, Names problem name := by
  cases h with
  | url h =>
    exact ⟨_, mem_problems_of_fault (.noUrl h), "", " is not set", by rw [String.empty_append]⟩
  | credential hname hm hk =>
    refine ⟨_, mem_problems_of_fault (.noCredential hm hk), ?_⟩
    simp only [Part.variableNames, List.mem_cons, List.not_mem_nil, or_false] at hname
    rcases hname with rfl | rfl
    · exact ⟨"neither ", " nor " ++ n.privateKeyVariable ++ " is set", by
        simp only [String.append_assoc]⟩
    · exact ⟨"neither " ++ n.mnemonicVariable ++ " nor ", " is set", rfl⟩
  | key h hp =>
    obtain ⟨p, hp⟩ := Option.ne_none_iff_exists'.1 hp
    exact ⟨_, mem_problems_of_fault (.malformedKey h hp), "", " " ++ p.message, by
      rw [String.empty_append, String.append_assoc]⟩
  | gas hname h =>
    obtain ⟨problem, hfault⟩ := exists_numberFault_iff.2 h
    obtain ⟨rest, hrest⟩ := hfault.exists_rest
    refine ⟨problem, List.mem_append_right _ (Gas.mem_problems_of_numberFault hname hfault), "",
      " " ++ rest, ?_⟩
    rw [String.empty_append, hrest]

theorem problems_eq_nil_iff_forall :
    problems env n = [] ↔ ∀ part : Part, part.problem? env n = none := by
  rw [problems_eq_flatMap, List.flatMap_eq_nil_iff]
  constructor
  · exact fun h part => Option.toList_eq_nil_iff.1 (h part part.mem_all)
  · exact fun h part _ => Option.toList_eq_nil_iff.2 (h part)

/-- **Problems part by part.** The problems of a network are those of its parts in order, at most one
for each part, which is what is wrong with the part; none is listed twice. A part looks at its own
variables only. When the variables of one part change, the problems of the other parts stay where
they are, and when the part is then valid, exactly its problem is gone. Every variable at fault is
named in a problem, and the network can be resolved exactly if no part has one. -/
theorem problems_part_by_part (env : Environment) (n : Network) :
    (problems env n = Part.all.flatMap fun part => (part.problem? env n).toList) ∧
    (∀ (part : Part) (problem : String),
      part.problem? env n = some problem ↔ Fault env n part problem) ∧
    (problems env n).Nodup ∧
    (∀ (env' : Environment) (part : Part),
      (∀ name ∈ part.variableNames n, env'.nonBlank? name = env.nonBlank? name) →
      part.problem? env' n = part.problem? env n) ∧
    (∀ (env' : Environment) (part : Part),
      (∀ name ∉ part.variableNames n, env'.nonBlank? name = env.nonBlank? name) →
      (∀ other ≠ part, other.problem? env' n = other.problem? env n) ∧
      (∃ before after, problems env n = before ++ (part.problem? env n).toList ++ after ∧
        problems env' n = before ++ (part.problem? env' n).toList ++ after) ∧
      ∀ problem, part.problem? env n = some problem → part.problem? env' n = none →
        problems env' n = (problems env n).erase problem) ∧
    (∀ name, AtFault env n name → ∃ problem ∈ problems env n, Names problem name) ∧
    ((∃ p, resolve env n = .ok p) ↔ ∀ part : Part, part.problem? env n = none) := by
  refine ⟨problems_eq_flatMap, fun part problem => Part.problem?_eq_some_iff, nodup_problems,
    fun env' part => Part.problem?_congr, fun env' part h => ?_, fun name => AtFault.exists_problem,
    ?_⟩
  · exact ⟨fun other => Part.problem?_of_ne h, problems_split h, fun problem => problems_erase h⟩
  · rw [exists_resolve_eq_ok_iff, problems_eq_nil_iff_forall]

/-- A key that is none beside a mnemonic, and gas settings of which one is too great and the other
is missing. -/
def faultyVariables : Environment where
  entries := [("GAS_LIMIT", "18446744073709551616"), ("LOCAL_0_URL", " http://localhost "),
    ("LOCAL_MNEMONIC", "words"), ("LOCAL_PRIVATE_KEY", "0xa")]

/-- With a blank in place of the key its problem goes and the other two stay. -/
theorem problems_part_by_part_faultyVariables :
    problems faultyVariables .localnet = ["LOCAL_PRIVATE_KEY is not valid hex",
      "GAS_LIMIT is not a non-negative integer: 18446744073709551616", "GAS_PRICE is not set"] ∧
    problems (faultyVariables.set "LOCAL_PRIVATE_KEY" " ") .localnet
      = (problems faultyVariables .localnet).erase "LOCAL_PRIVATE_KEY is not valid hex" := by
  have hothers : ∀ name ∉ Part.credential.variableNames .localnet,
      (faultyVariables.set "LOCAL_PRIVATE_KEY" " ").nonBlank? name
        = faultyVariables.nonBlank? name := by
    intro name hname
    refine Environment.nonBlank?_set_of_ne _ (fun heq => hname ?_) _
    rw [heq]
    decide
  obtain ⟨-, -, -, -, hchange, -⟩ := problems_part_by_part faultyVariables .localnet
  obtain ⟨-, -, herase⟩ := hchange _ .credential hothers
  exact ⟨by decide, herase _ (by decide) (by decide)⟩

end NodeAudit.Profile
