import Mathlib.Data.List.Forall2
import NodeAudit.Config.Review
import NodeAudit.Proofs.Cli.Acts
import NodeAudit.Proofs.Cli.Checks
import NodeAudit.Proofs.Cli.Obstacles
import NodeAudit.Proofs.Environment

/-!
# What a review finds

A configuration is usable under four conditions (`Condition`). `Broken` says what it is to break one
of them, and `Breach` which fault tells that it is broken: each broken condition has one fault
(`broken_iff`, `Breach.unique`), and the faults are those of the broken conditions in order
(`forall₂_breach_faults`). Every fault names the field of its condition (`Breach.message_eq`).

`CallsFor` says what a configuration calls attention to. The cautions of a review are those in
order, and then the problems of the networks (`cautions_eq_filter`).

Main statement: `review_collects`. Whoever accepts a configuration accepts what a benchmark will
demand of it.
-/

namespace NodeAudit

namespace Rpc.Method

variable {name : String}

theorem ofName?_eq_none_iff : ofName? name = none ↔ ∀ m : Method, m.name ≠ name := by
  constructor
  · rintro h m rfl
    rw [ofName?_name] at h
    cases h
  · intro h
    rw [ofName?, List.find?_eq_none]
    exact fun m _ hm => h m (eq_of_beq hm)

theorem exists_name_eq_iff : (∃ m ∈ all, m.name = name) ↔ ¬ ∀ m : Method, m.name ≠ name := by
  rw [← ofName?_eq_none_iff, ofName?, List.find?_eq_none]
  simp

end Rpc.Method

theorem Url.isWeb_iff {u : Url} :
    u.isWeb = true ↔ u.scheme = "http".toList ∨ u.scheme = "https".toList := by
  simp only [Url.isWeb, Bool.or_eq_true, beq_iff_eq]

namespace Config

open Profile

/-! ## Conditions -/

/-- What a configuration has to meet, in the order of its fields. -/
inductive Condition
  | webAddress
  | someTime
  | reportPath
  | someInFlight
deriving DecidableEq, Repr

namespace Condition

/-- The conditions in order. -/
def all : List Condition := [webAddress, someTime, reportPath, someInFlight]

/-- The field that the condition is about. -/
def field : Condition → String
  | webAddress => "harness.net_url"
  | someTime => "harness.request_timeout_secs"
  | reportPath => "harness.report_path"
  | someInFlight => "bench.max_concurrent"

theorem mem_all (condition : Condition) : condition ∈ all := by
  cases condition <;> decide

end Condition

/-- The configuration does not meet the condition. -/
def Broken (c : Config) : Condition → Prop
  | .webAddress => ¬ ∃ u, Url.read c.harness.netUrl = .ok u ∧
      (u.scheme = "http".toList ∨ u.scheme = "https".toList)
  | .someTime => c.harness.requestTimeoutSecs = 0
  | .reportPath => ∀ ch ∈ c.harness.reportPath.toList, Text.isBlank ch = true
  | .someInFlight => c.bench.maxConcurrent = 0

/-- The fault tells how the configuration breaks the condition. -/
inductive Breach (c : Config) : Condition → Fault → Prop
  | invalidUrl {e : UrlError} (h : Url.read c.harness.netUrl = .error e) :
      Breach c .webAddress (.invalidUrl e)
  | foreignScheme {u : Url} (h : Url.read c.harness.netUrl = .ok u)
      (hhttp : u.scheme ≠ "http".toList) (hhttps : u.scheme ≠ "https".toList) :
      Breach c .webAddress (.foreignScheme (String.ofList u.scheme))
  | zeroTimeout (h : c.harness.requestTimeoutSecs = 0) : Breach c .someTime .zeroTimeout
  | blankReportPath (h : ∀ ch ∈ c.harness.reportPath.toList, Text.isBlank ch = true) :
      Breach c .reportPath .blankReportPath
  | zeroConcurrency (h : c.bench.maxConcurrent = 0) : Breach c .someInFlight .zeroConcurrency

/-- The fault of one condition. -/
def fault? (c : Config) : Condition → Option Fault
  | .webAddress => urlFault? c.harness.netUrl
  | .someTime => timeoutFault? c.harness
  | .reportPath => reportPathFault? c.harness
  | .someInFlight => concurrencyFault? c.bench

variable {c : Config} {condition : Condition} {fault : Fault}

theorem urlFault?_eq_some_iff :
    urlFault? c.harness.netUrl = some fault ↔ Breach c .webAddress fault := by
  unfold urlFault?
  constructor
  · intro h
    split at h
    · rename_i e hread
      obtain rfl := Option.some.inj h
      exact .invalidUrl hread
    · rename_i u hread
      split at h
      · cases h
      · rename_i hweb
        obtain rfl := Option.some.inj h
        rw [Url.isWeb_iff, not_or] at hweb
        exact .foreignScheme hread hweb.1 hweb.2
  · intro h
    cases h with
    | invalidUrl hread => rw [hread]
    | foreignScheme hread hhttp hhttps =>
      rw [hread]
      exact if_neg (Url.isWeb_iff.not.2 (not_or.2 ⟨hhttp, hhttps⟩))

theorem fault?_eq_some_iff : c.fault? condition = some fault ↔ Breach c condition fault := by
  cases condition with
  | webAddress => exact urlFault?_eq_some_iff
  | someTime =>
    rw [fault?, timeoutFault?, Option.ite_none_right_eq_some, Option.some.injEq]
    constructor
    · rintro ⟨h, rfl⟩
      exact .zeroTimeout h
    · intro h
      cases h with
      | zeroTimeout h => exact ⟨h, rfl⟩
  | reportPath =>
    rw [fault?, reportPathFault?, Option.ite_none_right_eq_some, Option.some.injEq,
      Text.trim_eq_empty_iff]
    constructor
    · rintro ⟨h, rfl⟩
      exact .blankReportPath h
    · intro h
      cases h with
      | blankReportPath h => exact ⟨h, rfl⟩
  | someInFlight =>
    rw [fault?, concurrencyFault?, Option.ite_none_right_eq_some, Option.some.injEq]
    constructor
    · rintro ⟨h, rfl⟩
      exact .zeroConcurrency h
    · intro h
      cases h with
      | zeroConcurrency h => exact ⟨h, rfl⟩

theorem Breach.unique {fault' : Fault} (h : Breach c condition fault)
    (h' : Breach c condition fault') : fault = fault' := by
  rw [← fault?_eq_some_iff] at h h'
  exact Option.some.inj (h.symm.trans h')

theorem broken_iff : c.Broken condition ↔ ∃ fault, Breach c condition fault := by
  constructor
  · intro h
    cases condition with
    | webAddress =>
      cases hread : Url.read c.harness.netUrl with
      | error e => exact ⟨_, .invalidUrl hread⟩
      | ok u =>
        have hscheme := fun hweb => h ⟨u, hread, hweb⟩
        rw [imp_false, not_or] at hscheme
        exact ⟨_, .foreignScheme hread hscheme.1 hscheme.2⟩
    | someTime => exact ⟨_, .zeroTimeout h⟩
    | reportPath => exact ⟨_, .blankReportPath h⟩
    | someInFlight => exact ⟨_, .zeroConcurrency h⟩
  · rintro ⟨fault, hbreach⟩
    cases hbreach with
    | invalidUrl hread =>
      rintro ⟨u, hu, -⟩
      rw [hread] at hu
      cases hu
    | foreignScheme hread hhttp hhttps =>
      rintro ⟨u, hu, hweb⟩
      obtain rfl := Except.ok.inj (hread.symm.trans hu)
      exact not_or.2 ⟨hhttp, hhttps⟩ hweb
    | zeroTimeout h => exact h
    | blankReportPath h => exact h
    | zeroConcurrency h => exact h

theorem isSome_fault?_iff : (c.fault? condition).isSome = true ↔ c.Broken condition := by
  simp only [Option.isSome_iff_exists, fault?_eq_some_iff, broken_iff]

instance (c : Config) : DecidablePred c.Broken := fun _ => decidable_of_iff _ isSome_fault?_iff

/-- What is said of a fault begins with the field of the condition. -/
theorem Breach.message_eq (h : Breach c condition fault) :
    ∃ rest, fault.message = condition.field ++ " " ++ rest := by
  cases h with
  | @invalidUrl e =>
    have hurl : "harness.net_url is not a valid URL: "
        = "harness.net_url" ++ " " ++ "is not a valid URL: " := by decide +kernel
    exact ⟨_, (congrArg (· ++ e.message) hurl).trans (String.append_assoc ..)⟩
  | @foreignScheme u =>
    have hscheme : "harness.net_url must use http or https, got scheme '"
        = "harness.net_url" ++ " " ++ "must use http or https, got scheme '" := by decide +kernel
    exact ⟨_, (String.append_assoc ..).trans <|
      (congrArg (· ++ (String.ofList u.scheme ++ "'")) hscheme).trans (String.append_assoc ..)⟩
  | zeroTimeout => exact ⟨"must be greater than 0", by decide +kernel⟩
  | blankReportPath => exact ⟨"must not be empty", by decide +kernel⟩
  | zeroConcurrency => exact ⟨"must be greater than 0", by decide +kernel⟩

theorem faults_eq_filterMap (c : Config) : c.faults = Condition.all.filterMap c.fault? := by
  simp only [faults, Condition.all, List.filterMap_cons, fault?]
  cases urlFault? c.harness.netUrl <;> cases timeoutFault? c.harness <;>
    cases reportPathFault? c.harness <;> cases concurrencyFault? c.bench <;> rfl

/-- The faults are those of the broken conditions in order. -/
theorem forall₂_breach_faults (c : Config) :
    List.Forall₂ (Breach c) (Condition.all.filter fun condition => c.Broken condition)
      c.faults := by
  rw [faults_eq_filterMap]
  induction Condition.all with
  | nil => exact .nil
  | cons condition rest ih =>
    cases hfault : c.fault? condition with
    | none =>
      have hbroken : ¬ c.Broken condition := by simp [← isSome_fault?_iff, hfault]
      rw [List.filter_cons_of_neg (by simpa using hbroken), List.filterMap_cons_none hfault]
      exact ih
    | some fault =>
      have hbroken : c.Broken condition := by simp [← isSome_fault?_iff, hfault]
      rw [List.filter_cons_of_pos (by simpa using hbroken), List.filterMap_cons_some hfault]
      exact .cons (fault?_eq_some_iff.1 hfault) ih

theorem faults_eq_nil_iff : c.faults = [] ↔ ∀ condition, ¬ c.Broken condition := by
  have hnone : ∀ condition, c.fault? condition = none ↔ ¬ c.Broken condition := fun condition => by
    rw [← isSome_fault?_iff, Bool.not_eq_true, Option.isSome_eq_false_iff,
      Option.isNone_iff_eq_none]
  simp only [faults_eq_filterMap, List.filterMap_eq_nil_iff, hnone]
  exact ⟨fun h condition => h condition condition.mem_all, fun h condition _ => h condition⟩

/-! ## Cautions -/

/-- The configuration calls attention to this. -/
inductive CallsFor (c : Config) : Caution → Prop
  | noAddress (h : c.harness.address = none) : CallsFor c .noAddress
  | idleConcurrency (h : c.bench.requests < c.bench.maxConcurrent) :
      CallsFor c (.idleConcurrency c.bench.maxConcurrent c.bench.requests)
  | noRequests (h : c.bench.requests = 0) : CallsFor c .noRequests
  | unknownMethod (h : ∀ m : Rpc.Method, m.name ≠ c.bench.method) :
      CallsFor c (.unknownMethod c.bench.method)

/-- All that the configuration can call attention to, in order. -/
def possibleCautions (c : Config) : List Caution :=
  [.noAddress, .idleConcurrency c.bench.maxConcurrent c.bench.requests, .noRequests,
    .unknownMethod c.bench.method]

theorem mem_cautions_iff {caution : Caution} : caution ∈ c.cautions ↔ CallsFor c caution := by
  simp only [cautions, addressCaution?, concurrencyCaution?, requestsCaution?, methodCaution?,
    Option.isNone_iff_eq_none, Rpc.Method.ofName?_eq_none_iff, List.mem_append,
    Option.mem_toList, Option.ite_none_right_eq_some, Option.some.injEq]
  constructor
  · rintro (((⟨h, rfl⟩ | ⟨h, rfl⟩) | ⟨h, rfl⟩) | ⟨h, rfl⟩)
    · exact .noAddress h
    · exact .idleConcurrency h
    · exact .noRequests h
    · exact .unknownMethod h
  · intro h
    cases h with
    | noAddress h => exact .inl (.inl (.inl ⟨h, rfl⟩))
    | idleConcurrency h => exact .inl (.inl (.inr ⟨h, rfl⟩))
    | noRequests h => exact .inl (.inr ⟨h, rfl⟩)
    | unknownMethod h => exact .inr ⟨h, rfl⟩

instance (c : Config) : DecidablePred (CallsFor c) := fun _ => decidable_of_iff _ mem_cautions_iff

theorem cautions_sublist (c : Config) : c.cautions.Sublist c.possibleCautions := by
  have hone : ∀ (P : Prop) [Decidable P] (caution : Caution),
      (if P then some caution else none).toList.Sublist [caution] := fun P _ caution => by
    split
    · exact List.Sublist.refl _
    · exact List.nil_sublist _
  exact (((hone _ _).append (hone _ _)).append (hone _ _)).append (hone _ _)

theorem nodup_possibleCautions (c : Config) : c.possibleCautions.Nodup := by
  simp [possibleCautions]

/-- The cautions are what the configuration calls attention to, in order. -/
theorem cautions_eq_filter (c : Config) :
    c.cautions = c.possibleCautions.filter fun caution => CallsFor c caution := by
  have hsublist := (cautions_sublist c).filter fun caution => CallsFor c caution
  have hall : ∀ caution ∈ c.cautions, decide (CallsFor c caution) = true :=
    fun caution h => decide_eq_true (mem_cautions_iff.1 h)
  rw [List.filter_eq_self.2 hall] at hsublist
  refine hsublist.eq_of_length (List.Perm.length_eq ?_)
  have hnodup := c.nodup_possibleCautions
  rw [List.perm_ext_iff_of_nodup (hnodup.sublist c.cautions_sublist) (hnodup.filter _)]
  intro caution
  rw [List.mem_filter, decide_eq_true_eq, ← mem_cautions_iff]
  exact ⟨fun h => ⟨c.cautions_sublist.subset h, h⟩, And.right⟩

/-! ## Reviews -/

variable {profiles? : Option Environment} {found : List Caution}

theorem exists_verdict_eq_error_iff :
    (∃ faults, (c.review profiles?).verdict = .error faults) ↔ ∃ condition, c.Broken condition := by
  rw [verdict_review]
  by_cases hfaults : c.faults = []
  · have hnone : ¬ ∃ condition, c.Broken condition := not_exists.2 (faults_eq_nil_iff.1 hfaults)
    simp [hfaults, hnone]
  · have hsome : ∃ condition, c.Broken condition :=
      not_forall_not.1 (faults_eq_nil_iff.not.1 hfaults)
    simp [hfaults, hsome]

theorem verdict_eq_error_iff {faults : List Fault} :
    (c.review profiles?).verdict = .error faults ↔ c.faults = faults ∧ faults ≠ [] := by
  rw [verdict_review]
  split
  · rename_i hnil
    simp only [reduceCtorEq, hnil, false_iff, not_and, not_not]
    exact Eq.symm
  · rename_i hne
    rw [Except.error.injEq]
    exact ⟨fun h => ⟨h, h ▸ hne⟩, And.left⟩

theorem verdict_eq_ok_iff :
    (c.review profiles?).verdict = .ok found ↔ (∀ condition, ¬ c.Broken condition) ∧
      c.cautions ++ profiles?.elim [] profileCautions = found := by
  rw [verdict_review, ← faults_eq_nil_iff]
  split <;> simp [*]

/-- The profiles of networks are no reason to call a method unknown. -/
theorem unknownMethod_mem_iff (h : (c.review profiles?).verdict = .ok found) :
    .unknownMethod c.bench.method ∈ found ↔ ∀ m : Rpc.Method, m.name ≠ c.bench.method := by
  obtain ⟨-, rfl⟩ := verdict_eq_ok_iff.1 h
  have hprofiles : .unknownMethod c.bench.method ∉ profiles?.elim [] profileCautions := by
    cases profiles? <;> simp [profileCautions]
  rw [List.mem_append, or_iff_left hprofiles, mem_cautions_iff]
  constructor
  · intro hcalls
    cases hcalls with
    | unknownMethod hname => exact hname
  · exact .unknownMethod

/-! ## What a benchmark demands -/

/-- A bound that is met gives a plan for the benchmark. -/
theorem exists_plan_of_not_broken (h : ¬ c.Broken .someInFlight) :
    ∃ plan, Bench.Plan.make c.bench.requests.toNat c.bench.maxConcurrent.toNat = .ok plan ∧
      plan.requests = c.bench.requests.toNat ∧
      plan.maxConcurrent = c.bench.maxConcurrent.toNat := by
  have hpos : 0 < c.bench.maxConcurrent.toNat :=
    Nat.pos_of_ne_zero fun hzero => h (UInt64.toNat_inj.1 hzero)
  exact ⟨⟨_, _, hpos⟩, dif_pos hpos, rfl, rfl⟩

/-- A benchmark with an account goes by the settings if they name a method and let something be in
flight. -/
theorem exists_prepare_bench_iff {σ : Type} {address : String} :
    (∃ act : Cli.Setting → Http.Network σ → σ → Cli.Session σ,
      Cli.prepare c (.bench none (some address) none none) = .ok act) ↔
      (∃ m ∈ Rpc.Method.all, m.name = c.bench.method) ∧ ¬ c.Broken .someInFlight := by
  simp only [Cli.prepare_eq_ok_iff, Cli.exists_acts_iff]
  constructor
  · intro h
    exact ⟨h.method none rfl, h.limit none rfl⟩
  · rintro ⟨hmethod, hlimit⟩
    refine ⟨fun h => ?_, fun name? h => ?_, fun limit? h => ?_⟩
    · cases Option.some.inj h
    · obtain rfl := Option.some.inj h
      exact hmethod
    · obtain rfl := Option.some.inj h
      exact hlimit

/-- **A review collects all faults and all cautions.** It is a refusal exactly if a condition is
broken, and then has one fault for each broken condition, in order, which names its field. Refusals
are the same with every environment and with none. Otherwise it has the cautions that the
configuration calls for, in order, and behind them the problems of the networks. A benchmark can
then be planned by the settings, and it can read the method exactly if the review does not call it
unknown. -/
theorem review_collects (c : Config) (profiles? : Option Environment) :
    ((∃ faults, (c.review profiles?).verdict = .error faults) ↔
      ∃ condition, c.Broken condition) ∧
    (∀ faults, (c.review profiles?).verdict = .error faults →
      List.Forall₂ (fun condition fault => Breach c condition fault ∧
          ∃ rest, fault.message = condition.field ++ " " ++ rest)
        (Condition.all.filter fun condition => c.Broken condition) faults) ∧
    (∀ other faults, (c.review other).verdict = .error faults ↔
      (c.review profiles?).verdict = .error faults) ∧
    ∀ found, (c.review profiles?).verdict = .ok found →
      found = (c.possibleCautions.filter fun caution => CallsFor c caution) ++
        (profiles?.elim [] fun env => [Network.localnet, .devnet, .mainnet0].flatMap fun n =>
          (problems env n).map (.profile n)) ∧
      (∃ plan, Bench.Plan.make c.bench.requests.toNat c.bench.maxConcurrent.toNat = .ok plan ∧
        plan.requests = c.bench.requests.toNat ∧
        plan.maxConcurrent = c.bench.maxConcurrent.toNat) ∧
      ((∃ m, Rpc.Method.parse c.bench.method = .ok m) ↔
        .unknownMethod c.bench.method ∉ found) ∧
      ∀ (σ : Type) (address : String),
        (∃ act : Cli.Setting → Http.Network σ → σ → Cli.Session σ,
          Cli.prepare c (.bench none (some address) none none) = .ok act) ↔
        .unknownMethod c.bench.method ∉ found := by
  refine ⟨exists_verdict_eq_error_iff, fun faults h => ?_, fun other faults => ?_,
    fun found h => ?_⟩
  · obtain ⟨rfl, -⟩ := verdict_eq_error_iff.1 h
    exact (forall₂_breach_faults c).imp fun _ _ hbreach => ⟨hbreach, hbreach.message_eq⟩
  · rw [verdict_eq_error_iff, verdict_eq_error_iff]
  · obtain ⟨hconditions, hfound⟩ := verdict_eq_ok_iff.1 h
    have hmethod : (∃ m ∈ Rpc.Method.all, m.name = c.bench.method) ↔
        .unknownMethod c.bench.method ∉ found := by
      rw [unknownMethod_mem_iff h, Rpc.Method.exists_name_eq_iff]
    refine ⟨?_, exists_plan_of_not_broken (hconditions _), ?_, fun σ address => ?_⟩
    · rw [← hfound, cautions_eq_filter]
      rfl
    · rw [← hmethod, Rpc.Method.exists_parse_eq_ok_iff]
    · rw [← hmethod, exists_prepare_bench_iff, and_iff_left (hconditions _)]

/-- A configuration with three faults. -/
def faultyConfig : Config where
  harness := { netUrl := "ws://[::1]:9800", requestTimeoutSecs := 0 }
  bench := { maxConcurrent := 0 }

/-- A configuration with three cautions. -/
def cautiousConfig : Config where
  harness := { netUrl := "http://[::1]:9500" }
  bench := { method := "eth_getBalance", requests := 5 }

/-- The faults are the same with the profiles of an empty environment, and an unknown method is no
reason to refuse. -/
theorem review_collects_three :
    (faultyConfig.review none).verdict
        = .error [.foreignScheme "ws", .zeroTimeout, .zeroConcurrency] ∧
      (faultyConfig.review (some {})).verdict
        = .error [.foreignScheme "ws", .zeroTimeout, .zeroConcurrency] ∧
      Breach faultyConfig .webAddress (.foreignScheme "ws") ∧
      (cautiousConfig.review none).verdict
        = .ok [.noAddress, .idleConcurrency 10 5, .unknownMethod "eth_getBalance"] ∧
      (∃ plan, Bench.Plan.make 5 10 = .ok plan) ∧
      ¬ ∃ m, Rpc.Method.parse "eth_getBalance" = .ok m := by
  have hfaulty : (faultyConfig.review none).verdict
      = .error [.foreignScheme "ws", .zeroTimeout, .zeroConcurrency] := by decide +kernel
  have hcautious : (cautiousConfig.review none).verdict
      = .ok [.noAddress, .idleConcurrency 10 5, .unknownMethod "eth_getBalance"] := by
    decide +kernel
  obtain ⟨-, hbreaches, hsame, -⟩ := review_collects faultyConfig none
  obtain ⟨-, -, -, hok⟩ := review_collects cautiousConfig none
  obtain ⟨-, ⟨plan, hplan, -⟩, hparse, -⟩ := hok _ hcautious
  have hbroken : (Condition.all.filter fun condition => faultyConfig.Broken condition)
      = [.webAddress, .someTime, .someInFlight] := by decide +kernel
  have hforall := hbroken ▸ hbreaches _ hfaulty
  refine ⟨hfaulty, (hsame (some {}) _).2 hfaulty, ?_, hcautious, ⟨plan, hplan⟩, ?_⟩
  · cases hforall with
    | cons hfirst _ => exact hfirst.1
  · exact fun h => hparse.1 h (by decide)

end Config

end NodeAudit
