import NodeAudit.Suite.Run

/-!
# Which responses are accepted

`Accepts` says which responses an expectation accepts: the error with the code, or a result of the
type that is asked for and no error (`check_eq_ok_iff`). Which type that is follows from the
expectation, or from the name of the method (`Expectation.kind?`). A check that fails does so with
the error of the node where a result is asked for (`check_eq_rpc`), and with an assertion otherwise
(`exists_assertion`).

A strict run asks for exactly one of a result and an error besides (`verify_eq_ok_iff`). Among the
responses that are accepted, this tells on those only that carry both where an error is expected
(`Accepts.carriesOne_iff`).

Main statement: `acceptance_of_responses`.
-/

namespace NodeAudit

/-- The response carries a result or an error, but not both. -/
def Rpc.Response.CarriesOne (r : Rpc.Response) : Prop :=
  (∃ v, r.result = some v) ∧ r.error = none ∨ r.result = none ∧ ∃ e, r.error = some e

theorem Rpc.Response.carriesOne_iff_ne {r : Rpc.Response} :
    r.CarriesOne ↔ r.result.isSome ≠ r.error.isSome := by
  unfold CarriesOne
  cases r.result <;> cases r.error <;> simp

theorem Rpc.Response.hasValidEnvelope_iff {r : Rpc.Response} :
    r.hasValidEnvelope = true ↔ r.CarriesOne :=
  bne_iff_ne.trans carriesOne_iff_ne.symm

namespace Suite

variable {x : Expectation} {kind : Rpc.ResultKind} {method : String} {r : Rpc.Response}

/-! ## The type of a result -/

/-- The methods whose results are strings. -/
def legacyNames : List String :=
  ["hmy_getBalance", "hmy_getBalanceByBlockNumber", "hmy_getTransactionCount", "hmy_blockNumber",
    "hmy_gasPrice", "hmy_getEpoch"]

/-- The methods whose results are numbers. -/
def v2Names : List String :=
  ["hmyv2_getBalance", "hmyv2_getBalanceByBlockNumber", "hmyv2_getTransactionCount",
    "hmyv2_blockNumber", "hmyv2_gasPrice", "hmyv2_getEpoch"]

/-- The type of the result that is asked for in a call of the method, if a result is. -/
def Expectation.kind? (method : String) : Expectation → Option Rpc.ResultKind
  | .errorCode _ => none
  | .result kind => some kind
  | .resultForMethod =>
    if method ∈ legacyNames then some .string
    else if method ∈ v2Names then some .number
    else none

theorem kind?_name (m : Rpc.Method) :
    Expectation.kind? m.name .resultForMethod = some m.resultKind := by
  obtain ⟨operation, family⟩ := m
  cases operation <;> cases family <;> decide

theorem isSome_ofName? : ∀ name ∈ legacyNames ++ v2Names,
    (Rpc.Method.ofName? name).isSome = true := by
  decide

theorem name_of_ofName? {m : Rpc.Method} (h : Rpc.Method.ofName? method = some m) :
    m.name = method :=
  beq_iff_eq.1 (List.find?_some (p := fun m : Rpc.Method => m.name == method) h)

theorem kind?_resultForMethod (method : String) :
    Expectation.kind? method .resultForMethod
      = (Rpc.Method.ofName? method).map (·.resultKind) := by
  cases hm : Rpc.Method.ofName? method with
  | some m =>
    rw [← name_of_ofName? hm, kind?_name]
    rfl
  | none =>
    have hnone : method ∉ legacyNames ++ v2Names := by
      intro hmem
      have hsome := isSome_ofName? method hmem
      rw [hm] at hsome
      cases hsome
    rw [List.mem_append, not_or] at hnone
    simp [Expectation.kind?, hnone]

/-! ## Checks -/

/-- The responses to a call of the method that an expectation accepts. -/
inductive Accepts (method : String) (r : Rpc.Response) : Expectation → Prop where
  | error {e : Rpc.ErrorObject} (herror : r.error = some e) : Accepts method r (.errorCode e.code)
  | string {x : Expectation} {s : String} (hkind : x.kind? method = some .string)
      (herror : r.error = none) (hresult : r.result = some (.string s)) : Accepts method r x
  | number {x : Expectation} {n : Number} (hkind : x.kind? method = some .number)
      (herror : r.error = none) (hresult : r.result = some (.number n)) : Accepts method r x

theorem check_of_kind? (h : x.kind? method = some kind) :
    x.check method r = Expectation.checkResult kind r := by
  cases x with
  | errorCode code => cases h
  | result kind' =>
    obtain rfl := Option.some.inj h
    rfl
  | resultForMethod =>
    rw [kind?_resultForMethod] at h
    obtain ⟨m, hm, rfl⟩ := Option.map_eq_some_iff.1 h
    simp only [Expectation.check, hm]

theorem accepts_result_iff (h : x.kind? method = some kind) :
    Accepts method r x ↔ r.error = none ∧ ∃ v, r.result = some v ∧ kind.accepts v = true := by
  constructor
  · intro ha
    cases ha with
    | error => cases h
    | string hkind herror hresult =>
      obtain rfl := Option.some.inj (hkind.symm.trans h)
      exact ⟨herror, _, hresult, rfl⟩
    | number hkind herror hresult =>
      obtain rfl := Option.some.inj (hkind.symm.trans h)
      exact ⟨herror, _, hresult, rfl⟩
  · rintro ⟨herror, v, hresult, hv⟩
    cases kind <;> cases v <;> simp [Rpc.ResultKind.accepts] at hv
    · exact .string h herror hresult
    · exact .number h herror hresult

theorem checkErrorCode_eq_ok_iff {code : Int64} :
    Expectation.checkErrorCode code r = .ok () ↔ ∃ e, r.error = some e ∧ e.code = code := by
  unfold Expectation.checkErrorCode
  cases r.error with
  | none => simp
  | some e => by_cases he : e.code = code <;> simp [he]

theorem checkResult_eq_ok_iff :
    Expectation.checkResult kind r = .ok () ↔
      r.error = none ∧ ∃ v, r.result = some v ∧ kind.accepts v = true := by
  unfold Expectation.checkResult
  cases r.error with
  | some e => simp
  | none =>
    cases r.result with
    | none => simp
    | some v => cases hv : kind.accepts v <;> simp [hv]

theorem check_eq_ok_iff : x.check method r = .ok () ↔ Accepts method r x := by
  cases hkind : x.kind? method with
  | some kind => rw [check_of_kind? hkind, checkResult_eq_ok_iff, accepts_result_iff hkind]
  | none =>
    cases x with
    | errorCode code =>
      rw [Expectation.check, checkErrorCode_eq_ok_iff]
      constructor
      · rintro ⟨e, herror, rfl⟩
        exact .error herror
      · intro ha
        cases ha with
        | error herror => exact ⟨_, herror, rfl⟩
        | string hstring => cases hstring
        | number hnumber => cases hnumber
    | result kind => cases hkind
    | resultForMethod =>
      have hname := kind?_resultForMethod method
      rw [hkind] at hname
      have hnone := Option.map_eq_none_iff.1 hname.symm
      refine iff_of_false (by simp [Expectation.check, hnone]) fun ha => ?_
      cases ha with
      | string hstring => cases hkind.symm.trans hstring
      | number hnumber => cases hkind.symm.trans hnumber

/-- Where a result is asked for, an error of the node is the failure. -/
theorem check_eq_rpc {e : Rpc.ErrorObject} (hkind : x.kind? method = some kind)
    (herror : r.error = some e) : x.check method r = .error (.rpc e.code e.message) := by
  rw [check_of_kind? hkind, Expectation.checkResult, herror]

theorem exists_assertion_of_checkErrorCode {code : Int64} {f : Failure}
    (h : Expectation.checkErrorCode code r = .error f) : ∃ message, f = .assertion message := by
  unfold Expectation.checkErrorCode at h
  cases herror : r.error with
  | none =>
    rw [herror] at h
    exact ⟨_, (Except.error.inj h).symm⟩
  | some e =>
    simp only [herror] at h
    split at h
    · cases h
    · exact ⟨_, (Except.error.inj h).symm⟩

theorem exists_assertion_of_checkResult {f : Failure} (herror : r.error = none)
    (h : Expectation.checkResult kind r = .error f) : ∃ message, f = .assertion message := by
  unfold Expectation.checkResult at h
  cases hresult : r.result with
  | none =>
    rw [herror, hresult] at h
    exact ⟨_, (Except.error.inj h).symm⟩
  | some v =>
    simp only [herror, hresult] at h
    split at h
    · cases h
    · exact ⟨_, (Except.error.inj h).symm⟩

/-- Every other failure of a check is an assertion. -/
theorem exists_assertion {f : Failure} (h : x.check method r = .error f)
    (hother : x.kind? method = none ∨ r.error = none) : ∃ message, f = .assertion message := by
  cases hkind : x.kind? method with
  | some kind =>
    have herror := hother.resolve_left (by rw [hkind]; exact Option.some_ne_none kind)
    exact exists_assertion_of_checkResult herror (check_of_kind? hkind ▸ h)
  | none =>
    cases x with
    | errorCode code => exact exists_assertion_of_checkErrorCode h
    | result kind => cases hkind
    | resultForMethod =>
      rw [kind?_resultForMethod, Option.map_eq_none_iff] at hkind
      simp only [Expectation.check, hkind] at h
      exact ⟨_, (Except.error.inj h).symm⟩

/-! ## Strict runs -/

/-- A strict run asks for exactly one of a result and an error besides. -/
theorem verify_eq_ok_iff {options : Options} {s : Prepared} :
    options.verify s r = .ok () ↔
      (options.strictEnvelope = true → r.CarriesOne) ∧
        s.expectation.check s.request.method r = .ok () := by
  rw [← Rpc.Response.hasValidEnvelope_iff, Options.verify]
  cases options.strictEnvelope <;> cases r.hasValidEnvelope <;> simp

/-- What is accepted carries one of the two, unless an error is expected and a result is there
too. -/
theorem Accepts.carriesOne_iff (h : Accepts method r x) :
    r.CarriesOne ↔ ¬ ((∃ code, x = .errorCode code) ∧ ∃ v, r.result = some v) := by
  unfold Rpc.Response.CarriesOne
  cases h with
  | error herror => simp [herror, Option.eq_none_iff_forall_ne_some]
  | string hkind herror hresult =>
    refine iff_of_true (.inl ⟨⟨_, hresult⟩, herror⟩) ?_
    rintro ⟨⟨code, rfl⟩, -⟩
    cases hkind
  | number hkind herror hresult =>
    refine iff_of_true (.inl ⟨⟨_, hresult⟩, herror⟩) ?_
    rintro ⟨⟨code, rfl⟩, -⟩
    cases hkind

/-- A strict run judges a response that carries one of the two as any run does. -/
theorem verify_of_carriesOne {options : Options} {s : Prepared} (h : r.CarriesOne) :
    options.verify s r = s.expectation.check s.request.method r := by
  rw [Options.verify, Rpc.Response.hasValidEnvelope_iff.2 h, Bool.not_true, Bool.and_false]
  rfl

/-- A strict run refuses every other response, whatever is expected. -/
theorem verify_strict_of_not_carriesOne {s : Prepared} (h : ¬ r.CarriesOne) :
    Options.verify { strictEnvelope := true } s r
      = .error (.assertion "response must carry exactly one of result or error") := by
  rw [Options.verify, Bool.eq_false_iff.2 (mt Rpc.Response.hasValidEnvelope_iff.1 h)]
  rfl

/-- **What is accepted, leniently and strictly.** A run passes a response exactly if the expectation
accepts it, and a strict run exactly if besides no result is there where an error is expected. The
two come to the same on a response that carries one of a result and an error; on every other one the
strict run fails for that. Where a result is asked for and the node gives an error, a check fails
with that error; every other failure is an assertion. -/
theorem acceptance_of_responses (s : Prepared) (r : Rpc.Response) :
    let method := s.request.method
    let lenient := Options.verify { strictEnvelope := false } s r
    let strict := Options.verify { strictEnvelope := true } s r
    (lenient = .ok () ↔ Accepts method r s.expectation) ∧
    (strict = .ok () ↔ lenient = .ok () ∧
      ¬ ((∃ code, s.expectation = .errorCode code) ∧ ∃ v, r.result = some v)) ∧
    (r.CarriesOne → strict = lenient) ∧
    (¬ r.CarriesOne →
      strict = .error (.assertion "response must carry exactly one of result or error")) ∧
    (∀ kind e, s.expectation.kind? method = some kind → r.error = some e →
      s.expectation.check method r = .error (.rpc e.code e.message)) ∧
    (∀ f, s.expectation.check method r = .error f →
      s.expectation.kind? method = none ∨ r.error = none → ∃ message, f = .assertion message) := by
  intro method lenient strict
  have hlenient : lenient = .ok () ↔ Accepts method r s.expectation := check_eq_ok_iff
  refine ⟨hlenient, ?_, fun h => ?_, verify_strict_of_not_carriesOne, fun _ _ => check_eq_rpc,
    fun _ => exists_assertion⟩
  · calc strict = .ok ()
        ↔ r.CarriesOne ∧ Accepts method r s.expectation := by
          rw [verify_eq_ok_iff, check_eq_ok_iff]
          exact and_congr_left' (forall_prop_of_true rfl)
      _ ↔ lenient = .ok () ∧
            ¬ ((∃ code, s.expectation = .errorCode code) ∧ ∃ v, r.result = some v) := by
          rw [hlenient, and_comm]
          exact and_congr_right Accepts.carriesOne_iff
  · exact (verify_of_carriesOne h).trans (verify_of_carriesOne h).symm

/-- A call without the parameters that it needs, which the node refuses, and gives a result as
well. -/
theorem acceptance_of_responses_both :
    let s : Prepared :=
      { name := "no params", request := Rpc.Request.make "hmy_getBalance" [] 1,
        expectation := .errorCode invalidParams }
    let r : Rpc.Response :=
      { result := some (.string "0x0"),
        error := some { code := invalidParams, message := "invalid params" } }
    Options.verify { strictEnvelope := false } s r = .ok () ∧
      Options.verify { strictEnvelope := true } s r
        = .error (.assertion "response must carry exactly one of result or error") := by
  intro s r
  have ⟨hlenient, _, _, hstrict, _⟩ := acceptance_of_responses s r
  have haccepts : Accepts "hmy_getBalance" r (.errorCode invalidParams) :=
    .error (e := { code := invalidParams, message := "invalid params" }) rfl
  refine ⟨hlenient.2 haccepts, hstrict ?_⟩
  rintro (⟨-, herror⟩ | ⟨hresult, -⟩)
  · cases herror
  · cases hresult

end Suite

end NodeAudit
