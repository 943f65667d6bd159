import NodeAudit.Proofs.Json.Spelling
import NodeAudit.Suite.Scenario

/-!
# The calls of the catalogue

The catalogue holds nineteen calls, with texts and numbers for parameters (`isPlain_fullSuite`).
Each expects what its method makes of as many parameters as it has (`arity_fullSuite`), and the
parameters of a benchmark are as many as its method takes (`arity_defaultParams`).
-/

namespace NodeAudit

/-- The value is a text or a number. -/
def Json.IsPlain (v : Json) : Prop :=
  v.isCanonical = true ∧ v.hasWholeNumbers = true ∧ v.depth = 0

/-- How many parameters the node takes for a method: one for the balance in the second version, two
for the other methods of an account, none for the methods of the chain. -/
def Rpc.Method.arity (m : Method) : Nat :=
  if m.name = "hmyv2_getBalance" then 1 else if m.isAccount then 2 else 0

theorem Rpc.Method.arity_eq (m : Method) :
    m.arity = match m.operation, m.family with
      | .balance, .v2 => 1
      | .balance, .legacy | .balanceByBlock, _ | .transactionCount, _ => 2
      | .blockNumber, _ | .gasPrice, _ | .epoch, _ => 0 := by
  obtain ⟨operation, family⟩ := m
  cases operation <;> cases family <;> decide

namespace Suite

variable {address : String} {s : Scenario}

theorem length_fullSuite (address : String) : (fullSuite address).length = 19 := rfl

theorem isPlain_fullSuite (h : s ∈ fullSuite address) : ∀ v ∈ s.params, v.IsPlain := by
  rcases List.mem_append.1 h with h | h
  · simp only [accountSuite, answered, refused, List.mem_cons, List.not_mem_nil, or_false] at h
    rcases h with rfl | rfl | rfl | rfl | rfl | rfl | rfl | rfl | rfl | rfl | rfl | rfl | rfl
    all_goals
      simp [Json.IsPlain, Json.ofNat, Json.isCanonical, Json.hasWholeNumbers, Json.depth]
  · obtain ⟨m, -, rfl⟩ := List.mem_map.1 h
    exact List.forall_mem_nil _

/-- A call of the catalogue expects an error exactly if its parameters are too few. -/
theorem arity_fullSuite (h : s ∈ fullSuite address) :
    ∃ m : Rpc.Method, s.method = m.name ∧
      (s.expectation = .errorCode invalidParams ∧ s.params.length < m.arity ∨
        s.expectation = .resultForMethod ∧ m.arity ≤ s.params.length) := by
  rcases List.mem_append.1 h with h | h
  · simp only [accountSuite, answered, refused, List.mem_cons, List.not_mem_nil, or_false] at h
    rcases h with rfl | rfl | rfl | rfl | rfl | rfl | rfl | rfl | rfl | rfl | rfl | rfl | rfl
    all_goals exact ⟨_, rfl, by simp [Rpc.Method.arity_eq]⟩
  · obtain ⟨m, hm, rfl⟩ := List.mem_map.1 h
    have hnone : ∀ m ∈ Rpc.Method.protocol, m.arity = 0 := by decide
    exact ⟨m, rfl, .inr ⟨rfl, Nat.le_of_eq (hnone m hm)⟩⟩

end Suite

namespace Rpc.Method

variable (m : Method) (address : String)

theorem isPlain_defaultParams : ∀ v ∈ m.defaultParams address, v.IsPlain := by
  obtain ⟨operation, family⟩ := m
  cases operation <;> cases family <;>
    simp [defaultParams, Json.IsPlain, Json.ofNat, Json.isCanonical, Json.hasWholeNumbers,
      Json.depth]

theorem arity_defaultParams : m.arity ≤ (m.defaultParams address).length := by
  rw [arity_eq]
  obtain ⟨operation, family⟩ := m
  cases operation <;> cases family <;> exact Nat.le_refl _

end Rpc.Method

end NodeAudit
