import NodeAudit.Http.SampleNode
import NodeAudit.Proofs.Http.Server
import NodeAudit.Proofs.Suite.Catalogue

/-!
# What the sample node answers

The parameters of a call are read as many as were sent, though a double may come as another one
(`length_positional`). Since the methods only count them (`get?_methods`), each refuses the calls
with fewer parameters than it takes and has a result of the type of its family for all others
(`answers_response`).

Main statement: `answers_send`, for a node behind any lawful server.
-/

namespace NodeAudit.Http.SampleNode

open Document

/-- The parameters can be held and do not nest too deep. -/
def IsReadable (params : List Json) : Prop := ∀ v ∈ params, v.IsValue ∧ v.depth ≤ 100

theorem length_positional {params : List Json} (h : IsReadable params) :
    (positional (some (Json.array params).compact)).length = params.length := by
  have hfinite : ∀ n ∈ (Json.array params).numbers, n.IsFinite :=
    Json.forall_mem_itemsNumbers.2 fun v hv => (h v hv).1.isFinite
  have hcanonical : ∀ v ∈ Json.mapItems Number.reread params, v.isCanonical = true := by
    rw [← Json.allCanonical_iff, Json.allCanonical_mapItems, Json.allCanonical_iff]
    exact fun v hv => (h v hv).1.isCanonical
  have hdepth : ∀ v ∈ Json.mapItems Number.reread params, v.depth ≤ 100 := by
    rw [← Json.itemsDepth_le_iff, Json.itemsDepth_mapItems, Json.itemsDepth_le_iff]
    exact fun v hv => (h v hv).2
  have hmax : 1 + 100 ≤ maxOpen := by decide
  have hitems : list (any 1) (ofJson (.array ((Json.mapItems Number.reread params).map fun v => v)))
      = .ok (Json.mapItems Number.reread params) := by
    refine list_ofItems fun v hv => ?_
    have hv' := hdepth v hv
    exact any_ofJson (v := v) (hcanonical v hv) (by omega)
  rw [List.map_id'] at hitems
  have hread := JsonText.read_compact_reread hfinite
  rw [positional, Option.getD_some, JsonText.decode_of_read hread, Json.mapNumbers, hitems]
  exact Json.length_mapItems params

/-! ## The methods -/

/-- The quantity that an operation asks for. -/
def quantity : Rpc.Operation → Nat
  | .balance | .balanceByBlock => balance
  | .transactionCount => nonce
  | .blockNumber => blockNumber
  | .gasPrice => gasPrice
  | .epoch => epoch

/-- The quantity in the encoding of the family. -/
def result (m : Rpc.Method) : Json :=
  match m.family with
  | .legacy => hex (quantity m.operation)
  | .v2 => .ofNat (quantity m.operation)

theorem answering_zero (v : Json) : answering 0 v = fun _ => .ok v := by
  funext params?
  simp [answering]

/-- Each method takes as many parameters as it is said to, and has its quantity for a result. -/
theorem get?_methods (m : Rpc.Method) :
    Entries.get? m.name methods = some (answering m.arity (result m)) := by
  -- the balance is told twice, as a text and as a number
  have hbalance : Json.string legacyBalance = hex balance :=
    congrArg Json.string (by decide +kernel)
  obtain ⟨operation, family⟩ := m
  rw [Rpc.Method.arity_eq]
  cases operation <;> cases family
  all_goals simp only [result, quantity, answering_zero, ← hbalance]
  all_goals rfl

/-- The results are plain texts and numbers of the type of the family. -/
theorem result_spec (m : Rpc.Method) :
    m.resultKind.accepts (result m) = true ∧ (result m).hasWholeNumbers = true ∧
      (result m).IsRead 1 := by
  obtain ⟨operation, family⟩ := m
  cases operation <;> cases family
  all_goals exact ⟨rfl, by decide, by simp [result, hex, Json.ofNat], by decide, by decide⟩

theorem short_result (m : Rpc.Method) : (result m).compact.utf8ByteSize ≤ 128 := by
  obtain ⟨operation, family⟩ := m
  cases operation <;> cases family
  all_goals decide +kernel

theorem nodup_methods : (methods.map (·.1)).Nodup := by decide

/-! ## Calls -/

/-- The response refuses a call with so many parameters if the method takes more, and has a result
of the type of the method otherwise. -/
def Answers (m : Rpc.Method) (count : Nat) (r : Rpc.Response) : Prop :=
  if count < m.arity then r.result = none ∧ ∃ e, r.error = some e ∧ e.code = -32602
  else r.error = none ∧ ∃ v, r.result = some v ∧ m.resultKind.accepts v = true

theorem answers_response {m : Rpc.Method} (id : UInt64) {params : List Json}
    (h : IsReadable params) :
    Answers m params.length
      (response id (answering m.arity (result m) (some (Json.array params).compact))) := by
  rw [Answers, answering, length_positional h]
  split
  · exact ⟨rfl, _, rfl, rfl⟩
  · exact ⟨rfl, _, rfl, (result_spec m).1⟩

section
variable {σ : Type} {server : Server σ} {limit : Nat} {patience timeout : Span}
  {address : String} {url : Url} {m : Rpc.Method} {r : Rpc.Request}

/-- The sample node answers a request in a body that its server takes. -/
theorem answers_send (hserver : server.Lawful url limit patience)
    (hurl : destination address = .ok url) (htimeout : patience.toNanos ≤ timeout.toNanos)
    (hmethod : r.method = m.name) (hversion : r.version = Rpc.protocolVersion)
    (hparams : IsReadable r.params) (hsize : r.toJson.compact.utf8ByteSize ≤ limit) (world : σ) :
    ∃ reply, ((transport (server methods) address timeout).send world r).1.answer = .ok reply ∧
      reply.time.toNanos ≤ patience.toNanos ∧ Answers m r.params.length reply.response := by
  have houtcome : ∀ v, answering m.arity (result m) (some (Json.array r.params).compact) = .ok v →
      (v.hasWholeNumbers = true ∧ v.IsRead 1) ∧ v.compact.utf8ByteSize ≤ 128 := by
    intro v hv
    rw [answering] at hv
    split at hv
    · cases hv
    · obtain rfl := Except.ok.inj hv
      exact ⟨(result_spec m).2, short_result m⟩
  obtain ⟨time, htime, hanswer⟩ := answer_send hserver hurl htimeout nodup_methods
    (hmethod ▸ get?_methods m) hversion (fun v hv => (hparams v hv).1) hsize houtcome world
  exact ⟨_, hanswer, htime, answers_response r.id hparams⟩

end

end NodeAudit.Http.SampleNode
