import NodeAudit.Http.Server
import NodeAudit.Proofs.Http.Exchange
import NodeAudit.Proofs.Json.Members
import NodeAudit.Proofs.Json.NumberText
import NodeAudit.Proofs.Rpc.Codec

/-!
# What is relied on of a server

A server is `Lawful` if it answers single calls of its methods in bodies within its limit: the
handler gets the parameters as the text that stands in the body, and what it makes of them comes
back in the envelope of the protocol (`IsEnvelope`). Nothing is said of any other body, nor of the
order of the members in an answer. Then what comes of a request is the outcome of the handler
(`answer_send`).

`Server.plain` is such a server (`lawful_plain`).
-/

namespace NodeAudit

open Document JsonText

namespace Json

/-- The value can be held: the keys of objects are in order, and numbers are integers of at most 64
bits and finite doubles. -/
structure IsValue (v : Json) : Prop where
  isCanonical : v.isCanonical = true
  isFinite : ∀ n ∈ v.numbers, n.IsFinite

theorem IsValue.of_whole {v : Json} (hc : v.isCanonical = true) (hw : v.hasWholeNumbers = true) :
    v.IsValue := by
  refine ⟨hc, fun n hn => ?_⟩
  obtain ⟨i, rfl, hlow, hhigh⟩ := exists_integer_of_mem_numbers v hw hn
  exact ⟨hlow, hhigh⟩

end Json

/-! ## Responses in any order -/

namespace Rpc

variable {origin : Origin} {opened : Nat} {d : Document}

namespace ErrorObject

theorem decode_of_isObjectOf {code : Int64} {message : String}
    (h : IsObjectOf [("code", some (.number (some (.integer code.toInt)))),
      ("message", some (.string (some message))), ("data", none)] d) :
    decode origin opened d = .ok { code, message } := by
  have hcode : Option.Rel (int64 · = .ok ·) (some (.number (some (.integer code.toInt))))
      (some code) := .some (int64_ofInt code)
  let s : Fields := { code := some code, message := some message }
  rw [decode, h.record_eq (s := s) lawful_fields
    (.cons ⟨rfl, hcode⟩ <| .cons ⟨rfl, rel_text (some message)⟩ <| .cons ⟨rfl, .none⟩ .nil)
    (by simp [fields])]
  rfl

end ErrorObject

namespace Response

theorem decode_of_isObjectOf {version? id? result? error? : Option Document}
    {s : Fields}
    (h : IsObjectOf [("jsonrpc", version?), ("id", id?), ("result", result?), ("error", error?)] d)
    (hversion : Option.Rel (optional text · = .ok ·) version? s.version)
    (hid : Option.Rel (optional (any (opened + 1)) · = .ok ·) id? s.id)
    (hresult : Option.Rel (optional (any (opened + 1)) · = .ok ·) result? s.result)
    (herror : Option.Rel (optional (ErrorObject.decode origin (opened + 1)) · = .ok ·) error?
      s.error) :
    decode origin opened d
      = .ok { version := s.version.join, id := s.id.join, result := s.result.join,
              error := s.error.join } := by
  rw [decode, h.record_eq (s := s) lawful_fields
    (.cons ⟨rfl, hversion⟩ <| .cons ⟨rfl, hid⟩ <| .cons ⟨rfl, hresult⟩ <| .cons ⟨rfl, herror⟩ .nil)
    (by simp [fields])]
  rfl

end Response

end Rpc

namespace Http

/-! ## Lawful servers -/

/-- The document is the envelope of what comes of the call with the identifier: the version, the
identifier, and either the result as its text is read or the error, in any order. -/
def IsEnvelope (id : UInt64) (outcome : Except CallError Json) (d : Document) : Prop :=
  let envelope (result? error? : Option Document) := IsObjectOf
    [("jsonrpc", some (.string (some "2.0"))), ("id", some (.number (some (.integer id.toNat)))),
      ("result", result?), ("error", error?)] d
  match outcome with
  | .ok v => envelope (some (JsonText.read v.compact).root) none
  | .error e => ∃ error, envelope none (some error) ∧
      IsObjectOf [("code", some (.number (some (.integer e.toErrorObject.code.toInt)))),
        ("message", some (.string (some e.toErrorObject.message))), ("data", none)] error

/-- A single call of one of the methods of different names, posted to the URL in a body within the
limit and with the time that the server needs, is answered with what the handler of its method makes
of the text of the parameters. Results are short, so that no limit on answers counts. -/
structure Server.Lawful {σ : Type} (server : Server σ) (url : Url) (limit : Nat)
    (patience : Span) : Prop where
  answers : ∀ {methods : Methods} {method : String} {handler : Handler} {params : List Json}
    {id : UInt64} {p : Post} (world : σ),
    (methods.map (·.1)).Nodup → Entries.get? method methods = some handler →
    (∀ v ∈ params, v.IsValue) → p.url = url →
    p.body = (Json.object [("jsonrpc", .string "2.0"), ("method", .string method),
      ("params", .array params), ("id", .ofNat id.toNat)]).compact →
    p.body.utf8ByteSize ≤ limit → patience.toNanos ≤ p.timeout.toNanos →
    let outcome := handler (some (Json.array params).compact)
    (∀ v, outcome = .ok v → v.IsValue ∧ v.compact.utf8ByteSize ≤ 128) →
    let x := (server methods p world).1
    x.time.toNanos ≤ patience.toNanos ∧
      ∃ cs d, x.result = .answered 200 (cs.flatMap String.utf8EncodeChar) ∧
        JsonText.read (String.ofList cs) = ⟨d, false⟩ ∧ IsEnvelope id outcome d

/-- The response that carries what comes of a call. -/
def response (id : UInt64) (outcome : Except CallError Json) : Rpc.Response where
  version := some "2.0"
  id := some (.ofNat id.toNat)
  result := outcome.toOption
  error := match outcome with
    | .ok _ => none
    | .error e => some e.toErrorObject

theorem data_toErrorObject (e : CallError) : e.toErrorObject.data = none := by
  cases e
  rfl

theorem decode_of_isEnvelope {id : UInt64} {outcome : Except CallError Json} {d : Document}
    (hv : ∀ v, outcome = .ok v → v.hasWholeNumbers = true ∧ v.IsRead 1)
    (h : IsEnvelope id outcome d) :
    Rpc.Response.decode .text 0 d = .ok (response id outcome) := by
  have hversion := rel_optional_text (some (some "2.0"))
  have hid : Option.Rel (optional (any 1) · = .ok ·) (some (.number (some (.integer id.toNat))))
      (some (some (.ofNat id.toNat))) := .some rfl
  cases outcome with
  | ok v =>
    obtain ⟨hwhole, hread⟩ := hv v rfl
    have hresult : Option.Rel (optional (any 1) · = .ok ·) (some (JsonText.read v.compact).root)
        (some (some v)) := by
      refine .some ?_
      rw [JsonText.read_compact hwhole, optional_any_ofJson hread.isCanonical hread.depth,
        Json.nonNull?_eq_self hread.ne_null]
    exact Rpc.Response.decode_of_isObjectOf (s := ⟨some (some "2.0"), some (some (.ofNat id.toNat)),
      some (some v), none⟩) h hversion hid hresult .none
  | error e =>
    obtain ⟨error, henvelope, herror⟩ := h
    have hdecode : Option.Rel (optional (Rpc.ErrorObject.decode .text 1) · = .ok ·) (some error)
        (some (some e.toErrorObject)) := by
      have hmembers := herror
      obtain ⟨_, _, rfl, -⟩ := hmembers
      have hobject : Rpc.ErrorObject.decode .text 1 _ = _ :=
        Rpc.ErrorObject.decode_of_isObjectOf herror
      rw [← data_toErrorObject e] at hobject
      exact .some (congrArg (Except.map some) hobject)
    exact Rpc.Response.decode_of_isObjectOf (s := ⟨some (some "2.0"), some (some (.ofNat id.toNat)),
      none, some (some e.toErrorObject)⟩) henvelope hversion hid .none hdecode

section
variable {σ : Type} {server : Server σ} {limit : Nat} {patience timeout : Span}
  {methods : Methods} {handler : Handler} {address : String} {url : Url} {r : Rpc.Request}

/-- What comes of a request is what the handler of its method makes of its parameters. -/
theorem answer_send (hserver : server.Lawful url limit patience)
    (hurl : destination address = .ok url) (htimeout : patience.toNanos ≤ timeout.toNanos)
    (hnames : (methods.map (·.1)).Nodup) (hmethod : Entries.get? r.method methods = some handler)
    (hversion : r.version = Rpc.protocolVersion) (hparams : ∀ v ∈ r.params, v.IsValue)
    (hsize : r.toJson.compact.utf8ByteSize ≤ limit)
    (houtcome : ∀ v, handler (some (Json.array r.params).compact) = .ok v →
      (v.hasWholeNumbers = true ∧ v.IsRead 1) ∧ v.compact.utf8ByteSize ≤ 128) (world : σ) :
    ∃ time : Span, time.toNanos ≤ patience.toNanos ∧
      ((transport (server methods) address timeout).send world r).1.answer
        = .ok { response := response r.id (handler (some (Json.array r.params).compact)),
                time } := by
  have hsend : ((transport (server methods) address timeout).send world r).1
      = (server methods (.ofRequest url timeout r) world).1.sent url r.method := by
    simp only [transport, hurl]
  have hbody : (Post.ofRequest url timeout r).body = (Json.object [("jsonrpc", .string "2.0"),
      ("method", .string r.method), ("params", .array r.params),
      ("id", .ofNat r.id.toNat)]).compact := by
    rw [Post.ofRequest, Rpc.Request.toJson, hversion]
    rfl
  have hvalue : ∀ v, handler (some (Json.array r.params).compact) = .ok v →
      v.IsValue ∧ v.compact.utf8ByteSize ≤ 128 := by
    intro v hv
    obtain ⟨⟨hwhole, hread⟩, hshort⟩ := houtcome v hv
    exact ⟨.of_whole hread.isCanonical hwhole, hshort⟩
  obtain ⟨htime, cs, d, hresult, hread, henvelope⟩ :=
    hserver.answers (p := .ofRequest url timeout r) world hnames hmethod hparams rfl hbody hsize
      htimeout hvalue
  refine ⟨_, htime, ?_⟩
  rw [hsend, Exchange.answer_sent_eq_ok_iff hresult]
  refine ⟨(by decide : 200 ≤ 200 ∧ 200 < 300), ?_, rfl⟩
  rw [decodeBody_eq_ok_iff, bodyChars_utf8, JsonText.decode_of_read hread]
  exact decode_of_isEnvelope (fun v hv => (houtcome v hv).1) henvelope

end

/-! ## The plain server -/

theorem scanWord_append (word cs : List Char) : scanWord word (word ++ cs) = some cs :=
  scanWord_eq_some_iff.2 rfl

open Json in
theorem takeValue?_compactChars {v : Json} (h : ∀ n ∈ v.numbers, n.IsFinite) {rest : List Char}
    (hr : Ends rest) :
    takeValue? (v.compactChars ++ rest)
      = some (.ofJson (v.mapNumbers Number.reread), v.compact, rest) := by
  have hspells : Spells (v.mapNumbers Number.reread) v.compactChars :=
    spells_compact v fun n hn => Number.spells_reread (h n hn)
  have hscan := (scans (2 * (v.compactChars ++ rest).length + 2)).value hspells
    (by rw [List.length_append]; omega) hr
  rw [takeValue?, hscan]
  simp [compact]

theorem isFinite_id (id : UInt64) : (Number.integer id.toNat).IsFinite := by
  have hlt := id.toNat_lt
  exact ⟨by omega, by omega⟩

theorem ofBody?_eq {method : String} {params : List Json} {id : UInt64}
    (hparams : ∀ v ∈ params, v.IsValue) :
    Call.ofBody? (Json.object [("jsonrpc", .string "2.0"), ("method", .string method),
        ("params", .array params), ("id", .ofNat id.toNat)]).compact
      = some ⟨method, (Json.array params).compact, .integer id.toNat⟩ := by
  have hid := isFinite_id id
  have hidNumbers : ∀ n ∈ (Json.ofNat id.toNat).numbers, n.IsFinite :=
    List.forall_mem_singleton.2 hid
  have hnumbers : ∀ n ∈ (Json.array params).numbers, n.IsFinite :=
    Json.forall_mem_itemsNumbers.2 fun v hv => (hparams v hv).isFinite
  have hchars : (Json.object [("jsonrpc", .string "2.0"), ("method", .string method),
        ("params", .array params), ("id", .ofNat id.toNat)]).compact.toList
      = "\x7b\"jsonrpc\":\"2.0\",\"method\":".toList
        ++ ((Json.string method).compactChars ++ (",\"params\":".toList
          ++ ((Json.array params).compactChars ++ (",\"id\":".toList
            ++ ((Json.ofNat id.toNat).compactChars ++ ['\x7d']))))) := by
    simp [Json.compact, Json.compactChars, Json.compactMembers, Json.stringText, Json.escape,
      Json.escapeChar]
  have hmethod := fun cs => takeValue?_compactChars (v := .string method) (by simp [Json.numbers])
    (show Ends (",\"params\":".toList ++ cs) from ends_cons (by decide) _)
  have hparams := fun cs => takeValue?_compactChars hnumbers
    (show Ends (",\"id\":".toList ++ cs) from ends_cons (by decide) _)
  have hident : takeValue? ((Json.ofNat id.toNat).compactChars ++ ['\x7d'])
      = some (.number (some (.integer id.toNat)), (Json.ofNat id.toNat).compact, ['\x7d']) := by
    rw [takeValue?_compactChars hidNumbers (ends_cons (by decide) []), Json.ofNat,
      Json.mapNumbers, Number.reread_integer hid]
    rfl
  rw [Call.ofBody?, hchars]
  simp only [scanWord_append, hmethod, hparams, hident, Json.mapNumbers, ofJson,
    Option.bind_eq_bind, Option.bind_some]
  rfl

theorem isEnvelope_answer {methods : Methods} {method params : String} {id : UInt64}
    {handler : Handler} (hmethod : Entries.get? method methods = some handler)
    (hvalue : ∀ v, handler (some params) = .ok v → v.IsValue) :
    ∃ d, JsonText.read (Call.answer methods ⟨method, params, .integer id.toNat⟩).compact
      = ⟨d, false⟩ ∧ IsEnvelope id (handler (some params)) d := by
  have hid := isFinite_id id
  cases houtcome : handler (some params) with
  | ok v =>
    have hanswer : Call.answer methods ⟨method, params, .integer id.toNat⟩ = .object
        [("jsonrpc", .string "2.0"), ("result", v), ("id", .number (.integer id.toNat))] := by
      simp [Call.answer, Call.outcome, hmethod, houtcome, Except.mapError, Rpc.protocolVersion]
    have hfinite := (hvalue v houtcome).isFinite
    have hnumbers : ∀ n ∈ (Json.object [("jsonrpc", .string "2.0"), ("result", v),
        ("id", .number (.integer id.toNat))]).numbers, n.IsFinite := by
      simp only [Json.numbers, Json.membersNumbers, List.nil_append, List.append_nil,
        List.forall_mem_append, List.forall_mem_singleton]
      exact ⟨hfinite, hid⟩
    rw [hanswer]
    refine ⟨_, JsonText.read_compact_reread hnumbers, _, [], rfl, ?_, List.forall_mem_nil _⟩
    rw [JsonText.read_compact_reread hfinite]
    simp only [Json.mapMembers, Json.mapNumbers, Number.reread_integer hid, ofMembers, ofJson]
    exact .cons _ (.swap _ _ _)
  | error e =>
    have hanswer : Call.answer methods ⟨method, params, .integer id.toNat⟩ = .object
        [("jsonrpc", .string "2.0"), ("error", e.toErrorObject.toJson),
          ("id", .number (.integer id.toNat))] := by
      simp [Call.answer, Call.outcome, hmethod, houtcome, Except.mapError, Rpc.protocolVersion]
    have hwhole : (Json.object [("jsonrpc", .string "2.0"), ("error", e.toErrorObject.toJson),
        ("id", .number (.integer id.toNat))]).hasWholeNumbers = true := by
      have hnumber : (Json.number (.integer id.toNat)).hasWholeNumbers = true :=
        Json.hasWholeNumbers_ofNat id.toNat_lt_size
      have he : e.toErrorObject.toJson.hasWholeNumbers = true :=
        Rpc.ErrorObject.hasWholeNumbers_toJson (by simp [data_toErrorObject])
      rw [Json.hasWholeNumbers]
      simp only [Json.membersWholeNumbers, hnumber, he]
      rfl
    rw [hanswer]
    refine ⟨_, JsonText.read_compact hwhole, ofJson e.toErrorObject.toJson,
      ⟨_, [], rfl, ?_, List.forall_mem_nil _⟩, ?_⟩
    · exact .cons _ (.swap _ _ _)
    · rw [Rpc.ErrorObject.toJson, data_toErrorObject]
      exact isObjectOf_givenMembers _

theorem lawful_plain {σ : Type} (url : Url) (limit : Nat) :
    (Server.plain (σ := σ) limit).Lawful url limit (Span.ofMillis 1) where
  answers := by
    intro methods method handler params id p world _ hmethod hparams _ hbody hsize _ outcome hvalue
    obtain ⟨d, hread, henvelope⟩ := isEnvelope_answer hmethod fun v hv => (hvalue v hv).1
    refine ⟨Nat.le_refl _, _, d, ?_, hread, henvelope⟩
    dsimp only [Server.plain]
    rw [if_pos hsize, hbody, ofBody?_eq hparams]

end Http

end NodeAudit
