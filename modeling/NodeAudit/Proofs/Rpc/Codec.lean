import NodeAudit.Failure
import NodeAudit.Proofs.Json.Compact
import NodeAudit.Proofs.Json.ObjectText
import NodeAudit.Proofs.Json.Record
import NodeAudit.Rpc.Message

/-!
# Messages written and read back

Requests, responses and failures are read back from their compact texts. A response loses what is
`null` in it, since `null` and nothing are read alike (`Response.withoutNulls`); a response that was
read has lost it already (`Response.isRead_of_decode`), so that writing and reading it changes
nothing. For the same reason a member that is `null` may be put anywhere into the text of a response
(`Response.decode_insert_null`).

Main statement: `codec_loses_only_nulls`.
-/

namespace NodeAudit

open Document

variable {origin : Origin} {opened : Nat}

/-! ## Values in messages -/

namespace Json

/-- The value, unless it is `null`. -/
def nonNull? : Json → Option Json
  | .null => none
  | v => some v

theorem nonNull?_eq_self {v : Json} (h : v ≠ .null) : v.nonNull? = some v := by
  cases v with
  | null => exact absurd rfl h
  | _ => rfl

/-- What a value in a message is that was read inside the containers: no `null`, in order and not
too deep. -/
structure IsRead (opened : Nat) (v : Json) : Prop where
  ne_null : v ≠ .null
  isCanonical : v.isCanonical = true
  depth : opened + v.depth ≤ maxOpen

end Json

theorem Document.optional_any_ofJson {v : Json} (hc : v.isCanonical = true)
    (hd : opened + v.depth ≤ maxOpen) : optional (any opened) (ofJson v) = .ok v.nonNull? := by
  cases v with
  | null => rfl
  | _ =>
    have hany := any_ofJson hc hd
    rw [ofJson] at hany ⊢
    rw [optional, hany]
    · rfl
    · rintro ⟨⟩

@[simp] theorem Document.optional_text (s : String) :
    Document.optional text (.string (some s)) = .ok (some s) := rfl

theorem Document.eq_some_of_require {α : Type} {name : String} {v? : Option α} {v : α}
    (h : require name v? = .ok v) : v? = some v := by
  cases v? with
  | none => cases h
  | some w => exact congrArg some (Except.ok.inj h)

theorem Document.eq_null_of_value? {d : Document} (h : value? opened d = some .null) :
    d = .null := by
  cases d with
  | null => rfl
  | number n => simp [value?] at h
  | string t => simp [value?] at h
  | array items closed =>
    rw [value?] at h
    split at h
    · obtain ⟨vs, -, hvs⟩ := Option.bind_eq_some_iff.1 h
      split at hvs
      all_goals cases hvs
    · cases h
  | object members closed =>
    rw [value?] at h
    split at h
    · obtain ⟨ms, -, hms⟩ := Option.bind_eq_some_iff.1 h
      split at hms
      all_goals cases hms
    · cases h
  | bool b => cases h
  | malformed => cases h

/-- What may be absent and is there was not read from `null`. -/
theorem Document.decode_of_optional {α : Type} {decode : Document → Decoded α} {d : Document}
    {a : α} (h : Document.optional decode d = .ok (some a)) : d ≠ .null ∧ decode d = .ok a := by
  unfold Document.optional at h
  split at h
  · cases h
  · rename_i hnull
    obtain ⟨b, hdecode, hb⟩ := map_eq_ok_iff.1 h
    obtain rfl := Option.some.inj hb
    exact ⟨hnull, hdecode⟩

theorem Document.isRead_of_optional {d : Document} {v : Json} (hopened : opened ≤ maxOpen)
    (h : Document.optional (any opened) d = .ok (some v)) : v.IsRead opened := by
  obtain ⟨hnull, hany⟩ := decode_of_optional h
  obtain ⟨hc, hd⟩ := canonical_of_any hopened hany
  refine ⟨?_, hc, hd⟩
  rintro rfl
  rw [any] at hany
  split at hany
  · rename_i hvalue
    obtain rfl := Except.ok.inj hany
    exact hnull (eq_null_of_value? hvalue)
  · cases hany

namespace Rpc

/-! ## Requests -/

namespace Request

variable {r : Request}

theorem depth_toJson {v : Json} (h : v ∈ r.params) : 2 + v.depth ≤ r.toJson.depth := by
  have hdepth := Json.depth_le_itemsDepth h
  simp only [toJson, Json.depth, Json.membersDepth]
  omega

theorem decode_ofJson (h : ∀ v ∈ r.params, v.isCanonical = true)
    (hd : opened + r.toJson.depth ≤ maxOpen) : decode origin opened (ofJson r.toJson) = .ok r := by
  have hparams : list (any (opened + 2)) (ofJson (.array (r.params.map fun v => v)))
      = .ok r.params := by
    refine list_ofItems fun v hv => ?_
    have hdepth := depth_toJson hv
    exact any_ofJson (v := v) (h v hv) (by omega)
  rw [List.map_id', ofJson] at hparams
  have hid := uint64_ofNat "u64" r.id
  simp [decode, toJson, ofJson, ofMembers, record, readMembers, fields, text, require, hparams, hid]

theorem hasWholeNumbers_toJson (h : ∀ v ∈ r.params, v.hasWholeNumbers = true) :
    r.toJson.hasWholeNumbers = true := by
  have hid := Json.hasWholeNumbers_ofNat r.id.toNat_lt_size
  have hparams := Json.allWholeNumbers_iff.2 h
  simp [toJson, Json.hasWholeNumbers, Json.membersWholeNumbers, hid, hparams]

theorem lawful_fields : Lawful (fields opened) where
  nodup := by simp [fields]
  get_set := by simp [fields]
  apart := by simp [fields, Field.apart_iff]
  ext := by
    rintro ⟨⟩ ⟨⟩ h
    simpa [fields] using h

theorem isRead_of_decode {d : Document} (hopened : opened + 1 < maxOpen)
    (h : decode origin opened d = .ok r) :
    (∀ v ∈ r.params, v.isCanonical = true) ∧ opened + r.toJson.depth ≤ maxOpen := by
  obtain ⟨s, hs, hr⟩ := bind_eq_ok_iff.1 h
  obtain ⟨version, -, hr⟩ := bind_eq_ok_iff.1 hr
  obtain ⟨method, -, hr⟩ := bind_eq_ok_iff.1 hr
  obtain ⟨params, hrequire, hr⟩ := bind_eq_ok_iff.1 hr
  obtain ⟨id, -, hr⟩ := bind_eq_ok_iff.1 hr
  obtain rfl := Except.ok.inj hr
  obtain ⟨d', hd'⟩ := exists_of_record (i := 2) lawful_fields rfl rfl hs
    (eq_some_of_require hrequire)
  have hall : ∀ v ∈ params, v.isCanonical = true ∧ opened + 2 + v.depth ≤ maxOpen := by
    intro v hv
    obtain ⟨dv, hdv⟩ := exists_of_mem_list hd' hv
    exact canonical_of_any hopened hdv
  refine ⟨fun v hv => (hall v hv).1, ?_⟩
  have hdepth : Json.itemsDepth params ≤ maxOpen - (opened + 2) :=
    Json.itemsDepth_le_iff.2 fun v hv => by
      have hv := (hall v hv).2
      omega
  simp only [toJson, Json.ofNat, Json.depth, Json.membersDepth]
  omega

end Request

/-! ## Responses -/

namespace ErrorObject

theorem decode_ofJson {e : ErrorObject} (hdata : ∀ v ∈ e.data, v.isCanonical = true)
    (hd : opened + e.toJson.depth ≤ maxOpen) :
    decode origin opened (ofJson e.toJson) = .ok { e with data := e.data.bind Json.nonNull? } := by
  have hcode := int64_ofInt e.code
  obtain ⟨code, message, data⟩ := e
  cases data with
  | none =>
    simp [decode, toJson, ofJson, ofMembers, record, readMembers, fields, text, require, hcode]
  | some v =>
    have hv : optional (any (opened + 1)) (ofJson v) = .ok v.nonNull? := by
      refine optional_any_ofJson (hdata v rfl) ?_
      simp only [toJson, Option.map_some, Option.toList_some, List.cons_append, List.nil_append,
        Json.depth, Json.membersDepth] at hd
      omega
    simp [decode, toJson, ofJson, ofMembers, record, readMembers, fields, text, require, hcode, hv]

theorem depth_toJson_le {e : ErrorObject} {n : Nat} (h : ∀ v ∈ e.data, v.depth ≤ n) :
    e.toJson.depth ≤ n + 1 := by
  cases hdata : e.data with
  | none => simp [toJson, hdata, Json.ofInt, Json.depth, Json.membersDepth]
  | some v =>
    have hdepth := h v hdata
    simp [toJson, hdata, Json.ofInt, Json.depth, Json.membersDepth]
    omega

/-- An error is an object, so that it is there where it may be absent. -/
theorem optional_decode_ofJson {e : ErrorObject} (hdata : ∀ v ∈ e.data, v.isCanonical = true)
    (hd : opened + e.toJson.depth ≤ maxOpen) :
    Document.optional (decode origin opened) (ofJson e.toJson)
      = .ok (some { e with data := e.data.bind Json.nonNull? }) := by
  have hdecode : decode origin opened (ofJson e.toJson) = _ := decode_ofJson hdata hd
  rw [toJson, ofJson] at hdecode ⊢
  exact congrArg (Except.map some) hdecode

theorem hasWholeNumbers_toJson {e : ErrorObject} (h : ∀ v ∈ e.data, v.hasWholeNumbers = true) :
    e.toJson.hasWholeNumbers = true := by
  have hcode := Json.hasWholeNumbers_int64 e.code
  cases hdata : e.data with
  | none => simp [toJson, hdata, Json.hasWholeNumbers, Json.membersWholeNumbers, hcode]
  | some v =>
    simp [toJson, hdata, Json.hasWholeNumbers, Json.membersWholeNumbers, hcode, h v hdata]

theorem lawful_fields : Lawful (fields opened) where
  nodup := by simp [fields]
  get_set := by simp [fields]
  apart := by simp [fields, Field.apart_iff]
  ext := by
    rintro ⟨⟩ ⟨⟩ h
    simpa [fields] using h

theorem isRead_of_decode {d : Document} {e : ErrorObject} (hopened : opened < maxOpen)
    (h : decode origin opened d = .ok e) : ∀ v ∈ e.data, v.IsRead (opened + 1) := by
  obtain ⟨s, hs, he⟩ := bind_eq_ok_iff.1 h
  obtain ⟨code, -, he⟩ := bind_eq_ok_iff.1 he
  obtain ⟨message, -, he⟩ := bind_eq_ok_iff.1 he
  obtain rfl := Except.ok.inj he
  intro v hv
  obtain ⟨d', hd'⟩ := exists_of_record (i := 2) lawful_fields rfl rfl hs
    (Option.join_eq_some_iff.1 hv)
  exact isRead_of_optional hopened hd'

end ErrorObject

namespace Response

/-- The response without what is `null` in it. -/
def withoutNulls (r : Response) : Response where
  version := r.version
  id := r.id.bind Json.nonNull?
  result := r.result.bind Json.nonNull?
  error := r.error.map fun e => { e with data := e.data.bind Json.nonNull? }

/-- The values that a response carries. -/
def values (r : Response) : List Json :=
  r.id.toList ++ r.result.toList ++ (r.error.bind (·.data)).toList

/-- The members of a response in the order in which they are written. -/
def members (r : Response) : List (String × Json) :=
  (r.version.map fun v => ("jsonrpc", .string v)).toList ++ (r.id.map fun v => ("id", v)).toList
    ++ (r.result.map fun v => ("result", v)).toList
    ++ (r.error.map fun e => ("error", e.toJson)).toList

variable {r : Response}

theorem mem_values {v : Json} :
    v ∈ r.values ↔ v ∈ r.id ∨ v ∈ r.result ∨ ∃ e ∈ r.error, v ∈ e.data := by
  simp [values, Option.bind_eq_some_iff]

theorem toJson_eq (r : Response) : r.toJson = .object r.members := rfl

theorem mem_members {m : String × Json} :
    m ∈ r.members ↔ (∃ v ∈ r.version, m = ("jsonrpc", .string v)) ∨ (∃ v ∈ r.id, m = ("id", v)) ∨
      (∃ v ∈ r.result, m = ("result", v)) ∨ ∃ e ∈ r.error, m = ("error", e.toJson) := by
  have hmember : ∀ {α : Type} {a? : Option α} {g : α → String × Json},
      m ∈ (a?.map g).toList ↔ ∃ a ∈ a?, m = g a := by
    simp [Option.map_eq_some_iff, eq_comm]
  simp only [members, List.mem_append, hmember, or_assoc]

theorem depth_toJson {key : String} {v : Json} (h : (key, v) ∈ r.members) :
    1 + v.depth ≤ r.toJson.depth := by
  have hdepth : v.depth ≤ Json.membersDepth r.members :=
    Json.membersDepth_le_iff.1 (Nat.le_refl _) _ h
  rw [toJson_eq, Json.depth]
  omega

theorem decode_ofJson (h : ∀ v ∈ r.values, v.isCanonical = true)
    (hd : opened + r.toJson.depth ≤ maxOpen) :
    decode origin opened (ofJson r.toJson) = .ok r.withoutNulls := by
  have hid : ∀ v, r.id = some v →
      Document.optional (any (opened + 1)) (ofJson v) = .ok v.nonNull? := by
    intro v hv
    have hdepth : 1 + v.depth ≤ r.toJson.depth :=
      depth_toJson (mem_members.2 (.inr (.inl ⟨v, hv, rfl⟩)))
    exact optional_any_ofJson (h v (mem_values.2 (.inl hv))) (by omega)
  have hresult : ∀ v, r.result = some v →
      Document.optional (any (opened + 1)) (ofJson v) = .ok v.nonNull? := by
    intro v hv
    have hdepth : 1 + v.depth ≤ r.toJson.depth :=
      depth_toJson (mem_members.2 (.inr (.inr (.inl ⟨v, hv, rfl⟩))))
    exact optional_any_ofJson (h v (mem_values.2 (.inr (.inl hv)))) (by omega)
  have herror : ∀ e, r.error = some e →
      Document.optional (ErrorObject.decode origin (opened + 1)) (ofJson e.toJson)
        = .ok (some { e with data := e.data.bind Json.nonNull? }) := by
    intro e he
    have hdepth : 1 + e.toJson.depth ≤ r.toJson.depth :=
      depth_toJson (mem_members.2 (.inr (.inr (.inr ⟨e, he, rfl⟩))))
    exact ErrorObject.optional_decode_ofJson
      (fun v hv => h v (mem_values.2 (.inr (.inr ⟨e, he, hv⟩)))) (by omega)
  -- what is absent is not written, which makes sixteen shapes
  obtain ⟨version, id, result, error⟩ := r
  cases version <;> cases id <;> cases result <;> cases error <;>
    simp_all [decode, toJson, ofJson, ofMembers, record, readMembers, fields, withoutNulls]

theorem hasWholeNumbers_toJson (h : ∀ v ∈ r.values, v.hasWholeNumbers = true) :
    r.toJson.hasWholeNumbers = true := by
  rw [toJson_eq, Json.hasWholeNumbers, Json.membersWholeNumbers_iff]
  intro m hm
  rcases mem_members.1 hm with ⟨v, -, rfl⟩ | ⟨v, hv, rfl⟩ | ⟨v, hv, rfl⟩ | ⟨e, he, rfl⟩
  · rfl
  · exact h v (mem_values.2 (.inl hv))
  · exact h v (mem_values.2 (.inr (.inl hv)))
  · exact ErrorObject.hasWholeNumbers_toJson fun v hv =>
      h v (mem_values.2 (.inr (.inr ⟨e, he, hv⟩)))

theorem lawful_fields : Lawful (fields origin opened) where
  nodup := by simp [fields]
  get_set := by simp [fields]
  apart := by simp [fields, Field.apart_iff]
  ext := by
    rintro ⟨⟩ ⟨⟩ h
    simpa [fields] using h

/-- What a response is that was read inside the containers. -/
structure IsRead (opened : Nat) (r : Response) : Prop where
  id : ∀ v ∈ r.id, v.IsRead (opened + 1)
  result : ∀ v ∈ r.result, v.IsRead (opened + 1)
  data : ∀ e ∈ r.error, ∀ v ∈ e.data, v.IsRead (opened + 2)

theorem isRead_of_decode {d : Document} (hopened : opened + 1 < maxOpen)
    (h : decode origin opened d = .ok r) : r.IsRead opened := by
  obtain ⟨s, hs, hr⟩ := bind_eq_ok_iff.1 h
  obtain rfl := Except.ok.inj hr
  constructor
  case id =>
    intro v hv
    obtain ⟨d', hd'⟩ := exists_of_record (i := 1) lawful_fields rfl rfl hs
      (Option.join_eq_some_iff.1 hv)
    exact isRead_of_optional (by omega) hd'
  case result =>
    intro v hv
    obtain ⟨d', hd'⟩ := exists_of_record (i := 2) lawful_fields rfl rfl hs
      (Option.join_eq_some_iff.1 hv)
    exact isRead_of_optional (by omega) hd'
  case data =>
    intro e he
    obtain ⟨d', hd'⟩ := exists_of_record (i := 3) lawful_fields rfl rfl hs
      (Option.join_eq_some_iff.1 he)
    exact ErrorObject.isRead_of_decode hopened (decode_of_optional hd').2

namespace IsRead

theorem isCanonical (h : r.IsRead opened) : ∀ v ∈ r.values, v.isCanonical = true := by
  intro v hv
  rcases mem_values.1 hv with hv | hv | ⟨e, he, hv⟩
  · exact (h.id v hv).isCanonical
  · exact (h.result v hv).isCanonical
  · exact (h.data e he v hv).isCanonical

theorem depth_le (h : r.IsRead opened) (hopened : opened + 1 < maxOpen) :
    opened + r.toJson.depth ≤ maxOpen := by
  have hmembers : ∀ m ∈ r.members, m.2.depth ≤ maxOpen - (opened + 1) := by
    intro m hm
    rcases mem_members.1 hm with ⟨v, -, rfl⟩ | ⟨v, hv, rfl⟩ | ⟨v, hv, rfl⟩ | ⟨e, he, rfl⟩
    · exact Nat.zero_le _
    · have hdepth := (h.id v hv).depth
      dsimp only
      omega
    · have hdepth := (h.result v hv).depth
      dsimp only
      omega
    · have hdepth : e.toJson.depth ≤ maxOpen - (opened + 2) + 1 :=
        ErrorObject.depth_toJson_le fun v hv => by
          have hdepth := (h.data e he v hv).depth
          omega
      dsimp only
      omega
  have hdepth := Json.membersDepth_le_iff.2 hmembers
  rw [toJson_eq, Json.depth]
  omega

/-- A response that was read has nothing to lose. -/
theorem withoutNulls_eq (h : r.IsRead opened) : r.withoutNulls = r := by
  obtain ⟨version, id, result, error⟩ := r
  obtain ⟨hid, hresult, hdata⟩ := h
  have hbind : ∀ v? : Option Json, (∀ v ∈ v?, v ≠ .null) → v?.bind Json.nonNull? = v? := by
    intro v? hv
    cases v? with
    | none => rfl
    | some v => exact Json.nonNull?_eq_self (hv v rfl)
  have herror : (error.map fun e => { e with data := e.data.bind Json.nonNull? }) = error := by
    cases error with
    | none => rfl
    | some e =>
      have he := hbind e.data fun v hv => (hdata e rfl v hv).ne_null
      simp only [Option.map_some, he]
  simp only [withoutNulls, herror, hbind id fun v hv => (hid v hv).ne_null,
    hbind result fun v hv => (hresult v hv).ne_null]

end IsRead

/-! ### One more null -/

section
variable {before after : List (Option String × Document)}

/-- A response is the same with one more member that is `null`. -/
theorem decode_insert {f : Document.Field Fields} (hf : f ∈ fields origin opened) {a : f.Value}
    (hnull : f.decode .null = .ok a) (hempty : f.get {} = none)
    (hset : ∀ s, f.get s = none → (f.set s a).version.join = s.version.join ∧
      (f.set s a).id.join = s.id.join ∧ (f.set s a).result.join = s.result.join ∧
      (f.set s a).error.join = s.error.join)
    (hname : ∀ m ∈ before ++ after, m.1 ≠ some f.name)
    (h : decode origin opened (.object (before ++ after) true) = .ok r) :
    decode origin opened (.object (before ++ (some f.name, .null) :: after) true) = .ok r := by
  obtain ⟨s, hs, hr⟩ := bind_eq_ok_iff.1 h
  obtain rfl := Except.ok.inj hr
  have hmembers := (record_object_eq_ok_iff.1 hs).2
  have hget := get_readMembers_of_absent lawful_fields hf hname hempty hmembers
  have hread := readMembers_insert lawful_fields hf hname hempty hnull hmembers
  have hinsert : (Document.object (before ++ (some f.name, .null) :: after) true).record origin
      "struct JsonRpcResponse" (fields origin opened) {} = .ok (f.set s a) :=
    record_object_eq_ok_iff.2 ⟨rfl, hread⟩
  obtain ⟨hversion, hid, hresult, herror⟩ := hset s hget
  rw [decode, hinsert, ok_bind, hversion, hid, hresult, herror]
  rfl

/-- A member that is `null` may stand anywhere in a response that does not mention its key. -/
theorem decode_insert_null {name : String} (hkey : name ∈ ["jsonrpc", "id", "result", "error"])
    (hname : ∀ m ∈ before ++ after, m.1 ≠ some name)
    (h : decode origin opened (.object (before ++ after) true) = .ok r) :
    decode origin opened (.object (before ++ (some name, .null) :: after) true) = .ok r := by
  have hfields : ∀ f ∈ fields origin opened, (∀ m ∈ before ++ after, m.1 ≠ some f.name) →
      decode origin opened (.object (before ++ (some f.name, .null) :: after) true) = .ok r := by
    intro f hf hname
    have hcases := hf
    simp only [fields, List.mem_cons, List.not_mem_nil, or_false] at hcases
    -- a field that took `null` and one that took nothing give the same
    rcases hcases with rfl | rfl | rfl | rfl
    all_goals exact decode_insert hf rfl rfl (fun s hs => by simp_all) hname h
  have hnames : (fields origin opened).map (·.name) = ["jsonrpc", "id", "result", "error"] := rfl
  rw [← hnames] at hkey
  obtain ⟨f, hf, rfl⟩ := List.mem_map.1 hkey
  exact hfields f hf hname

end

end Response

end Rpc

/-! ## Failures -/

namespace Failure

theorem decodeRpc_ofJson (code : Int64) (message : String) :
    decodeRpc origin
      (some (Document.ofJson (.object [("code", .ofInt code.toInt), ("message", .string message)])))
      = .ok (.rpc code message) := by
  have hcode := int64_ofInt code
  simp [decodeRpc, isRpcRecord, Document.ofJson, ofMembers, record, readMembers, rpcFields,
    Document.text, require, hcode]

/-- In a text the parts may stand in an array. -/
example : JsonText.decode (decode .text) "\x7b\"RpcProtocol\":[1,\"m\"]\x7d"
    = .ok (.rpc 1 "m") := by decide +kernel

theorem decode_ofJson (f : Failure) : decode origin (Document.ofJson f.toJson) = .ok f := by
  cases f with
  | rpc code message => exact decodeRpc_ofJson code message
  | _ m => rfl

theorem hasWholeNumbers_toJson (f : Failure) : f.toJson.hasWholeNumbers = true := by
  cases f with
  | rpc code message =>
    have hcode := Json.hasWholeNumbers_int64 code
    simp [toJson, Json.hasWholeNumbers, Json.membersWholeNumbers, hcode]
  | _ m => rfl

end Failure

/-! ## Texts of messages -/

open Rpc

/-- A text that decodes has nothing behind its document. -/
theorem JsonText.read_of_decode {α : Type} {read : Document → Decoded α} {s : String} {a : α}
    (h : JsonText.decode read s = .ok a) :
    read (JsonText.read s).root = .ok a ∧ (JsonText.read s).trailing = false := by
  obtain ⟨b, hb, hs⟩ := bind_eq_ok_iff.1 h
  split at hs
  · cases hs
  · rename_i htrailing
    obtain rfl := Except.ok.inj hs
    exact ⟨hb, by simpa using htrailing⟩

theorem Rpc.Request.decode_compact {r : Request}
    (h : ∀ v ∈ r.params, v.isCanonical = true ∧ v.hasWholeNumbers = true)
    (hd : r.toJson.depth ≤ 127) :
    JsonText.decode (Request.decode .text 0) r.toJson.compact = .ok r := by
  have hdepth : 0 + r.toJson.depth ≤ maxOpen := (Nat.zero_add _).symm ▸ hd
  exact (JsonText.decode_compact _ (hasWholeNumbers_toJson fun v hv => (h v hv).2)).trans
    (decode_ofJson (fun v hv => (h v hv).1) hdepth)

theorem Rpc.Response.decode_compact {r : Response}
    (h : ∀ v ∈ r.values, v.isCanonical = true ∧ v.hasWholeNumbers = true)
    (hd : r.toJson.depth ≤ 127) :
    JsonText.decode (Response.decode .text 0) r.toJson.compact = .ok r.withoutNulls := by
  have hdepth : 0 + r.toJson.depth ≤ maxOpen := (Nat.zero_add _).symm ▸ hd
  exact (JsonText.decode_compact _ (hasWholeNumbers_toJson fun v hv => (h v hv).2)).trans
    (decode_ofJson (fun v hv => (h v hv).1) hdepth)

/-- **Messages lose only nulls.** Requests and failures are read back from their compact texts as
they were, and responses without what is `null` in them; what was read from some text is read back
as it is. In the text of a response that is an object and does not mention one of its keys, a member
with that key and `null`, in any spelling and at any place among the members, changes nothing. -/
theorem codec_loses_only_nulls :
    (∀ r : Request, (∀ v ∈ r.params, v.isCanonical = true ∧ v.hasWholeNumbers = true) →
      r.toJson.depth ≤ 127 →
      JsonText.decode (Request.decode .text 0) r.toJson.compact = .ok r) ∧
    (∀ f : Failure, JsonText.decode (Failure.decode .text) f.toJson.compact = .ok f) ∧
    (∀ r : Response, (∀ v ∈ r.values, v.isCanonical = true ∧ v.hasWholeNumbers = true) →
      r.toJson.depth ≤ 127 →
      JsonText.decode (Response.decode .text 0) r.toJson.compact = .ok r.withoutNulls) ∧
    (∀ (s : String) (r : Request), JsonText.decode (Request.decode .text 0) s = .ok r →
      (∀ v ∈ r.params, v.hasWholeNumbers = true) →
      JsonText.decode (Request.decode .text 0) r.toJson.compact = .ok r) ∧
    (∀ (s : String) (r : Response), JsonText.decode (Response.decode .text 0) s = .ok r →
      (∀ v ∈ r.values, v.hasWholeNumbers = true) →
      JsonText.decode (Response.decode .text 0) r.toJson.compact = .ok r) ∧
    ∀ name ∈ ["jsonrpc", "id", "result", "error"], ∀ (s : String) (r : Response)
        (ms : List (Option String × Document)) (closed : Bool),
      JsonText.decode (Response.decode .text 0) s = .ok r →
      (JsonText.read s).root = .object ms closed → (∀ m ∈ ms, m.1 ≠ some name) →
      ∃ before gap pieces after, JsonText.Blank before ∧ JsonText.Blank gap ∧
        JsonText.Blank after ∧ s = JsonText.objectText before gap pieces after ∧
        List.Forall₂ JsonText.MemberText ms pieces ∧
        ∀ i piece, JsonText.MemberText (some name, .null) piece →
          JsonText.decode (Response.decode .text 0)
            (JsonText.objectText before gap (pieces.take i ++ piece :: pieces.drop i) after)
            = .ok r := by
  refine ⟨fun r h hd => Request.decode_compact h hd,
    fun f => (JsonText.decode_compact _ f.hasWholeNumbers_toJson).trans f.decode_ofJson,
    fun r h hd => Response.decode_compact h hd, ?_, ?_, ?_⟩
  · intro s r h hwhole
    obtain ⟨hc, hd⟩ := Request.isRead_of_decode (by decide) (JsonText.read_of_decode h).1
    rw [Nat.zero_add] at hd
    exact Request.decode_compact (fun v hv => ⟨hc v hv, hwhole v hv⟩) hd
  · intro s r h hwhole
    have hr := Response.isRead_of_decode (by decide) (JsonText.read_of_decode h).1
    have hd := hr.depth_le (by decide)
    rw [Nat.zero_add] at hd
    have hdecode := Response.decode_compact (fun v hv => ⟨hr.isCanonical v hv, hwhole v hv⟩) hd
    rwa [hr.withoutNulls_eq] at hdecode
  · intro name hname s r ms closed h hroot hkey
    obtain ⟨hdecode, htrailing⟩ := JsonText.read_of_decode h
    rw [hroot] at hdecode
    obtain ⟨_, hrecord, -⟩ := bind_eq_ok_iff.1 hdecode
    obtain rfl := (record_object_eq_ok_iff.1 hrecord).1
    have hread : JsonText.read s = ⟨.object ms true, false⟩ := by rw [← hroot, ← htrailing]
    obtain ⟨before, gap, pieces, after, hbefore, hgap, hafter, hs, hall⟩ :=
      JsonText.exists_objectText hread
    refine ⟨before, gap, pieces, after, hbefore, hgap, hafter, hs, hall, fun i piece hpiece => ?_⟩
    have hpieces : List.Forall₂ JsonText.MemberText
        (ms.take i ++ (some name, .null) :: ms.drop i) (pieces.take i ++ piece :: pieces.drop i) :=
      List.rel_append (List.forall₂_take i hall) (.cons hpiece (List.forall₂_drop i hall))
    rw [JsonText.decode_of_read (JsonText.read_objectText hbefore hgap hafter hpieces)]
    refine Response.decode_insert_null hname ?_ ?_
    · rwa [List.take_append_drop]
    · rwa [List.take_append_drop]

/-- A response that is `null` wherever it may be, and nested where it is not. -/
def edgeResponse : Response where
  version := some "2.0"
  id := some .null
  result := some (.object [("", .array []), ("\u0000", .ofInt (-9223372036854775808))])
  error := some { code := -32602, message := "\"", data := some .null }

/-- Its values go as parameters and come back, `null` among them; and a text of an object is read
back, with its missing key spelled as an escape. -/
theorem codec_loses_only_nulls_edge :
    let request := Request.make "hmy" edgeResponse.values 18446744073709551615
    let response : Response := { result := some (.string "0x1") }
    JsonText.decode (Request.decode .text 0) request.toJson.compact = .ok request ∧
      JsonText.decode (Response.decode .text 0) edgeResponse.toJson.compact
        = .ok edgeResponse.withoutNulls ∧
      JsonText.decode (Response.decode .text 0) response.toJson.compact = .ok response ∧
      ∃ before gap pieces after,
        " \x7b\"result\" :\"0x1\", \"x\":[1,2]\x7d" = JsonText.objectText before gap pieces after ∧
        ∀ i, JsonText.decode (Response.decode .text 0)
          (JsonText.objectText before gap
            (pieces.take i ++ "\"i\\u0064\": null".toList :: pieces.drop i) after)
          = .ok response := by
  intro request response
  obtain ⟨hrequest, -, hresponse, -, hagain, hinsert⟩ := codec_loses_only_nulls
  have hread : JsonText.read " \x7b\"result\" :\"0x1\", \"x\":[1,2]\x7d"
      = ⟨.object [(some "result", .string (some "0x1")),
          (some "x", .array [.number (some (.integer 1)), .number (some (.integer 2))] true)] true,
        false⟩ := by
    simp [JsonText.read]
    rfl
  have hpiece : JsonText.MemberText (some "id", .null) "\"i\\u0064\": null".toList := by
    simp [JsonText.MemberText, JsonText.read]
    rfl
  have hdecode : JsonText.decode (Response.decode .text 0) _ = .ok response :=
    JsonText.decode_of_read hread
  obtain ⟨before, gap, pieces, after, -, -, -, hs, -, hpieces⟩ :=
    hinsert "id" (by decide) _ _ _ _ hdecode (by rw [hread]) (by decide)
  exact ⟨hrequest request (by decide) (by decide), hresponse edgeResponse (by decide) (by decide),
    hagain _ response hdecode (by decide), before, gap, pieces, after, hs,
    fun i => hpieces i _ hpiece⟩

end NodeAudit
