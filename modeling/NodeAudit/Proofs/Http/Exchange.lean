import NodeAudit.Http.Exchange

/-!
# What an answer comes to

An answer is a reply exactly if its status is a success and its body a response
(`answer_sent_eq_ok_iff`), and the characters of a text are read back from its bytes
(`bodyChars_utf8`).
-/

namespace NodeAudit.Http

/-! ## Bodies -/

theorem bodyChars_append {skipped : List UInt8} (escaped : Bool) (bytes : List UInt8) :
    bodyChars skipped.length escaped (skipped ++ bytes) = bodyChars 0 escaped bytes := by
  induction skipped with
  | nil => rfl
  | cons b skipped ih =>
    rw [List.length_cons, List.cons_append, bodyChars]
    exact ih

/-- A character is decoded from the next four bytes. -/
theorem utf8DecodeChar?_take (c : Char) (bytes : List UInt8) :
    ByteArray.utf8DecodeChar? ⟨((String.utf8EncodeChar c ++ bytes).take 4).toArray⟩ 0 = some c := by
  have hlen := String.length_utf8EncodeChar c
  have hfour := c.utf8Size_le_four
  have htake : (String.utf8EncodeChar c ++ bytes).take 4
      = String.utf8EncodeChar c ++ bytes.take (4 - (String.utf8EncodeChar c).length) := by
    rw [List.take_append, List.take_of_length_le (by omega)]
  have harray : (⟨((String.utf8EncodeChar c ++ bytes).take 4).toArray⟩ : ByteArray)
      = (String.utf8EncodeChar c).toByteArray
        ++ (bytes.take (4 - (String.utf8EncodeChar c).length)).toByteArray := by
    rw [htake, ← List.toByteArray_append]
    exact ByteArray.ext List.data_toByteArray.symm
  rw [harray]
  exact ByteArray.utf8DecodeChar?_utf8EncodeChar_append

theorem bodyChars_utf8 (escaped : Bool) (cs : List Char) :
    bodyChars 0 escaped (cs.flatMap String.utf8EncodeChar) = cs := by
  induction cs generalizing escaped with
  | nil => rfl
  | cons c cs ih =>
    have hlen : (String.utf8EncodeChar c).length = c.utf8Size := String.length_utf8EncodeChar c
    have hpos := c.utf8Size_pos
    obtain ⟨b, tail, hbytes⟩ : ∃ b tail, String.utf8EncodeChar c = b :: tail :=
      List.exists_cons_of_ne_nil fun h => by simp [h] at hlen; omega
    have hdecode := utf8DecodeChar?_take c (cs.flatMap String.utf8EncodeChar)
    rw [hbytes, List.cons_append] at hdecode
    rw [List.flatMap_cons, hbytes, List.cons_append, bodyChars, hdecode]
    dsimp only
    have htail : c.utf8Size - 1 = tail.length := by
      rw [← hlen, hbytes]
      rfl
    rw [htail, bodyChars_append, ih]

theorem decodeBody_eq_ok_iff {method : String} {body : List UInt8} {response : Rpc.Response} :
    decodeBody method body = .ok response ↔
      JsonText.decode (Rpc.Response.decode .text 0) (String.ofList (bodyChars 0 false body))
        = .ok response := by
  unfold decodeBody
  cases JsonText.decode (Rpc.Response.decode .text 0) (String.ofList (bodyChars 0 false body)) with
  | ok r => simp
  | error e => simp

/-! ## Answers -/

theorem Status.isSuccess_iff {status : Status} :
    status.isSuccess = true ↔ 200 ≤ status ∧ status < 300 := by
  simp [isSuccess]

/-- An answer is a reply exactly if its status is a success and its body a response. -/
theorem Exchange.answer_sent_eq_ok_iff {x : Exchange} {status : Status} {body : List UInt8}
    (hx : x.result = .answered status body) {url : Url} {method : String} {reply : Rpc.Reply} :
    (x.sent url method).answer = .ok reply ↔
      (200 ≤ status ∧ status < 300) ∧ decodeBody method body = .ok reply.response ∧
        reply.time = x.time := by
  obtain ⟨response, time⟩ := reply
  simp only [Exchange.sent, Exchange.response, hx, ← Status.isSuccess_iff]
  split
  · cases decodeBody method body with
    | ok r => simp [Except.map, eq_comm, *]
    | error f => simp [Except.map]
  · simp [Except.map, *]

theorem Exchange.duration_sent (x : Exchange) (url : Url) (method : String) :
    (x.sent url method).duration = x.time := by
  unfold Exchange.sent Rpc.Sent.duration
  cases x.response url method <;> rfl

end NodeAudit.Http
