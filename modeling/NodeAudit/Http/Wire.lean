import NodeAudit.Http.Exchange

/-!
# Messages on the wire

A POST as the bytes that are sent, and an answer as it is read from the bytes that came until the
connection was closed. The body of an answer has a given length, or comes in chunks, or ends with
the connection.
-/

namespace NodeAudit.Http

/-- The bytes of a text. -/
def bytesOf (cs : List Char) : List UInt8 := cs.flatMap String.utf8EncodeChar

namespace Post

/-- The host and the port to which a request goes. -/
def hostText (p : Post) : List Char :=
  (p.url.host?.elim [] Url.Host.text) ++ (p.url.port?.elim [] fun n => ':' :: Decimal.digits 10 n)

/-- The bytes of a request. -/
def bytes (p : Post) : List UInt8 :=
  let body := bytesOf p.body.toList
  let head := [p.startLine, "content-type: " ++ contentType, "accept: */*",
    "host: " ++ String.ofList p.hostText, "connection: close",
    "content-length: " ++ Decimal.ofNat body.length, "", ""]
  bytesOf ("\r\n".intercalate head).toList ++ body

end Post

namespace Answer

/-- A line without its end, and what follows it. -/
def splitLine : List UInt8 → Option (List UInt8 × List UInt8)
  | [] => none
  | 13 :: 10 :: rest => some ([], rest)
  | b :: rest => (splitLine rest).map fun (line, rest) => (b :: line, rest)

theorem splitLine_length_lt : ∀ {bytes line rest : List UInt8},
    splitLine bytes = some (line, rest) → rest.length < bytes.length
  | [], _, _, h => by simp [splitLine] at h
  | b :: bytes, line, rest, h => by
    rw [splitLine.eq_def] at h
    split at h
    · simp at h
    · rename_i more heq
      simp only [Option.some.injEq, Prod.mk.injEq] at h
      obtain ⟨rfl, rfl⟩ := List.cons.inj heq
      rw [← h.2]; simp only [List.length_cons]; omega
    · rename_i b' more _ heq
      obtain ⟨rfl, rfl⟩ := List.cons.inj heq
      simp only [Option.map_eq_some_iff, Prod.exists, Prod.mk.injEq] at h
      obtain ⟨l, r, hs, -, rfl⟩ := h
      have := splitLine_length_lt hs
      simp only [List.length_cons]; omega

/-- A line of ASCII in small letters. -/
def lineChars (line : List UInt8) : List Char := line.map fun b => (Char.ofNat b.toNat).toLower

/-- The lines up to the empty one, and what follows it. -/
def splitHead (bytes : List UInt8) : Option (List (List Char) × List UInt8) :=
  match h : splitLine bytes with
  | none => none
  | some ([], rest) => some ([], rest)
  | some (b :: line, rest) =>
    have : rest.length < bytes.length := splitLine_length_lt h
    (splitHead rest).map fun (lines, rest) => (lineChars (b :: line) :: lines, rest)
termination_by bytes.length

/-- The code in the first line of an answer. -/
def status? (line : List Char) : Option Status :=
  match line with
  | 'h' :: 't' :: 't' :: 'p' :: '/' :: '1' :: '.' :: _ :: ' ' :: a :: b :: c :: _ =>
    Decimal.value? 10 [a, b, c]
  | _ => none

/-- The value of a header. -/
def header? (name : List Char) (lines : List (List Char)) : Option (List Char) :=
  lines.findSome? fun line =>
    if (name ++ [':']).isPrefixOf line then some (Text.trimChars (line.drop (name.length + 1)))
    else none

/-- The chunks of a body, joined; `none` if the last one is missing. -/
def joinChunks (bytes : List UInt8) : Option (List UInt8) :=
  match h : splitLine bytes with
  | none => none
  | some (line, rest) =>
    match Decimal.value? 16 ((lineChars line).takeWhile Decimal.isHexDigit) with
    | none => none
    | some 0 => some []
    | some size =>
      have := splitLine_length_lt h
      have : (rest.drop (size + 2)).length < bytes.length := by
        simp only [List.length_drop]; omega
      if rest.length < size then none
      else (joinChunks (rest.drop (size + 2))).map (rest.take size ++ ·)
termination_by bytes.length

/-- The body that follows the head of an answer. -/
def body? (lines : List (List Char)) (rest : List UInt8) : Option (List UInt8) :=
  if header? "transfer-encoding".toList lines = some "chunked".toList then joinChunks rest
  else
    match header? "content-length".toList lines with
    | none => some rest
    | some length =>
      match Decimal.value? 10 length with
      | some n => if rest.length < n then none else some (rest.take n)
      | none => none

/-- The status and the body of an answer; `none` if it is not complete. -/
def read? (bytes : List UInt8) : Option (Status × List UInt8) := do
  let (lines, rest) ← splitHead bytes
  return (← status? (← lines.head?), ← body? (lines.drop 1) rest)

end Answer

end NodeAudit.Http
