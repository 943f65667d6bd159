import NodeAudit.Decimal.Digits
import NodeAudit.Text.Blank

/-!
# Redaction of messages

Endpoint addresses may hold a user and a password, and a message may quote a signing key. Before a
message leaves the program both are cut out of it:

* an address with a user and a password, wherever it starts in a word, is replaced up to the end of
  the word (`redactUrls`);
* a run of sixty-four or more hexadecimal digits is replaced together with a `0x` before it
  (`redactHex`). Account addresses have forty digits and stay.

`redact` does the first and then the second.
-/

namespace NodeAudit.Redaction

/-- What stands for an address with credentials. -/
def urlMark : String := "[REDACTED_URL]"

/-- What stands for a long run of hexadecimal digits. -/
def hexMark : String := "[REDACTED_HEX]"

/-- What stands for a secret that is set. -/
def secretMark : String := "[REDACTED]"

/-! ## Addresses with credentials -/

/-- A character that may begin a scheme. -/
def isSchemeStart (c : Char) : Bool := 'a' ≤ c && c ≤ 'z'

/-- A character that may follow in a scheme. -/
def isSchemeChar (c : Char) : Bool :=
  isSchemeStart c || Decimal.isDigit c || c == '+' || c == '.' || c == '-'

/-- A character of a user. -/
def isUserChar (c : Char) : Bool := c != ':' && c != '@' && !Text.isBlank c

/-- A character of a password. -/
def isPasswordChar (c : Char) : Bool := c != '@' && !Text.isBlank c

/-- A character of a word. -/
def isWordChar (c : Char) : Bool := !Text.isBlank c

/-- A password, an at sign and one more character of the word begin here. -/
def startsPassword (cs : List Char) : Bool :=
  !(cs.takeWhile isPasswordChar).isEmpty &&
    match cs.dropWhile isPasswordChar with
    | '@' :: c :: _ => isWordChar c
    | _ => false

/-- A user, a colon and a password begin here. -/
def startsUser (cs : List Char) : Bool :=
  !(cs.takeWhile isUserChar).isEmpty &&
    match cs.dropWhile isUserChar with
    | ':' :: rest => startsPassword rest
    | _ => false

/-- An address with a user and a password begins here. -/
def startsCredentialUrl : List Char → Bool
  | [] => false
  | c :: cs =>
    isSchemeStart c &&
      match cs.dropWhile isSchemeChar with
      | ':' :: '/' :: '/' :: rest => startsUser rest
      | _ => false

/-- Replace each address with credentials, from its first character to the end of its word. -/
def redactUrls : List Char → List Char
  | [] => []
  | c :: cs =>
    if startsCredentialUrl (c :: cs) then
      urlMark.toList ++ redactUrls (cs.dropWhile isWordChar)
    else c :: redactUrls cs
termination_by cs => cs.length
decreasing_by
  · have := (List.dropWhile_suffix (l := cs) isWordChar).length_le
    simp; omega
  · simp

/-! ## Long runs of hexadecimal digits -/

/-- How many hexadecimal digits in a row are cut out. -/
def longRun : Nat := 64

/-- A long run of hexadecimal digits begins here. -/
def startsLongRun (cs : List Char) : Bool :=
  longRun ≤ (cs.takeWhile Decimal.isHexDigit).length

/-- What follows a long run that begins here, with or without `0x` before it. -/
def afterLongRun? : List Char → Option (List Char)
  | '0' :: 'x' :: cs =>
    if startsLongRun cs then some (cs.dropWhile Decimal.isHexDigit) else none
  | cs => if startsLongRun cs then some (cs.dropWhile Decimal.isHexDigit) else none

theorem length_dropWhile_le (p : Char → Bool) (cs : List Char) :
    (cs.dropWhile p).length ≤ cs.length :=
  (List.dropWhile_suffix p).length_le

theorem length_dropWhile_lt_of_startsLongRun {cs : List Char} (h : startsLongRun cs = true) :
    (cs.dropWhile Decimal.isHexDigit).length < cs.length := by
  have hsum : (cs.takeWhile Decimal.isHexDigit).length
      + (cs.dropWhile Decimal.isHexDigit).length = cs.length := by
    rw [← List.length_append, List.takeWhile_append_dropWhile]
  have hrun : longRun ≤ (cs.takeWhile Decimal.isHexDigit).length := by
    simpa [startsLongRun] using h
  have hpos : 0 < longRun := by decide
  omega

theorem length_afterLongRun?_lt {cs rest : List Char} (h : afterLongRun? cs = some rest) :
    rest.length < cs.length := by
  unfold afterLongRun? at h
  split at h
  · split at h
    · obtain rfl := Option.some.inj h
      have := length_dropWhile_le Decimal.isHexDigit ‹List Char›
      simp only [List.length_cons]; omega
    · simp at h
  · split at h
    · rename_i hs
      obtain rfl := Option.some.inj h
      exact length_dropWhile_lt_of_startsLongRun hs
    · simp at h

/-- Replace each long run of hexadecimal digits, together with a `0x` before it. -/
def redactHex (cs : List Char) : List Char :=
  match _h : afterLongRun? cs with
  | some rest => hexMark.toList ++ redactHex rest
  | none =>
    match cs with
    | [] => []
    | c :: rest => c :: redactHex rest
termination_by cs.length
decreasing_by
  · exact length_afterLongRun?_lt ‹_›
  · simp

end Redaction

/-- The message without addresses that hold credentials and without long runs of hexadecimal
digits. -/
def redact (message : String) : String :=
  String.ofList (Redaction.redactHex (Redaction.redactUrls message.toList))

/-- What is shown of a secret: only whether it is set. -/
def redactSecret : Option String → String
  | some _ => Redaction.secretMark
  | none => "<unset>"

end NodeAudit
