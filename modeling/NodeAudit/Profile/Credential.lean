import NodeAudit.Failure
import NodeAudit.Text.Shown

/-!
# Credentials

What signs for a network: a mnemonic, a private key, or both. On display a credential only tells
which of the two is set. A private key is 32 bytes in hexadecimal digits, with or without `0x`.
-/

namespace NodeAudit.Profile

/-- How many bytes a private key has. -/
def privateKeyBytes : Nat := 32

/-- What is wrong with a private key. -/
inductive KeyProblem where
  /-- A character is no hexadecimal digit, or their number is odd. -/
  | notHex
  | wrongLength (bytes : Nat)
deriving DecidableEq, Repr

/-- The problem in words, to follow the name of the variable. -/
def KeyProblem.message : KeyProblem → String
  | notHex => "is not valid hex"
  | wrongLength bytes =>
    "must be " ++ Decimal.ofNat privateKeyBytes ++ " bytes, got " ++ Decimal.ofNat bytes

/-- The digits of a key, without one `0x` before them. -/
def keyDigits : List Char → List Char
  | '0' :: 'x' :: rest => rest
  | cs => cs

/-- What is wrong with a private key, if anything. -/
def keyProblem? (key : String) : Option KeyProblem :=
  let digits := keyDigits key.toList
  if digits.all Decimal.isHexDigit && digits.length % 2 == 0 then
    if digits.length / 2 = privateKeyBytes then none else some (.wrongLength (digits.length / 2))
  else some .notHex

/-- A mnemonic, a private key, or both. -/
structure Credential where
  mnemonic : Option String
  privateKey : Option String
  isSome : (mnemonic.isSome || privateKey.isSome) = true
deriving DecidableEq, Repr

namespace Credential

/-- The credential of what is set, or the failure of neither. -/
def make (mnemonic privateKey : Option String) : Except Failure Credential :=
  if h : (mnemonic.isSome || privateKey.isSome) = true then .ok ⟨mnemonic, privateKey, h⟩
  else .error (.configuration "credential needs a mnemonic or a private key")

/-- The credential on display. -/
def shown (c : Credential) : Text.Shown :=
  .record "Credential" [("mnemonic", .text (Text.quoted (redactSecret c.mnemonic))),
    ("private_key", .text (Text.quoted (redactSecret c.privateKey)))]

end Credential

end NodeAudit.Profile
