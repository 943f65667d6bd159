/-!
# Decimal and hexadecimal digits

Writing a natural number in a base (`digits`) and reading digits back (`value?`). Main statements:
the digits of `n` have the value `n` (`value?_digits`), there is at least one (`digits_ne_nil`), and
a leading zero changes nothing (`value?_zero_cons`). Decimal texts are those of the core library
(`ofNat_eq_toString`).
-/

namespace NodeAudit.Decimal

/-- The character of a digit below sixteen. -/
def digitChar (d : Nat) : Char :=
  if d < 10 then Char.ofNat (48 + d) else Char.ofNat (87 + d)

/-- The value of a digit of base sixteen in either case. -/
def digitValue? (c : Char) : Option Nat :=
  let n := c.toNat
  if 48 ≤ n ∧ n ≤ 57 then some (n - 48)
  else if 97 ≤ n ∧ n ≤ 102 then some (n - 87)
  else if 65 ≤ n ∧ n ≤ 70 then some (n - 55)
  else none

/-- The digits of `n` in the base, most significant first; one digit for zero. -/
def digits (base n : Nat) : List Char :=
  if _h : n < base ∨ base < 2 then [digitChar n]
  else digits base (n / base) ++ [digitChar (n % base)]
termination_by n
decreasing_by exact Nat.div_lt_self (by omega) (by omega)

/-- Continue a value with one more digit of the base. -/
def pushDigit (base acc : Nat) (c : Char) : Option Nat :=
  match digitValue? c with
  | some d => if d < base then some (acc * base + d) else none
  | none => none

/-- The value of a text of digits of the base, `none` if another character occurs. -/
def value? (base : Nat) (cs : List Char) : Option Nat :=
  cs.foldlM (pushDigit base) 0

/-- Decimal text of a natural number. -/
def ofNat (n : Nat) : String := String.ofList (digits 10 n)

/-- Decimal text of an integer, with a minus sign below zero. -/
def ofInt : Int → String
  | .ofNat n => ofNat n
  | .negSucc n => "-" ++ ofNat (n + 1)

/-- Hexadecimal text of a natural number, in small letters. -/
def hexOfNat (n : Nat) : String := String.ofList (digits 16 n)

/-- An ASCII decimal digit. -/
def isDigit (c : Char) : Bool := '0' ≤ c && c ≤ '9'

/-- An ASCII hexadecimal digit of either case. -/
def isHexDigit (c : Char) : Bool :=
  isDigit c || ('a' ≤ c && c ≤ 'f') || ('A' ≤ c && c ≤ 'F')

/-! ## Writing and reading back -/

theorem digitValue?_digitChar_all :
    ∀ d < 16, digitValue? (digitChar d) = some d := by decide

theorem pushDigit_digitChar {base acc d : Nat} (hb : base ≤ 16) (hd : d < base) :
    pushDigit base acc (digitChar d) = some (acc * base + d) := by
  simp [pushDigit, digitValue?_digitChar_all d (by omega), hd]

theorem digits_ne_nil (base n : Nat) : digits base n ≠ [] := by
  rw [digits]; split <;> simp

theorem foldlM_pushDigit_digits {base : Nat} (h2 : 2 ≤ base) (h16 : base ≤ 16) (n : Nat) :
    (digits base n).foldlM (pushDigit base) 0 = some n := by
  induction n using Nat.strongRecOn with
  | _ n ih =>
    rw [digits]
    split
    · rename_i h
      have hn : n < base := by omega
      simp [pushDigit_digitChar h16 hn]
    · rename_i h
      have hlt : n / base < n := Nat.div_lt_self (by omega) (by omega)
      rw [List.foldlM_append, ih _ hlt]
      have hm : n % base < base := Nat.mod_lt _ (by omega)
      simp [pushDigit_digitChar h16 hm, Nat.div_add_mod']

theorem value?_digits {base : Nat} (h2 : 2 ≤ base) (h16 : base ≤ 16) (n : Nat) :
    value? base (digits base n) = some n :=
  foldlM_pushDigit_digits h2 h16 n

theorem digits_ten (n : Nat) : digits 10 n = Nat.toDigits 10 n := by
  have hchar : ∀ d < 10, digitChar d = Nat.digitChar d := by decide
  induction n using Nat.strongRecOn with
  | _ n ih =>
    rw [digits, Nat.toDigits_eq_if (by decide)]
    by_cases hlt : n < 10
    · rw [dif_pos (.inl hlt), if_pos hlt, hchar n hlt]
    · rw [dif_neg (by omega), if_neg hlt, ih (n / 10) (by omega), hchar (n % 10) (by omega)]

theorem ofNat_eq_toString (n : Nat) : ofNat n = toString n := by
  rw [ofNat, digits_ten]
  exact Nat.repr_eq_ofList_toDigits.symm

theorem value?_zero_cons {base : Nat} (h2 : 2 ≤ base) (cs : List Char) :
    value? base ('0' :: cs) = value? base cs := by
  have h0 : pushDigit base 0 '0' = some 0 := by
    have : digitValue? '0' = some 0 := by decide
    simp [pushDigit, this]; omega
  simp [value?, List.foldlM_cons, h0]

end NodeAudit.Decimal
