import NodeAudit.Decimal.Digits

/-!
# Unsigned integers as they are typed

The text of an unsigned integer of 64 bits: one plus sign or none, then decimal digits, of which any
number may be leading zeros.
-/

namespace NodeAudit.Decimal

/-- The value of an unsigned integer of 64 bits. -/
def unsigned? (s : String) : Option UInt64 :=
  let digits := match s.toList with
    | '+' :: rest => rest
    | cs => cs
  if digits.isEmpty then none
  else match value? 10 digits with
    | some n => if n < UInt64.size then some (UInt64.ofNat n) else none
    | none => none

end NodeAudit.Decimal
