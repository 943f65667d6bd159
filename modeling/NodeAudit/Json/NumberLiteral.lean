import NodeAudit.Json.Basic

/-!
# Number literals

A number as its digits, and the value that it stands for (`NumberLiteral.number?`): an integer that
is written without point and exponent and fits stays one, every other number is a double.
-/

namespace NodeAudit

/-- The digits of a number as written. -/
structure NumberLiteral where
  negative : Bool
  whole : List Char
  /-- The digits after the point, if there is one. -/
  fraction : List Char
  /-- The exponent, if one is written. -/
  exponent : Option Int
deriving DecidableEq, Repr

namespace NumberLiteral

/-- Significand and power of ten collected so far. -/
structure Scale where
  significand : Nat
  power : Int

/-- A digit before the point: it is taken while the significand fits 64 bits, and counts as a power
of ten from then on. -/
def Scale.pushWhole (s : Scale) (c : Char) : Scale :=
  let next := s.significand * 10 + (c.toNat - 48)
  if s.power = 0 ∧ next < UInt64.size then ⟨next, 0⟩ else ⟨s.significand, s.power + 1⟩

/-- The digits after the point: they are taken while the significand fits 64 bits. -/
def Scale.pushFraction : Scale → List Char → Scale
  | s, [] => s
  | s, c :: rest =>
    let next := s.significand * 10 + (c.toNat - 48)
    if next < UInt64.size then Scale.pushFraction ⟨next, s.power - 1⟩ rest else s

/-- The number of a literal: an integer if it is written as one and fits, otherwise a double.
`none` if the double overflows. -/
def number? (l : NumberLiteral) : Option Number :=
  let whole := l.whole.foldl Scale.pushWhole ⟨0, 0⟩
  let isInteger := l.fraction.isEmpty && l.exponent.isNone && whole.power == 0
  if isInteger ∧ ¬ l.negative then some (.integer whole.significand)
  else if isInteger ∧ 0 < whole.significand ∧ whole.significand ≤ 9223372036854775808 then
    some (.integer (-(whole.significand : Int)))
  else
    let s := whole.pushFraction l.fraction
    (Decimal.Magnitude.ofScientific s.significand (s.power + l.exponent.getD 0)).map
      (.double l.negative)

end NumberLiteral

end NodeAudit
