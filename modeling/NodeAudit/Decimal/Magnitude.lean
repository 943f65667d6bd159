/-!
# Finite doubles without their sign

A magnitude is `significand * 2 ^ exponent` with a significand below `2 ^ 53`. `ofRatio` rounds a
quotient of natural numbers to the nearest magnitude, ties to an even significand; `ofScientific`
reads a significand of at most 64 bits with a power of ten in two roundings, one for the
significand and one for the scaling.
-/

namespace NodeAudit.Decimal

/-- The value `significand * 2 ^ exponent`. -/
structure Magnitude where
  significand : Nat
  exponent : Int
deriving DecidableEq, Repr

/-- The quotient rounded to the nearest integer, a half to the even neighbour. -/
def roundHalfEven (num den : Nat) : Nat :=
  let q := num / den
  let r := num % den
  if 2 * r < den then q
  else if den < 2 * r then q + 1
  else if q % 2 = 0 then q else q + 1

/-- The quotient `num / den` divided by `2 ^ e`, again as a quotient. -/
def overPowerOfTwo (num den : Nat) : Int → Nat × Nat
  | .ofNat e => (num, den * Nat.pow 2 e)
  | .negSucc e => (num * Nat.pow 2 (e + 1), den)

namespace Magnitude

def zero : Magnitude := ⟨0, -1074⟩

/-- The exact value as a quotient. -/
def toRatio (m : Magnitude) : Nat × Nat :=
  match m.exponent with
  | .ofNat e => (m.significand * Nat.pow 2 e, 1)
  | .negSucc e => (m.significand, Nat.pow 2 (e + 1))

/-- The nearest magnitude to `num / den`; `none` above the largest. -/
def ofRatio (num den : Nat) : Option Magnitude :=
  if num = 0 then some zero
  else
    let q : Int := (num.log2 : Int) - den.log2
    let low : Int := max (q - 53) (-1074)
    let (n, d) := overPowerOfTwo num den low
    let e := if Nat.pow 2 53 ≤ n / d then low + 1 else low
    let (n, d) := overPowerOfTwo num den e
    let s := roundHalfEven n d
    let (s, e) := if s = Nat.pow 2 53 then (Nat.pow 2 52, e + 1) else (s, e)
    if 971 < e then none else some ⟨s, e⟩

/-- The magnitude nearest to `10 ^ k`, for the powers that have one. -/
def powerOfTen (k : Nat) : Magnitude := (ofRatio (Nat.pow 10 k) 1).getD zero

def mul? (a b : Magnitude) : Option Magnitude :=
  let (n, d) := a.toRatio
  let (n', d') := b.toRatio
  ofRatio (n * n') (d * d')

def div? (a b : Magnitude) : Option Magnitude :=
  let (n, d) := a.toRatio
  let (n', d') := b.toRatio
  ofRatio (n * d') (d * n')

/-- Divide by `10 ^ k`, at most `10 ^ 308` at a time. -/
def shrink (m : Magnitude) (k : Nat) : Option Magnitude :=
  if _h : k ≤ 308 then m.div? (powerOfTen k)
  else if m.significand = 0 then some m
  else (m.div? (powerOfTen 308)).bind fun m' => shrink m' (k - 308)
termination_by k

/-- The magnitude of `significand * 10 ^ power`; `none` above the largest. -/
def ofScientific (significand : Nat) (power : Int) : Option Magnitude := do
  let m ← ofRatio significand 1
  match power with
  | .ofNat k =>
    if k ≤ 308 then m.mul? (powerOfTen k)
    else if m.significand = 0 then some m else none
  | .negSucc k => m.shrink (k + 1)

end Magnitude

end NodeAudit.Decimal
