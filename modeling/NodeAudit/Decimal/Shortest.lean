import NodeAudit.Decimal.Digits
import NodeAudit.Decimal.Magnitude

/-!
# Shortest decimal text of a double

`Magnitude.shortest` gives the fewest decimal digits that read back as the magnitude, of several
the nearest. It looks at the two neighbours of the value on the grid of each power of ten, coarsest
grid first, and takes the first that lies in the interval of reals that round to the magnitude.
-/

namespace NodeAudit.Decimal.Magnitude

/-- The interval of reals that round to a magnitude, as numerators over one denominator. -/
structure Interval where
  low : Nat
  value : Nat
  high : Nat
  den : Nat
  /-- Whether the ends round to the magnitude too. -/
  closed : Bool

/-- Half way to either neighbour; below a power of two the neighbour is half as far. -/
def interval (m : Magnitude) : Interval :=
  let (n, d) := (⟨1, m.exponent⟩ : Magnitude).toRatio
  let s := m.significand
  let below := if s = Nat.pow 2 52 ∧ -1074 < m.exponent then 1 else 2
  { low := (4 * s - below) * n, value := 4 * s * n, high := (4 * s + 2) * n, den := 4 * d,
    closed := s % 2 = 0 }

/-- Whether `digits * 10 ^ power` lies in the interval. -/
def Interval.holds (i : Interval) (digits : Nat) (power : Int) : Bool :=
  let (n, d) := match power with
    | .ofNat k => (digits * Nat.pow 10 k * i.den, 1)
    | .negSucc k => (digits * i.den, Nat.pow 10 (k + 1))
  if i.closed then i.low * d ≤ n && n ≤ i.high * d else i.low * d < n && n < i.high * d

/-- The nearest point of the grid `10 ^ power` that lies in the interval. -/
def Interval.onGrid (i : Interval) (power : Int) : Option Nat :=
  let (n, d) := match power with
    | .ofNat k => (i.value, i.den * Nat.pow 10 k)
    | .negSucc k => (i.value * Nat.pow 10 (k + 1), i.den)
  let below := n / d
  let nearest := roundHalfEven n d
  let other := if nearest = below then below + 1 else below
  if i.holds nearest power then some nearest
  else if i.holds other power then some other else none

/-- Try the grids from `10 ^ power` downwards. -/
def Interval.search (i : Interval) (power : Int) : Nat → Option (Nat × Int)
  | 0 => none
  | tries + 1 =>
    match i.onGrid power with
    | some n => some (n, power)
    | none => i.search (power - 1) tries

/-- Digits and power of ten of the shortest text; a double needs at most seventeen digits. -/
def shortest (m : Magnitude) : Nat × Int :=
  let i := m.interval
  let whole := i.value / i.den
  let start : Int :=
    if whole = 0 then -((digits 10 (i.den / i.value)).length : Int) + 1
    else (digits 10 whole).length
  (i.search start 20).getD (0, 0)

end NodeAudit.Decimal.Magnitude
