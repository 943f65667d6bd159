import NodeAudit.Decimal.Digits

/-!
# Spans of time

A span is a number of seconds below `2 ^ 64` and of nanoseconds below `10 ^ 9`. Sums carry from the
nanoseconds into the seconds and have no value beyond the largest span (`add?`); a division carries
the remainder of the seconds into the nanoseconds (`div`). Main statements, through the view
`toNanos`: `toNanos_eq_of_add?`, `add?_eq_none_iff` and `toNanos_div`.
-/

namespace NodeAudit

/-- How many nanoseconds a second has. -/
def nanosPerSecond : Nat := 1000000000

/-- A span of time. -/
@[ext] structure Span where
  seconds : Nat
  nanos : Nat
  seconds_lt : seconds < 18446744073709551616 := by omega
  nanos_lt : nanos < 1000000000 := by omega
deriving DecidableEq, Repr

namespace Span

/-- No time. -/
def zero : Span := ⟨0, 0, by decide, by decide⟩

instance : Inhabited Span := ⟨zero⟩

/-- The largest span. -/
def largest : Span := ⟨18446744073709551615, 999999999, by decide, by decide⟩

/-- The span of so many seconds and nanoseconds, where the nanoseconds may exceed a second; `none`
beyond the largest span. -/
def ofParts? (seconds nanos : Nat) : Option Span :=
  if h : seconds + nanos / 1000000000 < 18446744073709551616 then
    some ⟨seconds + nanos / 1000000000, nanos % 1000000000, h, Nat.mod_lt _ (by decide)⟩
  else none

/-- A span of milliseconds. -/
def ofMillis (n : UInt32) : Span where
  seconds := n.toNat / 1000
  nanos := n.toNat % 1000 * 1000000
  seconds_lt := by have := n.toNat_lt; omega

/-- A span of whole seconds. -/
def ofSeconds (n : UInt64) : Span where
  seconds := n.toNat
  nanos := 0
  seconds_lt := n.toNat_lt

/-- The whole span in nanoseconds. -/
def toNanos (t : Span) : Nat := t.seconds * nanosPerSecond + t.nanos

/-- The whole milliseconds of the span. -/
def toMillis (t : Span) : Nat := t.seconds * 1000 + t.nanos / 1000000

/-- The sum of two spans, `none` beyond the largest span. -/
def add? (a b : Span) : Option Span :=
  if h : a.nanos + b.nanos < 1000000000 then
    if hs : a.seconds + b.seconds < 18446744073709551616 then
      some ⟨a.seconds + b.seconds, a.nanos + b.nanos, hs, h⟩
    else none
  else
    if hs : a.seconds + b.seconds + 1 < 18446744073709551616 then
      some ⟨a.seconds + b.seconds + 1, a.nanos + b.nanos - 1000000000, hs,
        by have := a.nanos_lt; have := b.nanos_lt; omega⟩
    else none

theorem carry_lt {seconds nanos n : Nat} (hn : 0 < n) (h : nanos < 1000000000) :
    nanos / n + (seconds % n * 1000000000 + nanos % n) / n < 1000000000 := by
  have hmod : seconds % n ≤ n - 1 := by have := Nat.mod_lt seconds hn; omega
  have hsplit : nanos / n + (seconds % n * 1000000000 + nanos % n) / n
      = (seconds % n * 1000000000 + nanos) / n := by
    have h1 : seconds % n * 1000000000 + nanos
        = (seconds % n * 1000000000 + nanos % n) + n * (nanos / n) := by
      have := Nat.mod_add_div nanos n; omega
    rw [h1, Nat.add_mul_div_left _ _ hn]; omega
  rw [hsplit, Nat.div_lt_iff_lt_mul hn]
  have h2 : seconds % n * 1000000000 ≤ (n - 1) * 1000000000 := Nat.mul_le_mul_right _ hmod
  have h3 : (n - 1) * 1000000000 + 1000000000 = 1000000000 * n := by
    rw [Nat.mul_comm (n - 1), ← Nat.mul_succ]; congr 1; omega
  omega

/-- The `n`th part of a span, rounded down to a nanosecond. -/
def div (t : Span) (n : Nat) (hn : 0 < n) : Span where
  seconds := t.seconds / n
  nanos := t.nanos / n + (t.seconds % n * 1000000000 + t.nanos % n) / n
  seconds_lt := Nat.lt_of_le_of_lt (Nat.div_le_self _ _) t.seconds_lt
  nanos_lt := carry_lt hn t.nanos_lt

/-! ## The view as nanoseconds -/

theorem toNanos_injective {a b : Span} (h : a.toNanos = b.toNanos) : a = b := by
  have ha := a.nanos_lt
  have hb := b.nanos_lt
  simp only [toNanos, nanosPerSecond] at h
  ext <;> omega

theorem toNanos_eq_of_add? {a b c : Span} (h : a.add? b = some c) :
    c.toNanos = a.toNanos + b.toNanos := by
  simp only [add?] at h
  split at h <;> split at h <;> first | (obtain rfl := Option.some.inj h) | simp at h
  all_goals simp only [toNanos, nanosPerSecond]; omega

theorem toNanos_zero : zero.toNanos = 0 := by decide

theorem toNanos_le_largest (t : Span) : t.toNanos ≤ largest.toNanos := by
  have hs := t.seconds_lt
  have hn := t.nanos_lt
  simp only [toNanos, largest, nanosPerSecond]
  omega

theorem add?_eq_none_iff {a b : Span} :
    a.add? b = none ↔ largest.toNanos < a.toNanos + b.toNanos := by
  have ha := a.nanos_lt
  have hb := b.nanos_lt
  simp only [add?, largest, toNanos, nanosPerSecond]
  split <;> split <;> simp <;> omega

theorem toNanos_div (t : Span) {n : Nat} (hn : 0 < n) : (t.div n hn).toNanos = t.toNanos / n := by
  have key : ∀ s m k : Nat,
      s / n * k + (m / n + (s % n * k + m % n) / n) = (s * k + m) / n := by
    intro s m k
    have h1 : s * k + m = (s % n * k + m % n) + n * (s / n * k + m / n) := by
      have hs : s * k = s % n * k + n * (s / n * k) := by
        rw [← Nat.mul_assoc, ← Nat.add_mul, Nat.mod_add_div]
      have hm := Nat.mod_add_div m n
      rw [Nat.mul_add]; omega
    rw [h1, Nat.add_mul_div_left _ _ hn]; omega
  exact key _ _ _

/-! ## Text -/

/-- The digits of a fraction in `places` places, without the zeros at its end. -/
def fractionDigits (places fraction : Nat) : List Char :=
  let ds := Decimal.digits 10 fraction
  let padded := List.replicate (places - ds.length) '0' ++ ds
  (padded.reverse.dropWhile (· == '0')).reverse

/-- A whole number and a fraction in `places` places. -/
def decimalText (whole places fraction : Nat) : String :=
  if fraction = 0 then Decimal.ofNat whole
  else Decimal.ofNat whole ++ "." ++ String.ofList (fractionDigits places fraction)

/-- The exact span in the largest unit that does not exceed it. -/
def text (t : Span) : String :=
  if 0 < t.seconds then decimalText t.seconds 9 t.nanos ++ "s"
  else if 1000000 ≤ t.nanos then decimalText (t.nanos / 1000000) 6 (t.nanos % 1000000) ++ "ms"
  else if 1000 ≤ t.nanos then decimalText (t.nanos / 1000) 3 (t.nanos % 1000) ++ "µs"
  else decimalText t.nanos 0 0 ++ "ns"

/-- The whole milliseconds of the span, with their unit. -/
def millisText (t : Span) : String := Decimal.ofNat t.toMillis ++ "ms"

end Span

end NodeAudit
