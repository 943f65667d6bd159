import NodeAudit.Decimal.Shortest
import NodeAudit.Proofs.Decimal.Magnitude
import NodeAudit.Proofs.Json.Token

/-!
# How large the shortest text is

What the search for the shortest text finds lies in the interval of reals that round to the
magnitude (`holds_of_search`), so that its value is at most half a unit of the last place above the
magnitude (`shortest_le`).
-/

namespace NodeAudit.Decimal

theorem length_digits {n k : Nat} (hlow : 10 ^ k ≤ n) (hhigh : n < 10 ^ (k + 1)) :
    (digits 10 n).length = k + 1 := by
  induction k generalizing n with
  | zero => rw [digits_of_lt (by simpa using hhigh), List.length_singleton]
  | succ k ih =>
    have hten : 10 ^ (k + 1) = 10 ^ k * 10 := Nat.pow_succ _ _
    have hten' : 10 ^ (k + 1 + 1) = 10 ^ (k + 1) * 10 := Nat.pow_succ _ _
    have hpos : 0 < 10 ^ k := Nat.pow_pos (by decide)
    rw [digits_of_ge (by omega), List.length_append, ih (by omega) (by omega),
      List.length_singleton]

namespace Magnitude

namespace Interval

variable {i : Interval} {n : Nat} {power : Int}

theorem le_of_holds (hden : 0 < i.den) (h : i.holds n power = true) :
    (n : ℚ) * 10 ^ power ≤ i.high / i.den := by
  have hd : (0 : ℚ) < i.den := Nat.cast_pos.2 hden
  rw [le_div_iff₀ hd]
  cases power with
  | ofNat k =>
    have hle : n * Nat.pow 10 k * i.den ≤ i.high * 1 := by
      simp only [holds] at h
      split_ifs at h <;> simp only [Bool.and_eq_true, decide_eq_true_eq] at h <;> omega
    have hcast : ((n * Nat.pow 10 k * i.den : Nat) : ℚ) ≤ (i.high * 1 : Nat) := Nat.cast_le.2 hle
    simpa using hcast
  | negSucc k =>
    have hle : n * i.den ≤ i.high * Nat.pow 10 (k + 1) := by
      simp only [holds] at h
      split_ifs at h <;> simp only [Bool.and_eq_true, decide_eq_true_eq] at h <;> omega
    have hcast : ((n * i.den : Nat) : ℚ) ≤ (i.high * Nat.pow 10 (k + 1) : Nat) :=
      Nat.cast_le.2 hle
    have hten : (0 : ℚ) < 10 ^ (k + 1) := by positivity
    rw [zpow_negSucc, mul_right_comm, ← div_eq_mul_inv, div_le_iff₀ hten]
    simpa using hcast

theorem ne_zero_of_holds (hlow : 0 < i.low) (h : i.holds n power = true) : n ≠ 0 := by
  rintro rfl
  have hpow (k : Nat) : 0 < i.low * Nat.pow 10 (k + 1) := Nat.mul_pos hlow (Nat.pow_pos (by decide))
  cases power with
  | ofNat k =>
    simp only [holds] at h
    split_ifs at h <;> simp only [Bool.and_eq_true, decide_eq_true_eq] at h <;> omega
  | negSucc k =>
    have hpos := hpow k
    simp only [holds] at h
    split_ifs at h <;> simp only [Bool.and_eq_true, decide_eq_true_eq] at h <;> omega

theorem holds_of_onGrid (h : i.onGrid power = some n) : i.holds n power = true := by
  simp only [onGrid] at h
  split_ifs at h with hnearest hother hother
  all_goals
    obtain rfl := Option.some.inj h
    assumption

theorem holds_of_search {tries : Nat} {start : Int} (h : i.search start tries = some (n, power)) :
    i.holds n power = true := by
  induction tries generalizing start with
  | zero => cases h
  | succ tries ih =>
    rw [search] at h
    split at h
    · rename_i n' hn
      obtain ⟨rfl, rfl⟩ := Prod.mk.inj (Option.some.inj h)
      exact holds_of_onGrid hn
    · exact ih h

end Interval

theorem high_interval (m : Magnitude) :
    0 < m.interval.den ∧
      (m.interval.high / m.interval.den : ℚ) = (m.significand + 1 / 2) * 2 ^ m.exponent := by
  obtain ⟨hd, hratio⟩ := toRatio_spec ⟨1, m.exponent⟩
  rw [toRat, Nat.cast_one, one_mul] at hratio
  refine ⟨Nat.mul_pos (by decide) hd, ?_⟩
  rw [← hratio]
  simp only [interval]
  push_cast
  ring

/-- The shortest text lies in the interval, if anything was found. -/
theorem shortest_cases (m : Magnitude) :
    m.shortest = (0, 0) ∨ m.interval.holds m.shortest.1 m.shortest.2 = true := by
  have hshortest : ∃ start, m.shortest = (m.interval.search start 20).getD (0, 0) := ⟨_, rfl⟩
  obtain ⟨start, hstart⟩ := hshortest
  rw [hstart]
  cases hsearch : m.interval.search start 20 with
  | none => exact .inl rfl
  | some p => exact .inr (Interval.holds_of_search hsearch)

theorem shortest_le (m : Magnitude) :
    (m.shortest.1 : ℚ) * 10 ^ m.shortest.2 ≤ (m.significand + 1 / 2) * 2 ^ m.exponent := by
  obtain ⟨hden, hhigh⟩ := m.high_interval
  rcases m.shortest_cases with hnone | hholds
  · rw [hnone, Nat.cast_zero, zero_mul]
    positivity
  · exact hhigh ▸ Interval.le_of_holds hden hholds

/-- Of a magnitude above one the search begins with a grid that is too coarse by one digit. -/
theorem shortest_eq_search {m : Magnitude} {k : Nat}
    (hlow : 10 ^ k ≤ m.interval.value / m.interval.den)
    (hhigh : m.interval.value / m.interval.den < 10 ^ (k + 1)) :
    m.shortest = (m.interval.search (k + 1 : Nat) 20).getD (0, 0) := by
  have hpos : m.interval.value / m.interval.den ≠ 0 :=
    (Nat.lt_of_lt_of_le (Nat.pow_pos (by decide)) hlow).ne'
  rw [shortest, if_neg hpos, length_digits hlow hhigh]

theorem low_interval {m : Magnitude} (h : m.significand ≠ 0) : 0 < m.interval.low := by
  have hn : 0 < (⟨1, m.exponent⟩ : Magnitude).toRatio.1 := by
    unfold toRatio
    split
    · exact Nat.mul_pos Nat.one_pos (Nat.pow_pos (by decide))
    · exact Nat.one_pos
  refine Nat.mul_pos ?_ hn
  split_ifs <;> omega

theorem shortest_of_eq_zero {m : Magnitude} (h : m.significand ≠ 0) (hz : m.shortest.1 = 0) :
    m.shortest.2 = 0 := by
  rcases m.shortest_cases with hnone | hholds
  · rw [hnone]
  · exact absurd hz (Interval.ne_zero_of_holds (low_interval h) hholds)

end Magnitude

end NodeAudit.Decimal
