import Mathlib.Algebra.Order.Field.Power
import Mathlib.Data.Rat.Cast.Order
import Mathlib.Tactic.FieldSimp
import Mathlib.Tactic.Linarith
import Mathlib.Tactic.NormNum
import Mathlib.Tactic.Positivity
import Mathlib.Tactic.Ring
import NodeAudit.Decimal.Magnitude

/-!
# How far rounding goes

A quotient is rounded on a grid of powers of two (`gridOf_spec`) by at most half a step of it, which
is at most `epsilon` of the quotient if that is no less than one (`abs_toRat_sub_le`); and a
quotient below `limit` has a magnitude (`exists_ofRatio`). A significand is multiplied with a power
of ten, or divided by powers of ten, and each step rounds once more.

Main statement: `exists_ofScientific`.
-/

namespace NodeAudit.Decimal

theorem roundHalfEven_spec (num : Nat) {den : Nat} (hden : 0 < den) :
    2 * den * roundHalfEven num den ≤ 2 * num + den ∧
      2 * num ≤ 2 * den * roundHalfEven num den + den := by
  have hdiv := Nat.div_add_mod num den
  have hmod := Nat.mod_lt num hden
  have hq : 2 * den * (num / den) = 2 * (den * (num / den)) := Nat.mul_assoc _ _ _
  have hq' : 2 * den * (num / den + 1) = 2 * (den * (num / den)) + 2 * den := by ring
  unfold roundHalfEven
  dsimp only
  split_ifs <;> constructor <;> omega

theorem abs_roundHalfEven_sub_le (num : Nat) {den : Nat} (hden : 0 < den) :
    |(roundHalfEven num den : ℚ) - num / den| ≤ 1 / 2 := by
  obtain ⟨hupper, hlower⟩ := roundHalfEven_spec num hden
  have hd : (0 : ℚ) < den := Nat.cast_pos.2 hden
  have hupper : (2 * den * roundHalfEven num den : ℚ) ≤ 2 * num + den := by exact_mod_cast hupper
  have hlower : (2 * num : ℚ) ≤ 2 * den * roundHalfEven num den + den := by exact_mod_cast hlower
  have hdiv : (num : ℚ) / den * den = num := div_mul_cancel₀ _ hd.ne'
  rw [abs_le]
  constructor
  · by_contra! h
    nlinarith
  · by_contra! h
    nlinarith

theorem overPowerOfTwo_spec (num : Nat) {den : Nat} (hden : 0 < den) (e : Int) :
    0 < (overPowerOfTwo num den e).2 ∧
      ((overPowerOfTwo num den e).1 : ℚ) / (overPowerOfTwo num den e).2
        = num / den / 2 ^ e := by
  cases e with
  | ofNat e =>
    refine ⟨Nat.mul_pos hden (Nat.pow_pos (by decide)), ?_⟩
    simp [overPowerOfTwo, div_div]
  | negSucc e =>
    refine ⟨hden, ?_⟩
    simp [overPowerOfTwo, zpow_negSucc]
    ring

namespace Magnitude

/-- The value of a magnitude. -/
def toRat (m : Magnitude) : ℚ := m.significand * 2 ^ m.exponent

/-- The magnitude of a finite double. -/
structure IsFinite (m : Magnitude) : Prop where
  significand_lt : m.significand < 2 ^ 53
  le_exponent : -1074 ≤ m.exponent
  exponent_le : m.exponent ≤ 971

/-- The least value that rounds to no magnitude: half way from the largest to the next power of
two. -/
def limit : ℚ := (2 ^ 53 - 1 / 2) * 2 ^ (971 : Int)

/-- The greatest relative error of a rounding. -/
def epsilon : ℚ := 1 / 2 ^ 53

theorem ratio_bounds {num den : Nat} (hnum : num ≠ 0) (hden : den ≠ 0) :
    (2 : ℚ) ^ ((num.log2 : Int) - den.log2 - 1) < num / den ∧
      (num / den : ℚ) < 2 ^ ((num.log2 : Int) - den.log2 + 1) := by
  have hn : (2 : ℚ) ^ (num.log2 : Int) ≤ num := by exact_mod_cast Nat.log2_self_le hnum
  have hn' : (num : ℚ) < 2 ^ (num.log2 + 1 : Int) := by
    exact_mod_cast (Nat.lt_log2_self : num < 2 ^ (num.log2 + 1))
  have hd : (2 : ℚ) ^ (den.log2 : Int) ≤ den := by exact_mod_cast Nat.log2_self_le hden
  have hd' : (den : ℚ) < 2 ^ (den.log2 + 1 : Int) := by
    exact_mod_cast (Nat.lt_log2_self : den < 2 ^ (den.log2 + 1))
  have hpos : (0 : ℚ) < den := Nat.cast_pos.2 (Nat.pos_of_ne_zero hden)
  have htwo : (2 : ℚ) ≠ 0 := two_ne_zero
  constructor
  · rw [lt_div_iff₀ hpos]
    calc (2 : ℚ) ^ ((num.log2 : Int) - den.log2 - 1) * den
        < 2 ^ ((num.log2 : Int) - den.log2 - 1) * 2 ^ (den.log2 + 1 : Int) := by gcongr
      _ = 2 ^ (num.log2 : Int) := by rw [← zpow_add₀ htwo]; congr 1; ring
      _ ≤ num := hn
  · rw [div_lt_iff₀ hpos]
    calc (num : ℚ) < 2 ^ (num.log2 + 1 : Int) := hn'
      _ = 2 ^ ((num.log2 : Int) - den.log2 + 1) * 2 ^ (den.log2 : Int) := by
        rw [← zpow_add₀ htwo]; congr 1; ring
      _ ≤ 2 ^ ((num.log2 : Int) - den.log2 + 1) * den := by gcongr

/-- The exponent on whose grid a quotient is rounded. -/
def gridOf (num den : Nat) : Int :=
  let low : Int := max ((num.log2 : Int) - den.log2 - 53) (-1074)
  let (n, d) := overPowerOfTwo num den low
  if Nat.pow 2 53 ≤ n / d then low + 1 else low

theorem gridOf_spec {num den : Nat} (hnum : num ≠ 0) (hden : den ≠ 0) :
    -1074 ≤ gridOf num den ∧ (num / den / 2 ^ gridOf num den : ℚ) < 2 ^ 53 ∧
      ((2 : ℚ) ^ 52 ≤ num / den / 2 ^ gridOf num den ∨ gridOf num den = -1074) := by
  obtain ⟨hlower, hupper⟩ := ratio_bounds hnum hden
  have hlog : ∃ low : Int, low = max ((num.log2 : Int) - den.log2 - 53) (-1074) := ⟨_, rfl⟩
  obtain ⟨low, hlow⟩ := hlog
  obtain ⟨hd, hratio⟩ := overPowerOfTwo_spec num (Nat.pos_of_ne_zero hden) low
  have hcut : Nat.pow 2 53 ≤ (overPowerOfTwo num den low).1 / (overPowerOfTwo num den low).2
      ↔ (2 : ℚ) ^ 53 ≤ num / den / 2 ^ low := by
    rw [← hratio, Nat.le_div_iff_mul_le hd, le_div_iff₀ (Nat.cast_pos.2 hd)]
    exact_mod_cast Iff.rfl
  have hgrid : gridOf num den = if (2 : ℚ) ^ 53 ≤ num / den / 2 ^ low then low + 1 else low := by
    simp only [gridOf, ← hlow, hcut]
  have hhalf : (num / den / 2 ^ (low + 1) : ℚ) = num / den / 2 ^ low / 2 := by
    rw [zpow_add_one₀ two_ne_zero, div_div, div_div, div_div]
  have hlow' : (num / den / 2 ^ low : ℚ) < 2 ^ 54 := by
    rw [div_lt_iff₀ (by positivity)]
    calc (num / den : ℚ) < 2 ^ ((num.log2 : Int) - den.log2 + 1) := hupper
      _ ≤ 2 ^ (54 + low) := zpow_le_zpow_right₀ one_le_two (by omega)
      _ = 2 ^ 54 * 2 ^ low := by rw [zpow_add₀ two_ne_zero]; rfl
  rw [hgrid]
  split_ifs with h
  · rw [hhalf]
    exact ⟨by omega, by linarith, .inl (by linarith)⟩
  · refine ⟨by omega, not_le.1 h, ?_⟩
    by_cases hmin : low = -1074
    · exact .inr hmin
    · left
      rw [le_div_iff₀ (by positivity)]
      calc (2 : ℚ) ^ 52 * 2 ^ low = 2 ^ (52 + low) := by rw [zpow_add₀ two_ne_zero]; rfl
        _ ≤ 2 ^ ((num.log2 : Int) - den.log2 - 1) := zpow_le_zpow_right₀ one_le_two (by omega)
        _ ≤ num / den := hlower.le

/-- The multiple of the grid to which a quotient is rounded. -/
def multipleOf (num den : Nat) : Nat :=
  let (n, d) := overPowerOfTwo num den (gridOf num den)
  roundHalfEven n d

/-- The rounded quotient before it is told whether it is too large. -/
def rounded (num den : Nat) : Magnitude :=
  if multipleOf num den = 2 ^ 53 then ⟨2 ^ 52, gridOf num den + 1⟩
  else ⟨multipleOf num den, gridOf num den⟩

theorem ofRatio_eq {num den : Nat} (hnum : num ≠ 0) :
    ofRatio num den =
      if 971 < (rounded num den).exponent then none else some (rounded num den) := by
  have hof : ofRatio num den =
      (let p := if multipleOf num den = 2 ^ 53 then (2 ^ 52, gridOf num den + 1)
          else (multipleOf num den, gridOf num den)
       if 971 < p.2 then none else some ⟨p.1, p.2⟩) := by
    rw [ofRatio, if_neg hnum]
    rfl
  rw [hof, rounded]
  by_cases h : multipleOf num den = 2 ^ 53
  · simp only [if_pos h]
  · simp only [if_neg h]

section
variable {num den : Nat}

theorem abs_multipleOf_sub_le (num : Nat) (hden : den ≠ 0) :
    |(multipleOf num den : ℚ) - num / den / 2 ^ gridOf num den| ≤ 1 / 2 := by
  obtain ⟨hd, hratio⟩ :=
    overPowerOfTwo_spec num (Nat.pos_of_ne_zero hden) (gridOf num den)
  have hround := abs_roundHalfEven_sub_le (overPowerOfTwo num den (gridOf num den)).1 hd
  rwa [hratio] at hround

theorem multipleOf_le (hnum : num ≠ 0) (hden : den ≠ 0) : multipleOf num den ≤ 2 ^ 53 := by
  obtain ⟨-, hupper, -⟩ := gridOf_spec hnum hden
  have hround := (abs_le.1 (abs_multipleOf_sub_le num hden)).2
  have hlt : (multipleOf num den : ℚ) < (2 ^ 53 + 1 : Nat) := by
    push_cast
    linarith
  exact Nat.lt_succ_iff.1 (Nat.cast_lt.1 hlt)

theorem toRat_rounded (num den : Nat) :
    (rounded num den).toRat = multipleOf num den * 2 ^ gridOf num den := by
  rw [rounded]
  split_ifs with h
  · rw [toRat, h, zpow_add_one₀ two_ne_zero]
    push_cast
    ring
  · rfl

theorem rounded_bounds (hnum : num ≠ 0) (hden : den ≠ 0) :
    (rounded num den).significand < 2 ^ 53 ∧ -1074 ≤ (rounded num den).exponent := by
  obtain ⟨hmin, -, -⟩ := gridOf_spec hnum hden
  have hle := multipleOf_le hnum hden
  rw [rounded]
  split_ifs with h
  · exact ⟨by norm_num, by dsimp only; omega⟩
  · exact ⟨by dsimp only; omega, hmin⟩

/-- A quotient of at least one is rounded with a small relative error. -/
theorem abs_toRat_rounded_sub_le (hnum : num ≠ 0) (hden : den ≠ 0) (hone : 1 ≤ (num / den : ℚ)) :
    |(rounded num den).toRat - num / den| ≤ num / den * epsilon := by
  obtain ⟨-, -, hlower⟩ := gridOf_spec hnum hden
  have hround := abs_multipleOf_sub_le num hden
  rw [toRat_rounded]
  generalize gridOf num den = e at *
  have hpow : (0 : ℚ) < 2 ^ e := by positivity
  have hscaled : (num / den / 2 ^ e : ℚ) * 2 ^ e = num / den := div_mul_cancel₀ _ hpow.ne'
  have hulp : (1 / 2 : ℚ) * 2 ^ e ≤ num / den * epsilon := by
    rcases hlower with hlower | hlower
    · calc (1 / 2 : ℚ) * 2 ^ e = 2 ^ 52 * 2 ^ e * epsilon := by rw [epsilon]; ring
        _ ≤ num / den / 2 ^ e * 2 ^ e * epsilon := by gcongr; norm_num [epsilon]
        _ = num / den * epsilon := by rw [hscaled]
    · calc (1 / 2 : ℚ) * 2 ^ e ≤ 1 * 2 ^ (-53 : Int) := by
            gcongr
            · norm_num
            · norm_num
            · omega
        _ = 1 * epsilon := by norm_num [epsilon]
        _ ≤ num / den * epsilon := by gcongr; norm_num [epsilon]
  calc |(multipleOf num den : ℚ) * 2 ^ e - num / den|
      = |(multipleOf num den : ℚ) - num / den / 2 ^ e| * 2 ^ e := by
        rw [← abs_of_pos hpow, ← abs_mul, abs_of_pos hpow, sub_mul, hscaled]
    _ ≤ 1 / 2 * 2 ^ e := by gcongr
    _ ≤ num / den * epsilon := hulp

/-- A quotient that is rounded beyond the largest magnitude is no less than the limit. -/
theorem limit_le_of_rounded (hnum : num ≠ 0) (hden : den ≠ 0)
    (he : 971 < (rounded num den).exponent) : limit ≤ num / den := by
  obtain ⟨-, -, hlower⟩ := gridOf_spec hnum hden
  have hround := (abs_le.1 (abs_multipleOf_sub_le num hden)).2
  rw [rounded] at he
  have hpow : (0 : ℚ) < 2 ^ gridOf num den := by positivity
  rw [← div_mul_cancel₀ (num / den : ℚ) hpow.ne', limit]
  split_ifs at he with htop <;> dsimp only at he
  · have hgrid : (2 : ℚ) ^ (971 : Int) ≤ 2 ^ gridOf num den :=
      zpow_le_zpow_right₀ one_le_two (by omega)
    rw [htop] at hround
    push_cast at hround
    calc ((2 ^ 53 - 1 / 2) * 2 ^ (971 : Int) : ℚ)
        ≤ num / den / 2 ^ gridOf num den * 2 ^ (971 : Int) := by gcongr; linarith
      _ ≤ num / den / 2 ^ gridOf num den * 2 ^ gridOf num den := by gcongr
  · have hgrid : (2 : ℚ) ^ (971 + 1 : Int) ≤ 2 ^ gridOf num den :=
      zpow_le_zpow_right₀ one_le_two (by omega)
    have hnormal := hlower.resolve_right (by omega)
    calc ((2 ^ 53 - 1 / 2) * 2 ^ (971 : Int) : ℚ) ≤ 2 ^ 53 * 2 ^ (971 : Int) := by
          gcongr
          norm_num
      _ = 2 ^ 52 * 2 ^ (971 + 1 : Int) := by rw [zpow_add_one₀ two_ne_zero]; ring
      _ ≤ num / den / 2 ^ gridOf num den * 2 ^ gridOf num den := by gcongr

theorem exists_ofRatio (hden : den ≠ 0) (h : (num / den : ℚ) < limit) :
    ∃ m, ofRatio num den = some m ∧ m.IsFinite := by
  rcases eq_or_ne num 0 with rfl | hnum
  · exact ⟨zero, rfl, by decide, by decide, by decide⟩
  · have he : ¬ 971 < (rounded num den).exponent :=
      fun he => absurd (limit_le_of_rounded hnum hden he) (not_le.2 h)
    obtain ⟨hs, hmin⟩ := rounded_bounds hnum hden
    exact ⟨rounded num den, by rw [ofRatio_eq hnum, if_neg he], hs, hmin, not_lt.1 he⟩

theorem abs_toRat_sub_le {m : Magnitude} (hden : den ≠ 0) (hone : 1 ≤ (num / den : ℚ))
    (h : ofRatio num den = some m) : |m.toRat - num / den| ≤ num / den * epsilon := by
  have hnum : num ≠ 0 := by
    rintro rfl
    norm_num at hone
  rw [ofRatio_eq hnum] at h
  split_ifs at h
  obtain rfl := Option.some.inj h
  exact abs_toRat_rounded_sub_le hnum hden hone

end

/-! ## Products and quotients -/

theorem toRatio_spec (m : Magnitude) :
    0 < m.toRatio.2 ∧ (m.toRatio.1 / m.toRatio.2 : ℚ) = m.toRat := by
  obtain ⟨s, e⟩ := m
  cases e with
  | ofNat e => exact ⟨Nat.one_pos, by simp [toRatio, toRat]⟩
  | negSucc e =>
    refine ⟨Nat.pow_pos (by decide), ?_⟩
    simp [toRatio, toRat, zpow_negSucc, div_eq_mul_inv]

section
variable {a b : Magnitude}

theorem exists_mul? (h : a.toRat * b.toRat < limit) : ∃ m, a.mul? b = some m ∧ m.IsFinite := by
  obtain ⟨hd, hratio⟩ := a.toRatio_spec
  obtain ⟨hd', hratio'⟩ := b.toRatio_spec
  refine exists_ofRatio (Nat.mul_pos hd hd').ne' ?_
  rw [← hratio, ← hratio', div_mul_div_comm] at h
  exact_mod_cast h

theorem IsFinite.toRat_lt (h : a.IsFinite) : a.toRat < limit := by
  have hs : (a.significand : ℚ) ≤ (2 ^ 53 - 1 : Nat) :=
    Nat.cast_le.2 (Nat.le_sub_one_of_lt h.significand_lt)
  calc a.toRat ≤ (2 ^ 53 - 1 : Nat) * 2 ^ (971 : Int) := by
        rw [toRat]
        gcongr
        · exact one_le_two
        · exact h.exponent_le
    _ < limit := by
        rw [limit]
        gcongr
        norm_num

/-- Half a unit above a magnitude there is room for two roundings, but above the three largest. -/
theorem IsFinite.room_above (h : a.IsFinite)
    (hroom : a.exponent ≤ 970 ∨ a.significand ≤ 2 ^ 53 - 4) :
    (a.significand + 1 / 2) * 2 ^ a.exponent * (1 + epsilon) ^ 2 < limit := by
  rcases hroom with he | hs
  · have hs : (a.significand : ℚ) ≤ (2 ^ 53 - 1 : Nat) :=
      Nat.cast_le.2 (Nat.le_sub_one_of_lt h.significand_lt)
    have hp : (2 : ℚ) ^ a.exponent ≤ 2 ^ (970 : Int) := zpow_le_zpow_right₀ one_le_two he
    calc (a.significand + 1 / 2 : ℚ) * 2 ^ a.exponent * (1 + epsilon) ^ 2
        ≤ ((2 ^ 53 - 1 : Nat) + 1 / 2) * 2 ^ (970 : Int) * (1 + epsilon) ^ 2 := by
          gcongr
      _ < (((2 ^ 53 - 1 : Nat) + 1 / 2) * 2 ^ (970 : Int) * 2 : ℚ) := by
          gcongr
          norm_num [epsilon]
      _ = limit := by
          rw [mul_assoc, ← zpow_add_one₀ two_ne_zero, limit]
          norm_num
  · have hs' : (a.significand : ℚ) ≤ (2 ^ 53 - 4 : Nat) := Nat.cast_le.2 hs
    have hp : (2 : ℚ) ^ a.exponent ≤ 2 ^ (971 : Int) :=
      zpow_le_zpow_right₀ one_le_two h.exponent_le
    calc (a.significand + 1 / 2 : ℚ) * 2 ^ a.exponent * (1 + epsilon) ^ 2
        ≤ ((2 ^ 53 - 4 : Nat) + 1 / 2) * 2 ^ (971 : Int) * (1 + epsilon) ^ 2 := by
          gcongr
      _ = (((2 ^ 53 - 4 : Nat) + 1 / 2) * (1 + epsilon) ^ 2 * 2 ^ (971 : Int) : ℚ) := by
          ring
      _ < limit := by
          rw [limit]
          gcongr
          norm_num [epsilon]

/-- A finite magnitude stays one if it is divided by what is no less than one. -/
theorem exists_div? (ha : a.IsFinite) (hb : 1 ≤ b.toRat) :
    ∃ m, a.div? b = some m ∧ m.IsFinite := by
  obtain ⟨hd, hratio⟩ := a.toRatio_spec
  obtain ⟨hd', hratio'⟩ := b.toRatio_spec
  have hn' : b.toRatio.1 ≠ 0 := by
    intro hz
    rw [← hratio', hz] at hb
    norm_num at hb
  refine exists_ofRatio (Nat.mul_ne_zero hd.ne' hn') ?_
  have hnonneg : 0 ≤ a.toRat := by
    rw [toRat]
    positivity
  calc ((a.toRatio.1 * b.toRatio.2 : Nat) / (a.toRatio.2 * b.toRatio.1 : Nat) : ℚ)
      = a.toRat / b.toRat := by rw [← hratio, ← hratio', div_div_div_eq]; push_cast; rfl
    _ ≤ a.toRat := div_le_self hnonneg hb
    _ < limit := ha.toRat_lt

end

/-! ## Powers of ten -/

theorem limit_le : limit ≤ 10 ^ 309 := by
  have hpow : 2 ^ 1024 ≤ 10 ^ 309 := by decide +kernel
  have hcast : ((2 ^ 1024 : Nat) : ℚ) ≤ (10 ^ 309 : Nat) := Nat.cast_le.2 hpow
  rw [Nat.cast_pow, Nat.cast_pow] at hcast
  calc limit ≤ 2 ^ (53 : Int) * 2 ^ (971 : Int) := by
        rw [limit]
        gcongr
        norm_num
    _ = 2 ^ 1024 := by rw [← zpow_add₀ two_ne_zero]; exact zpow_ofNat 2 1024
    _ ≤ 10 ^ 309 := hcast

theorem lt_limit : 10 ^ 308 < limit := by
  have hpow : 10 ^ 308 ≤ (2 ^ 53 - 1) * 2 ^ 971 := by decide +kernel
  have hcast : ((10 ^ 308 : Nat) : ℚ) ≤ ((2 ^ 53 - 1) * 2 ^ 971 : Nat) := Nat.cast_le.2 hpow
  rw [Nat.cast_mul, Nat.cast_pow, Nat.cast_pow] at hcast
  calc (10 : ℚ) ^ 308 ≤ (2 ^ 53 - 1 : Nat) * 2 ^ 971 := hcast
    _ < limit := by
      rw [limit, zpow_ofNat]
      gcongr
      norm_num

theorem powerOfTen_spec {k : Nat} (hk : k ≤ 308) :
    |(powerOfTen k).toRat - 10 ^ k| ≤ 10 ^ k * epsilon := by
  have hvalue : ((Nat.pow 10 k : Nat) / (1 : Nat) : ℚ) = 10 ^ k := by simp
  have hlt : ((Nat.pow 10 k : Nat) / (1 : Nat) : ℚ) < limit :=
    hvalue ▸ (pow_le_pow_right₀ (by norm_num) hk).trans_lt lt_limit
  obtain ⟨m, hm, -⟩ := exists_ofRatio one_ne_zero hlt
  have hround := abs_toRat_sub_le one_ne_zero (hvalue ▸ one_le_pow₀ (by norm_num)) hm
  rw [hvalue] at hround
  rwa [powerOfTen, hm]

theorem one_le_toRat_powerOfTen {k : Nat} (hpos : 0 < k) (hk : k ≤ 308) :
    1 ≤ (powerOfTen k).toRat := by
  have hten : (10 : ℚ) ^ 1 ≤ 10 ^ k := pow_le_pow_right₀ (by norm_num) hpos
  have hround := (abs_le.1 (powerOfTen_spec hk)).1
  rw [epsilon] at hround
  linarith

theorem exists_shrink {m : Magnitude} (hm : m.IsFinite) {k : Nat} (hpos : 0 < k) :
    ∃ m', m.shrink k = some m' := by
  induction k using Nat.strongRecOn generalizing m with
  | _ k ih =>
    rw [shrink]
    split_ifs with hk hzero
    · obtain ⟨m', h, -⟩ := exists_div? hm (one_le_toRat_powerOfTen hpos hk)
      exact ⟨m', h⟩
    · exact ⟨m, rfl⟩
    · obtain ⟨m', h, hm'⟩ := exists_div? hm (one_le_toRat_powerOfTen (by decide) (le_refl 308))
      rw [h, Option.bind_some]
      exact ih (k - 308) (by omega) hm' (by omega)

theorem power_le {x : ℚ} {k : Nat} (hone : 1 ≤ x) (h : x * 10 ^ k * (1 + epsilon) ^ 2 < limit) :
    k ≤ 308 := by
  by_contra! hk
  have hroom : (1 : ℚ) ≤ (1 + epsilon) ^ 2 := one_le_pow₀ (by norm_num [epsilon])
  have hlarge : (10 : ℚ) ^ 309 ≤ 10 ^ k := pow_le_pow_right₀ (by norm_num) hk
  have hle : (10 : ℚ) ^ k ≤ x * 10 ^ k * (1 + epsilon) ^ 2 :=
    calc (10 : ℚ) ^ k ≤ x * 10 ^ k := le_mul_of_one_le_left (by positivity) hone
      _ ≤ x * 10 ^ k * (1 + epsilon) ^ 2 := le_mul_of_one_le_right (by positivity) hroom
  exact absurd h (not_lt.2 ((limit_le.trans hlarge).trans hle))

/-- A rounded value and a rounded power of ten have a product if both roundings have room. -/
theorem exists_mul?_powerOfTen {m : Magnitude} {x : ℚ} (hm : m.toRat ≤ x * (1 + epsilon)) {k : Nat}
    (hk : k ≤ 308) (h : x * 10 ^ k * (1 + epsilon) ^ 2 < limit) :
    ∃ m', m.mul? (powerOfTen k) = some m' := by
  have hnonneg : 0 ≤ (powerOfTen k).toRat := by
    rw [toRat]
    positivity
  have hnonneg' : 0 ≤ x * (1 + epsilon) := by
    refine le_trans ?_ hm
    rw [toRat]
    positivity
  have hp : (powerOfTen k).toRat ≤ 10 ^ k * (1 + epsilon) := by
    have hround := (abs_le.1 (powerOfTen_spec hk)).2
    linarith
  have hproduct : m.toRat * (powerOfTen k).toRat < limit :=
    calc m.toRat * (powerOfTen k).toRat
        ≤ x * (1 + epsilon) * (10 ^ k * (1 + epsilon)) := by gcongr
      _ = x * 10 ^ k * (1 + epsilon) ^ 2 := by ring
      _ < limit := h
  obtain ⟨m', hm', -⟩ := exists_mul? hproduct
  exact ⟨m', hm'⟩

/-- A significand of 64 bits with a power of ten has a magnitude if the value, with a little room
for two roundings, is below the limit. -/
theorem exists_ofScientific {significand : Nat} {power : Int} (hs : significand < 2 ^ 64)
    (h : significand * 10 ^ power * (1 + epsilon) ^ 2 < limit) :
    ∃ m, ofScientific significand power = some m := by
  have hvalue : ((significand : Nat) / (1 : Nat) : ℚ) = significand := by simp
  have hsmall : (significand : ℚ) < limit := by
    calc (significand : ℚ) < (2 ^ 64 : Nat) := Nat.cast_lt.2 hs
      _ ≤ 10 ^ 308 := by
        calc ((2 ^ 64 : Nat) : ℚ) ≤ 10 ^ 20 := by norm_num
          _ ≤ 10 ^ 308 := pow_le_pow_right₀ (by norm_num) (by norm_num)
      _ < limit := lt_limit
  obtain ⟨m, hm, hfinite⟩ := exists_ofRatio one_ne_zero (hvalue ▸ hsmall)
  unfold ofScientific
  rw [hm, Option.bind_eq_bind, Option.bind_some]
  cases power with
  | negSucc k => exact exists_shrink hfinite k.succ_pos
  | ofNat k =>
    have hpow : (10 : ℚ) ^ Int.ofNat k = 10 ^ k := zpow_natCast 10 k
    rw [hpow] at h
    dsimp only
    rcases Nat.eq_zero_or_pos significand with rfl | hpos
    · -- nothing is rounded, and no power is too large
      obtain rfl : zero = m := Option.some.inj hm
      by_cases hk : k ≤ 308
      · obtain ⟨m', h'⟩ := exists_mul?_powerOfTen (m := zero) (x := 0) (by simp [toRat, zero]) hk
          (by simpa using hsmall)
        exact ⟨m', (if_pos hk).trans h'⟩
      · exact ⟨zero, (if_neg hk).trans (if_pos rfl)⟩
    · have hone : (1 : ℚ) ≤ significand := Nat.one_le_cast.2 hpos
      have hk : k ≤ 308 := power_le hone h
      have hm' : m.toRat ≤ significand * (1 + epsilon) := by
        have hround := abs_toRat_sub_le one_ne_zero (by rwa [hvalue]) hm
        rw [hvalue] at hround
        have hupper := (abs_le.1 hround).2
        linarith
      obtain ⟨m', h'⟩ := exists_mul?_powerOfTen hm' hk h
      exact ⟨m', (if_pos hk).trans h'⟩

end Magnitude

end NodeAudit.Decimal
