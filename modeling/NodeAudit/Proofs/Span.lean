import Mathlib.Data.List.DropRight
import Mathlib.Data.Rat.Cast.Order
import Mathlib.Tactic.FieldSimp
import Mathlib.Tactic.Ring
import NodeAudit.Proofs.Decimal.Unsigned
import NodeAudit.Proofs.Json.Token
import NodeAudit.Span

/-!
# The text of a span is exact

A span is written as a decimal number (`Decimal.Numeral`) of a unit of time (`TimeUnit`). The unit is
the largest that does not exceed the span (`Span.isLargest_unit`), and the digits behind the point
are those of the remainder in the places of the unit, without the zeros at their end
(`Span.fractionDigits_eq`). Dropping these changes nothing of the value, so that number and unit are
the span (`Span.exists_numeral`). A text has one number and one unit (`Numeral.append_symbol_inj`),
so that it tells the span.

Main statements: `Span.exists_numeral` and `Span.text_inj`.
-/

namespace NodeAudit

open JsonText (IsWhole EndsDigits isWhole_digits endsDigits_cons takeWhile_isDigit_append)

/-! ## Decimal numbers -/

namespace Decimal

theorem decimalValue_zeros (k : Nat) : decimalValue (List.replicate k '0') = 0 := by
  rw [decimalValue, List.reverse_replicate, List.map_replicate]
  exact Nat.ofDigits_replicate_zero

theorem decimalValue_digits (n : Nat) : decimalValue (digits 10 n) = n :=
  (value?_eq_some_iff.1 (value?_digits (by decide) (by decide) n)).2

theorem length_digits_le {n places : Nat} (hpos : 0 < places) (h : n < 10 ^ places) :
    (digits 10 n).length ≤ places := by
  induction places generalizing n with
  | zero => omega
  | succ k ih =>
    rcases Nat.lt_or_ge n 10 with hlt | hge
    · rw [digits_of_lt hlt, List.length_singleton]
      omega
    · have hk : 0 < k := by
        by_contra hzero
        obtain rfl : k = 0 := by omega
        omega
      have hrest : n / 10 < 10 ^ k := by
        rw [Nat.pow_succ] at h
        omega
      rw [digits_of_ge hge, List.length_append, List.length_singleton]
      exact Nat.succ_le_succ (ih hk hrest)

/-- A decimal number as it is written: a whole part without zeros before it, and a fraction, which
may be missing, without zeros at its end. -/
@[ext] structure Numeral where
  whole : List Char
  fraction : List Char
  isWhole : IsWhole whole
  isDigit_fraction : ∀ c ∈ fraction, isDigit c = true
  reduced : fraction.getLast? ≠ some '0'

namespace Numeral

/-- The fraction with the point before it. -/
def behindWhole (x : Numeral) : List Char :=
  if x.fraction = [] then [] else '.' :: x.fraction

/-- The number in writing. -/
def text (x : Numeral) : String := String.ofList (x.whole ++ x.behindWhole)

/-- The number itself. -/
def value (x : Numeral) : ℚ :=
  decimalValue x.whole + decimalValue x.fraction / 10 ^ x.fraction.length

/-- A digit or the point. -/
def isMark (c : Char) : Bool := isDigit c || c == '.'

theorem isMark_text (x : Numeral) : ∀ c ∈ x.text.toList, isMark c = true := by
  have hdigit : ∀ c, isDigit c = true → isMark c = true := fun c hc => by simp [isMark, hc]
  rw [text, String.toList_ofList]
  refine List.forall_mem_append.2 ⟨fun c hc => hdigit c (x.isWhole.isDigit c hc), ?_⟩
  rw [behindWhole]
  split
  · exact List.forall_mem_nil _
  · exact List.forall_mem_cons.2 ⟨by decide, fun c hc => hdigit c (x.isDigit_fraction c hc)⟩

theorem endsDigits_behindWhole (x : Numeral) : EndsDigits x.behindWhole := by
  rw [behindWhole]
  split
  · exact fun c hc => by cases hc
  · exact endsDigits_cons (by decide) _

theorem fraction_eq_of_behindWhole {x y : Numeral} (h : x.behindWhole = y.behindWhole) :
    x.fraction = y.fraction := by
  rw [behindWhole, behindWhole] at h
  split at h <;> split at h
  · rename_i hx hy
    rw [hx, hy]
  · cases h
  · cases h
  · exact (List.cons.inj h).2

theorem text_inj {x y : Numeral} : x.text = y.text ↔ x = y := by
  constructor
  · intro h
    rw [text, text, String.ofList_inj] at h
    have hwhole : x.whole = y.whole := by
      rw [← takeWhile_isDigit_append x.isWhole.isDigit x.endsDigits_behindWhole, h,
        takeWhile_isDigit_append y.isWhole.isDigit y.endsDigits_behindWhole]
    rw [hwhole] at h
    exact Numeral.ext hwhole (fraction_eq_of_behindWhole (List.append_cancel_left h))
  · exact congrArg text

end Numeral

end Decimal

open Decimal

/-! ## Units of time -/

/-- A unit of time. -/
inductive TimeUnit where
  | nanosecond
  | microsecond
  | millisecond
  | second
deriving DecidableEq, Repr

namespace TimeUnit

/-- The sign of the unit. -/
def symbol : TimeUnit → String
  | nanosecond => "ns"
  | microsecond => "µs"
  | millisecond => "ms"
  | second => "s"

/-- How many nanoseconds the unit has. -/
def nanos : TimeUnit → Nat
  | nanosecond => 1
  | microsecond => 1000
  | millisecond => 1000000
  | second => 1000000000

/-- In how many decimal places a nanosecond is a whole number of the unit. -/
def places : TimeUnit → Nat
  | nanosecond => 0
  | microsecond => 3
  | millisecond => 6
  | second => 9

/-- The unit is the largest that does not exceed so many nanoseconds; of none it is the smallest. -/
structure IsLargest (u : TimeUnit) (n : Nat) : Prop where
  le : u.nanos ≤ n ∨ n = 0 ∧ u = nanosecond
  greatest : ∀ v : TimeUnit, v.nanos ≤ n → v.nanos ≤ u.nanos

variable {u v : TimeUnit}

theorem nanos_eq (u : TimeUnit) : u.nanos = 10 ^ u.places := by
  cases u <;> rfl

theorem nanos_pos (u : TimeUnit) : 0 < u.nanos := by
  cases u <;> decide

theorem places_le (u : TimeUnit) : u.places ≤ 9 := by
  cases u <;> decide

theorem symbol_inj : u.symbol = v.symbol ↔ u = v := by
  cases u <;> cases v <;> decide

theorem exists_symbol_eq_cons (u : TimeUnit) :
    ∃ c rest, u.symbol.toList = c :: rest ∧ Numeral.isMark c = false := by
  cases u with
  | nanosecond => exact ⟨'n', ['s'], rfl, by decide⟩
  | microsecond => exact ⟨'µ', ['s'], rfl, by decide⟩
  | millisecond => exact ⟨'m', ['s'], rfl, by decide⟩
  | second => exact ⟨'s', [], rfl, by decide⟩

end TimeUnit

theorem Decimal.Numeral.takeWhile_append_symbol (x : Numeral) (u : TimeUnit) :
    (x.text ++ u.symbol).toList.takeWhile isMark = x.text.toList := by
  obtain ⟨c, rest, hsymbol, hc⟩ := u.exists_symbol_eq_cons
  rw [String.toList_append, List.takeWhile_append_of_pos x.isMark_text, hsymbol,
    List.takeWhile_cons_of_neg (by simp [hc]), List.append_nil]

theorem Decimal.Numeral.append_symbol_inj {x y : Numeral} {u v : TimeUnit} :
    x.text ++ u.symbol = y.text ++ v.symbol ↔ x = y ∧ u = v := by
  constructor
  · intro h
    have htext : x.text = y.text := by
      rw [← String.toList_inj, ← x.takeWhile_append_symbol u, h, y.takeWhile_append_symbol v]
    have hsymbol : u.symbol = v.symbol := by
      have hlist := congrArg String.toList h
      rw [String.toList_append, String.toList_append, htext] at hlist
      exact String.toList_inj.1 (List.append_cancel_left hlist)
    exact ⟨text_inj.1 htext, TimeUnit.symbol_inj.1 hsymbol⟩
  · rintro ⟨rfl, rfl⟩
    rfl

namespace Span

/-! ## Fractions -/

/-- The digits of a number with zeros before them up to so many places. -/
def padded (places n : Nat) : List Char :=
  List.replicate (places - (digits 10 n).length) '0' ++ digits 10 n

/-- The digits of a fraction are those of its places without the zeros at their end. -/
theorem fractionDigits_eq (places fraction : Nat) :
    fractionDigits places fraction = (padded places fraction).rdropWhile (· == '0') := rfl

theorem isDigit_padded (places n : Nat) : ∀ c ∈ padded places n, isDigit c = true := by
  refine List.forall_mem_append.2 ⟨fun c hc => ?_, fun c => isDigit_of_mem_digits⟩
  rw [List.eq_of_mem_replicate hc]
  decide

theorem decimalValue_padded (places n : Nat) : decimalValue (padded places n) = n := by
  rw [padded, decimalValue_append, decimalValue_zeros, decimalValue_digits, Nat.zero_mul,
    Nat.zero_add]

theorem length_padded {places n : Nat} (hpos : 0 < places) (h : n < 10 ^ places) :
    (padded places n).length = places := by
  have hle := length_digits_le hpos h
  rw [padded, List.length_append, List.length_replicate, Nat.sub_add_cancel hle]

/-- What is dropped from the end of digits is zeros. -/
theorem exists_eq_append_zeros (ds : List Char) :
    ∃ k, ds = ds.rdropWhile (· == '0') ++ List.replicate k '0' := by
  induction ds using List.reverseRecOn with
  | nil => exact ⟨0, rfl⟩
  | append_singleton ds c ih =>
    by_cases hc : c = '0'
    · obtain ⟨k, hk⟩ := ih
      refine ⟨k + 1, ?_⟩
      rw [List.rdropWhile_concat_pos _ _ _ (by simp [hc]), List.replicate_succ',
        ← List.append_assoc, ← hk, hc]
    · exact ⟨0, by rw [List.rdropWhile_concat_neg _ _ _ (by simp [hc]), List.replicate_zero,
        List.append_nil]⟩

/-- The digits of a fraction are the fraction, whatever zeros have been dropped. -/
theorem fractionDigits_spec {places fraction : Nat} (hpos : 0 < places)
    (h : fraction < 10 ^ places) :
    ∃ k, (fractionDigits places fraction).length + k = places ∧
      decimalValue (fractionDigits places fraction) * 10 ^ k = fraction := by
  obtain ⟨k, hk⟩ := exists_eq_append_zeros (padded places fraction)
  rw [← fractionDigits_eq] at hk
  have hlength := length_padded hpos h
  have hvalue := decimalValue_padded places fraction
  rw [hk] at hlength hvalue
  rw [decimalValue_append, decimalValue_zeros, Nat.add_zero, List.length_replicate] at hvalue
  rw [List.length_append, List.length_replicate] at hlength
  exact ⟨k, hlength, hvalue⟩

theorem getLast?_fractionDigits (places fraction : Nat) :
    (fractionDigits places fraction).getLast? ≠ some '0' := by
  rw [fractionDigits_eq]
  intro hlast
  have hne : (padded places fraction).rdropWhile (· == '0') ≠ [] := by
    rintro hnil
    rw [hnil] at hlast
    cases hlast
  rw [List.getLast?_eq_some_getLast hne] at hlast
  have hnot := List.rdropWhile_last_not (· == '0') (padded places fraction) hne
  rw [Option.some.inj hlast] at hnot
  exact hnot rfl

theorem isDigit_fractionDigits (places fraction : Nat) :
    ∀ c ∈ fractionDigits places fraction, isDigit c = true := by
  rw [fractionDigits_eq]
  exact fun c hc => isDigit_padded places fraction c
    ((List.rdropWhile_prefix (· == '0') (padded places fraction)).subset hc)

theorem places_pos {places fraction : Nat} (hne : fraction ≠ 0) (h : fraction < 10 ^ places) :
    0 < places := by
  rcases Nat.eq_zero_or_pos places with rfl | hpos
  · rw [Nat.pow_zero] at h
    omega
  · exact hpos

theorem fractionDigits_ne_nil {places fraction : Nat} (hne : fraction ≠ 0) (hpos : 0 < places)
    (h : fraction < 10 ^ places) : fractionDigits places fraction ≠ [] := by
  intro hnil
  obtain ⟨k, -, hvalue⟩ := fractionDigits_spec hpos h
  rw [hnil] at hvalue
  have hzero : decimalValue [] = 0 := rfl
  rw [hzero, Nat.zero_mul] at hvalue
  exact hne hvalue.symm

/-! ## Numbers -/

/-- The decimal number of a whole part and a fraction in some places. -/
def numeral (whole places fraction : Nat) : Numeral where
  whole := digits 10 whole
  fraction := if fraction = 0 then [] else fractionDigits places fraction
  isWhole := isWhole_digits whole
  isDigit_fraction := by
    split
    · exact List.forall_mem_nil _
    · exact isDigit_fractionDigits places fraction
  reduced := by
    split
    · exact nofun
    · exact getLast?_fractionDigits places fraction

section
variable {places fraction : Nat} (whole : Nat) (h : fraction < 10 ^ places)
include h

theorem decimalText_eq : decimalText whole places fraction = (numeral whole places fraction).text := by
  by_cases hzero : fraction = 0
  · simp [decimalText, numeral, Numeral.text, Numeral.behindWhole, hzero, ofNat]
  · have hne := fractionDigits_ne_nil hzero (places_pos hzero h) h
    simp [decimalText, numeral, Numeral.text, Numeral.behindWhole, hzero, hne, ofNat,
      ← String.toList_inj]

theorem length_fraction_numeral : (numeral whole places fraction).fraction.length ≤ places := by
  rw [numeral]
  dsimp only
  split
  · exact Nat.zero_le _
  · rename_i hzero
    obtain ⟨k, hlength, -⟩ := fractionDigits_spec (places_pos hzero h) h
    omega

/-- The number is the whole part and the fraction, of which nothing is lost. -/
theorem value_numeral :
    (numeral whole places fraction).value * 10 ^ places = whole * 10 ^ places + fraction := by
  rw [Numeral.value, numeral]
  dsimp only
  rw [decimalValue_digits]
  split
  · rename_i hzero
    have hnil : decimalValue [] = 0 := rfl
    rw [hnil, hzero, Nat.cast_zero, zero_div, add_zero, add_zero]
  · rename_i hzero
    obtain ⟨k, hlength, hvalue⟩ := fractionDigits_spec (places_pos hzero h) h
    generalize fractionDigits places fraction = ds at hlength hvalue
    subst hlength
    have hten : (10 : ℚ) ^ ds.length ≠ 0 := by positivity
    rw [← hvalue]
    push_cast
    field_simp
    ring

end

/-! ## Spans -/

/-- The unit in which the span is written. -/
def unit (t : Span) : TimeUnit :=
  if 0 < t.seconds then .second
  else if 1000000 ≤ t.nanos then .millisecond
  else if 1000 ≤ t.nanos then .microsecond
  else .nanosecond

/-- The number of units that is written. -/
def number (t : Span) : Numeral :=
  numeral (t.toNanos / t.unit.nanos) t.unit.places (t.toNanos % t.unit.nanos)

theorem isLargest_unit (t : Span) : t.unit.IsLargest t.toNanos := by
  have hnanos := t.nanos_lt
  simp only [unit, toNanos, nanosPerSecond]
  split_ifs with hsecond hmilli hmicro
  · exact ⟨.inl (by simp only [TimeUnit.nanos]; omega), fun v _ => by cases v <;> decide⟩
  · refine ⟨.inl (by simp only [TimeUnit.nanos]; omega), fun v hv => ?_⟩
    cases v <;> simp only [TimeUnit.nanos] at hv ⊢ <;> omega
  · refine ⟨.inl (by simp only [TimeUnit.nanos]; omega), fun v hv => ?_⟩
    cases v <;> simp only [TimeUnit.nanos] at hv ⊢ <;> omega
  · refine ⟨?_, fun v hv => ?_⟩
    · by_cases hzero : t.nanos = 0
      · exact .inr ⟨by omega, rfl⟩
      · exact .inl (by simp only [TimeUnit.nanos]; omega)
    · cases v <;> simp only [TimeUnit.nanos] at hv ⊢ <;> omega

theorem rest_lt (t : Span) : t.toNanos % t.unit.nanos < 10 ^ t.unit.places := by
  rw [← t.unit.nanos_eq]
  exact Nat.mod_lt _ t.unit.nanos_pos

theorem text_eq (t : Span) : t.text = t.number.text ++ t.unit.symbol := by
  have hnanos := t.nanos_lt
  rw [number, ← decimalText_eq _ t.rest_lt]
  -- of each unit, how many whole ones there are and what is left
  simp only [text, unit, toNanos, nanosPerSecond]
  split_ifs with hsecond hmilli hmicro
  · have hwhole : (t.seconds * 1000000000 + t.nanos) / 1000000000 = t.seconds := by omega
    have hrest : (t.seconds * 1000000000 + t.nanos) % 1000000000 = t.nanos := by omega
    simp only [TimeUnit.nanos, TimeUnit.places, TimeUnit.symbol, hwhole, hrest]
  · have hall : t.seconds * 1000000000 + t.nanos = t.nanos := by omega
    simp only [TimeUnit.nanos, TimeUnit.places, TimeUnit.symbol, hall]
  · have hall : t.seconds * 1000000000 + t.nanos = t.nanos := by omega
    simp only [TimeUnit.nanos, TimeUnit.places, TimeUnit.symbol, hall]
  · have hall : t.seconds * 1000000000 + t.nanos = t.nanos := by omega
    simp only [TimeUnit.nanos, TimeUnit.places, TimeUnit.symbol, hall, Nat.div_one, Nat.mod_one]

/-- The number times the unit is the span. -/
theorem value_number (t : Span) : t.number.value * t.unit.nanos = t.toNanos := by
  have hvalue := value_numeral (t.toNanos / t.unit.nanos) t.rest_lt
  have hsplit : t.toNanos / t.unit.nanos * t.unit.nanos + t.toNanos % t.unit.nanos = t.toNanos :=
    Nat.div_add_mod' _ _
  calc t.number.value * t.unit.nanos
      = t.number.value * 10 ^ t.unit.places := by
        rw [t.unit.nanos_eq, Nat.cast_pow, Nat.cast_ofNat]
    _ = (t.toNanos / t.unit.nanos : Nat) * 10 ^ t.unit.places
          + (t.toNanos % t.unit.nanos : Nat) := hvalue
    _ = (t.toNanos / t.unit.nanos * t.unit.nanos + t.toNanos % t.unit.nanos : Nat) := by
        rw [Nat.cast_add, Nat.cast_mul, t.unit.nanos_eq, Nat.cast_pow, Nat.cast_ofNat]
    _ = t.toNanos := by rw [hsplit]

/-- **The text of a span is exact.** It is a decimal number with no more digits behind the point than
the unit has places, followed by the largest unit that does not exceed the span, and the number of
units is the span. -/
theorem exists_numeral (t : Span) :
    ∃ (x : Numeral) (u : TimeUnit), t.text = x.text ++ u.symbol ∧ x.fraction.length ≤ u.places ∧
      x.value * u.nanos = t.toNanos ∧ u.IsLargest t.toNanos :=
  ⟨t.number, t.unit, t.text_eq, length_fraction_numeral _ t.rest_lt, t.value_number,
    t.isLargest_unit⟩

/-- **A text tells its span.** -/
theorem text_inj {t t' : Span} : t.text = t'.text ↔ t = t' := by
  constructor
  · intro h
    rw [text_eq, text_eq, Numeral.append_symbol_inj] at h
    have hnanos : (t.toNanos : ℚ) = t'.toNanos := by
      rw [← value_number, ← value_number, h.1, h.2]
    exact toNanos_injective (Nat.cast_injective hnanos)
  · exact congrArg text

theorem text_zero : zero.text = "0ns" := by decide +kernel

end Span

end NodeAudit
