import Mathlib.Data.List.Induction
import Mathlib.Data.Nat.Digits.Defs
import NodeAudit.Decimal.Unsigned

/-!
# What is read as an unsigned integer

A text spells a number if it is one plus sign or none and at least one decimal digit, and the digits
have the value of the number (`SpellsUnsigned`). Reading accepts exactly the texts that spell a
number below `2 ^ 64` (`unsigned?_eq_some_iff`); among them is the decimal text of every such number,
with a sign and zeros before it or without them (`spellsUnsigned_ofNat`).
-/

namespace NodeAudit.Decimal

/-- The value of decimal digits: the sum of the digits, each times the power of ten at its place. -/
def decimalValue (ds : List Char) : Nat :=
  Nat.ofDigits 10 (ds.reverse.map fun c => c.toNat - 48)

/-- The text is one plus sign or none and then digits, which have the value. -/
def SpellsUnsigned (text : String) (n : Nat) : Prop :=
  ∃ sign ds, text.toList = sign ++ ds ∧ (sign = [] ∨ sign = ['+']) ∧ ds ≠ [] ∧
    (∀ c ∈ ds, isDigit c = true) ∧ decimalValue ds = n

/-! ## Values of digits -/

theorem decimalValue_append (before after : List Char) :
    decimalValue (before ++ after)
      = decimalValue before * 10 ^ after.length + decimalValue after := by
  rw [decimalValue, List.reverse_append, List.map_append, Nat.ofDigits_append, List.length_map,
    List.length_reverse, ← decimalValue, ← decimalValue, Nat.add_comm, Nat.mul_comm]

theorem decimalValue_concat (ds : List Char) (c : Char) :
    decimalValue (ds ++ [c]) = decimalValue ds * 10 + (c.toNat - 48) := by
  have hlast : decimalValue [c] = c.toNat - 48 := Nat.ofDigits_singleton
  rw [decimalValue_append, hlast, List.length_singleton, Nat.pow_one]

theorem isDigit_iff {c : Char} : isDigit c = true ↔ 48 ≤ c.toNat ∧ c.toNat ≤ 57 := by
  simp only [isDigit, Bool.and_eq_true, decide_eq_true_eq]
  exact Iff.rfl

theorem pushDigit_eq_some_iff {acc n : Nat} {c : Char} :
    pushDigit 10 acc c = some n ↔ isDigit c = true ∧ acc * 10 + (c.toNat - 48) = n := by
  rw [isDigit_iff]
  by_cases hdigit : 48 ≤ c.toNat ∧ c.toNat ≤ 57
  · have hlt : c.toNat - 48 < 10 := by omega
    simp [pushDigit, digitValue?, hdigit, hlt]
  · have hnone : pushDigit 10 acc c = none := by
      unfold pushDigit digitValue?
      simp only [if_neg hdigit]
      split
      · rename_i d hd
        split at hd
        · obtain rfl := Option.some.inj hd
          rw [if_neg (by omega)]
        · split at hd
          · obtain rfl := Option.some.inj hd
            rw [if_neg (by omega)]
          · cases hd
      · rfl
    simp [hnone, hdigit]

theorem value?_eq_some_iff {ds : List Char} {n : Nat} :
    value? 10 ds = some n ↔ (∀ c ∈ ds, isDigit c = true) ∧ decimalValue ds = n := by
  induction ds using List.reverseRecOn generalizing n with
  | nil => simp [value?, decimalValue]
  | append_singleton ds c ih =>
    have hstep : value? 10 (ds ++ [c]) = (value? 10 ds).bind fun acc => pushDigit 10 acc c := by
      simp [value?, List.foldlM_append]
    rw [hstep, Option.bind_eq_some_iff, decimalValue_concat]
    constructor
    · rintro ⟨acc, hacc, hpush⟩
      obtain ⟨hds, rfl⟩ := ih.1 hacc
      obtain ⟨hc, rfl⟩ := pushDigit_eq_some_iff.1 hpush
      exact ⟨List.forall_mem_append.2 ⟨hds, List.forall_mem_singleton.2 hc⟩, rfl⟩
    · rintro ⟨hall, rfl⟩
      obtain ⟨hds, hc⟩ := List.forall_mem_append.1 hall
      exact ⟨_, ih.2 ⟨hds, rfl⟩,
        pushDigit_eq_some_iff.2 ⟨hc c List.mem_cons_self, rfl⟩⟩

/-! ## Signs -/

/-- The characters without one plus sign before them. -/
def withoutPlus : List Char → List Char
  | '+' :: rest => rest
  | cs => cs

theorem withoutPlus_of_not {cs : List Char} (h : ∀ rest, cs ≠ '+' :: rest) : withoutPlus cs = cs := by
  unfold withoutPlus
  split
  · rename_i rest
    exact absurd rfl (h rest)
  · rfl

theorem unsigned?_eq (s : String) :
    unsigned? s =
      if withoutPlus s.toList = [] then none
      else (value? 10 (withoutPlus s.toList)).bind fun n =>
        if n < UInt64.size then some (UInt64.ofNat n) else none := by
  unfold unsigned?
  simp only [List.isEmpty_iff]
  split
  · rename_i rest heq
    rw [heq, withoutPlus]
    cases value? 10 rest <;> rfl
  · rename_i hnot
    rw [withoutPlus_of_not hnot]
    cases value? 10 s.toList <;> rfl

theorem withoutPlus_of_isDigit {ds : List Char} (h : ∀ c ∈ ds, isDigit c = true) :
    withoutPlus ds = ds := by
  refine withoutPlus_of_not fun rest hrest => ?_
  rw [hrest] at h
  exact absurd (h '+' List.mem_cons_self) (by decide)

theorem spellsUnsigned_iff {s : String} {n : Nat} :
    SpellsUnsigned s n ↔ withoutPlus s.toList ≠ [] ∧ value? 10 (withoutPlus s.toList) = some n := by
  rw [value?_eq_some_iff]
  constructor
  · rintro ⟨sign, ds, htext, hsign, hne, hds, rfl⟩
    have hstrip : withoutPlus s.toList = ds := by
      rw [htext]
      rcases hsign with rfl | rfl
      · exact withoutPlus_of_isDigit hds
      · rfl
    rw [hstrip]
    exact ⟨hne, hds, rfl⟩
  · rintro ⟨hne, hds, rfl⟩
    by_cases hplus : s.toList = '+' :: withoutPlus s.toList
    · exact ⟨['+'], _, hplus, .inr rfl, hne, hds, rfl⟩
    · refine ⟨[], _, ?_, .inl rfl, hne, hds, rfl⟩
      refine (withoutPlus_of_not fun rest hrest => hplus ?_).symm
      rw [hrest, withoutPlus]

/-! ## Reading -/

theorem SpellsUnsigned.unique {s : String} {n m : Nat} (h : SpellsUnsigned s n)
    (h' : SpellsUnsigned s m) : n = m :=
  Option.some.inj ((spellsUnsigned_iff.1 h).2.symm.trans (spellsUnsigned_iff.1 h').2)

theorem unsigned?_eq_some_iff {s : String} {v : UInt64} :
    unsigned? s = some v ↔ SpellsUnsigned s v.toNat := by
  rw [unsigned?_eq, spellsUnsigned_iff]
  by_cases hnil : withoutPlus s.toList = []
  · simp [hnil]
  · rw [if_neg hnil, Option.bind_eq_some_iff]
    constructor
    · rintro ⟨n, hn, hv⟩
      split at hv
      · rename_i hlt
        obtain rfl := Option.some.inj hv
        rw [UInt64.toNat_ofNat_of_lt' hlt]
        exact ⟨hnil, hn⟩
      · cases hv
    · rintro ⟨-, hn⟩
      refine ⟨v.toNat, hn, ?_⟩
      rw [if_pos v.toNat_lt_size, UInt64.ofNat_toNat]

/-- A text is refused exactly if it spells no number below `2 ^ 64`. -/
theorem unsigned?_eq_none_iff {s : String} :
    unsigned? s = none ↔ ∀ n, SpellsUnsigned s n → UInt64.size ≤ n := by
  constructor
  · intro h n hn
    by_contra hlt
    have hsome : unsigned? s = some (UInt64.ofNat n) := by
      rw [unsigned?_eq_some_iff, UInt64.toNat_ofNat_of_lt' (Nat.lt_of_not_le hlt)]
      exact hn
    rw [h] at hsome
    cases hsome
  · intro h
    rw [Option.eq_none_iff_forall_ne_some]
    intro v hv
    exact absurd v.toNat_lt_size (Nat.not_lt.2 (h _ (unsigned?_eq_some_iff.1 hv)))

/-- The decimal text of a number spells it, also with zeros and a plus sign before it. -/
theorem spellsUnsigned_ofNat (n zeros : Nat) {sign : String} (hsign : sign = "" ∨ sign = "+") :
    SpellsUnsigned (sign ++ String.ofList (List.replicate zeros '0') ++ ofNat n) n := by
  have hvalue : value? 10 (List.replicate zeros '0' ++ digits 10 n) = some n := by
    induction zeros with
    | zero => exact value?_digits (by decide) (by decide) n
    | succ zeros ih =>
      rw [List.replicate_succ, List.cons_append, value?_zero_cons (by decide), ih]
  obtain ⟨hds, hval⟩ := value?_eq_some_iff.1 hvalue
  refine ⟨sign.toList, List.replicate zeros '0' ++ digits 10 n, ?_, ?_, ?_, hds, hval⟩
  · simp [ofNat]
  · rcases hsign with rfl | rfl
    · exact .inl rfl
    · exact .inr rfl
  · simp [digits_ne_nil]

end NodeAudit.Decimal
