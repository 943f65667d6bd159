import NodeAudit.Json.Decode

/-!
# Reading back numbers and strings

What the printer writes of an integer and of a string, the scanner reads back, whatever follows it
(`scanScalar_integer`, `scanScalar_stringText`). An integer is only over where a delimiter or the
end of the text follows (`Ends`); a string ends by itself.
-/

namespace NodeAudit

/-! ## Digits -/

namespace Decimal

theorem isDigit_digitChar_all : ∀ d < 10, isDigit (digitChar d) = true := by decide

theorem digitChar_ne_zero_all : ∀ d < 10, d ≠ 0 → digitChar d ≠ '0' := by decide

theorem toNat_digitChar_all : ∀ d < 10, (digitChar d).toNat - 48 = d := by decide

theorem digits_of_lt {n : Nat} (h : n < 10) : digits 10 n = [digitChar n] := by
  rw [digits, dif_pos (.inl h)]

theorem digits_of_ge {n : Nat} (h : 10 ≤ n) :
    digits 10 n = digits 10 (n / 10) ++ [digitChar (n % 10)] := by
  rw [digits, dif_neg (by omega)]

theorem isDigit_of_mem_digits {n : Nat} {c : Char} (h : c ∈ digits 10 n) : isDigit c = true := by
  induction n using Nat.strongRecOn with
  | _ n ih =>
    rcases Nat.lt_or_ge n 10 with hlt | hge
    · rw [digits_of_lt hlt, List.mem_singleton] at h
      exact h ▸ isDigit_digitChar_all n hlt
    · rw [digits_of_ge hge, List.mem_append, List.mem_singleton] at h
      rcases h with h | h
      · exact ih (n / 10) (by omega) h
      · exact h ▸ isDigit_digitChar_all (n % 10) (by omega)

theorem exists_digits_eq_cons {n : Nat} (h : n ≠ 0) :
    ∃ c ds, digits 10 n = c :: ds ∧ c ≠ '0' := by
  induction n using Nat.strongRecOn with
  | _ n ih =>
    rcases Nat.lt_or_ge n 10 with hlt | hge
    · exact ⟨_, [], digits_of_lt hlt, digitChar_ne_zero_all n hlt h⟩
    · obtain ⟨c, ds, hds, hc⟩ := ih (n / 10) (by omega) (by omega)
      exact ⟨c, ds ++ [digitChar (n % 10)], by rw [digits_of_ge hge, hds]; rfl, hc⟩

end Decimal

/-! ## Values of digits -/

namespace NumberLiteral

open Decimal

theorem pushWhole_digitChar {m d : Nat} (hd : d < 10) (h : m * 10 + d < UInt64.size) :
    Scale.pushWhole ⟨m, 0⟩ (digitChar d) = ⟨m * 10 + d, 0⟩ := by
  rw [Scale.pushWhole, toNat_digitChar_all d hd]
  exact if_pos ⟨rfl, h⟩

theorem foldl_pushWhole_digits {n : Nat} (h : n < UInt64.size) :
    (digits 10 n).foldl Scale.pushWhole ⟨0, 0⟩ = ⟨n, 0⟩ := by
  induction n using Nat.strongRecOn with
  | _ n ih =>
    rcases Nat.lt_or_ge n 10 with hlt | hge
    · rw [digits_of_lt hlt, List.foldl_cons, List.foldl_nil, pushWhole_digitChar hlt (by omega),
        Nat.zero_mul, Nat.zero_add]
    · have hsplit : n / 10 * 10 + n % 10 = n := Nat.div_add_mod' n 10
      rw [digits_of_ge hge, List.foldl_append, ih (n / 10) (by omega) (by omega), List.foldl_cons,
        List.foldl_nil, pushWhole_digitChar (by omega) (by omega), hsplit]

theorem number?_digits {n : Nat} (h : n < UInt64.size) :
    number? ⟨false, digits 10 n, [], none⟩ = some (.integer n) := by
  simp [number?, foldl_pushWhole_digits h]

theorem number?_negative_digits {n : Nat} (hpos : 0 < n) (h : n ≤ 9223372036854775808) :
    number? ⟨true, digits 10 n, [], none⟩ = some (.integer (-(n : Int))) := by
  have hsize : n < UInt64.size := by
    simp only [UInt64.size]
    omega
  simp [number?, foldl_pushWhole_digits hsize, hpos, h]

end NumberLiteral

namespace JsonText

open Decimal

variable {rest : List Char}

/-! ## Numbers -/

/-- A character that may follow a value. -/
def isDelimiter (c : Char) : Bool := isSpace c || c == ',' || c == ']' || c == '\x7d'

/-- The value before the text is over. -/
def Ends (rest : List Char) : Prop := ∀ c ∈ rest.head?, isDelimiter c = true

theorem ends_nil : Ends [] := by
  intro c hc
  cases hc

theorem ends_cons {c : Char} (h : isDelimiter c = true) (rest : List Char) : Ends (c :: rest) := by
  intro c' hc
  obtain rfl := Option.some.inj hc
  exact h

/-- A delimiter does not go on with a number. -/
theorem not_number_of_isDelimiter {c : Char} (h : isDelimiter c = true) :
    isDigit c = false ∧ c ≠ '.' ∧ c ≠ 'e' ∧ c ≠ 'E' := by
  simp only [isDelimiter, isSpace, Bool.or_eq_true, beq_iff_eq] at h
  rcases h with ((((((rfl | rfl) | rfl) | rfl) | rfl) | rfl) | rfl)
  all_goals decide

/-- The text does not go on with a digit. -/
def EndsDigits (rest : List Char) : Prop := ∀ c ∈ rest.head?, isDigit c = false

theorem Ends.endsDigits (h : Ends rest) : EndsDigits rest :=
  fun c hc => (not_number_of_isDelimiter (h c hc)).1

theorem endsDigits_cons {c : Char} (h : isDigit c = false) (rest : List Char) :
    EndsDigits (c :: rest) := by
  intro c' hc
  obtain rfl := Option.some.inj hc
  exact h

theorem takeWhile_isDigit_append {ds : List Char} (hds : ∀ c ∈ ds, isDigit c = true)
    (h : EndsDigits rest) : (ds ++ rest).takeWhile isDigit = ds := by
  rw [List.takeWhile_append_of_pos hds]
  cases rest with
  | nil => simp
  | cons c rest => rw [List.takeWhile_cons_of_neg (by simp [h c rfl]), List.append_nil]

theorem dropWhile_isDigit_append {ds : List Char} (hds : ∀ c ∈ ds, isDigit c = true)
    (h : EndsDigits rest) : (ds ++ rest).dropWhile isDigit = rest := by
  rw [List.dropWhile_append_of_pos hds]
  cases rest with
  | nil => rfl
  | cons c rest => rw [List.dropWhile_cons_of_neg (by simp [h c rfl])]

theorem scanFraction_of_ends (h : Ends rest) : scanFraction rest = some ([], rest) := by
  unfold scanFraction
  split
  · exact absurd rfl (not_number_of_isDelimiter (h _ rfl)).2.1
  · rfl

theorem scanExponent_of_ends (h : Ends rest) : scanExponent rest = some (none, rest) := by
  unfold scanExponent
  split
  · rename_i c rest
    obtain ⟨-, -, he, hE⟩ := not_number_of_isDelimiter (h c rfl)
    exact if_neg (by simp [he, hE])
  · rfl

theorem scanFraction_append {ds : List Char} (hds : ∀ c ∈ ds, isDigit c = true) (hne : ds ≠ [])
    (h : EndsDigits rest) : scanFraction ('.' :: (ds ++ rest)) = some (ds, rest) := by
  rw [scanFraction, takeWhile_isDigit_append hds h, dropWhile_isDigit_append hds h]
  simp [hne]

theorem scanExponentDigits_append {ds : List Char} {n : Nat} (negative : Bool)
    (hds : ∀ c ∈ ds, isDigit c = true) (hne : ds ≠ []) (hn : value? 10 ds = some n)
    (h : EndsDigits rest) :
    scanExponentDigits negative (ds ++ rest)
      = some (some (if negative then -(n : Int) else n), rest) := by
  rw [scanExponentDigits, takeWhile_isDigit_append hds h, dropWhile_isDigit_append hds h, hn]
  cases ds with
  | nil => exact absurd rfl hne
  | cons c ds => rfl

/-- The digits before a point: a single zero, or digits of which the first is no zero. -/
structure IsWhole (ds : List Char) : Prop where
  isDigit : ∀ c ∈ ds, isDigit c = true
  first : ds = ['0'] ∨ ∃ c rest, ds = c :: rest ∧ c ≠ '0'

theorem isWhole_digits (n : Nat) : IsWhole (digits 10 n) := by
  refine ⟨fun c hc => isDigit_of_mem_digits hc, ?_⟩
  rcases Nat.eq_zero_or_pos n with rfl | hpos
  · exact .inl (digits_of_lt (by omega))
  · exact .inr (exists_digits_eq_cons (by omega))

theorem scanWhole_append {ds : List Char} (hds : IsWhole ds) (h : EndsDigits rest) :
    scanWhole (ds ++ rest) = some (ds, rest) := by
  obtain ⟨hall, rfl | ⟨c, ds, rfl, hne⟩⟩ := hds
  · cases rest with
    | nil => rfl
    | cons c rest => simp [scanWhole, h c rfl]
  · unfold scanWhole
    split
    · rename_i heq
      exact absurd (List.cons.inj heq).1 hne
    · rename_i heq
      exact absurd (List.cons.inj heq).1 hne
    · rw [takeWhile_isDigit_append hall h, dropWhile_isDigit_append hall h]
      rfl

theorem scanNumber_of_parts {negative : Bool} {cs cs₁ cs₂ whole fraction : List Char}
    {exponent : Option Int} (hwhole : scanWhole cs = some (whole, cs₁))
    (hfraction : scanFraction cs₁ = some (fraction, cs₂))
    (hexponent : scanExponent cs₂ = some (exponent, rest)) :
    scanNumber negative cs = some (⟨negative, whole, fraction, exponent⟩, rest) := by
  rw [scanNumber, hwhole, Option.bind_eq_bind, Option.bind_some]
  dsimp only
  rw [hfraction, Option.bind_eq_bind, Option.bind_some]
  dsimp only
  rw [hexponent]
  rfl

theorem scanNumber_digits (negative : Bool) (n : Nat) (h : Ends rest) :
    scanNumber negative (digits 10 n ++ rest)
      = some (⟨negative, digits 10 n, [], none⟩, rest) :=
  scanNumber_of_parts (scanWhole_append (isWhole_digits n) h.endsDigits)
    (scanFraction_of_ends h) (scanExponent_of_ends h)

theorem scanScalar_of_isDigit {c : Char} {cs : List Char} (hc : isDigit c = true) :
    scanScalar (c :: cs) =
      match scanNumber false (c :: cs) with
      | some (l, rest) => (.number l.number?, some rest)
      | none => broken := by
  unfold scanScalar
  split
  case h_6 => rfl
  all_goals
    rename_i heq
    obtain ⟨rfl, -⟩ := List.cons.inj heq
    exact absurd hc (by decide)

/-- An integer of at most 64 bits is read back. -/
theorem scanScalar_integer {i : Int} (hlow : -9223372036854775808 ≤ i)
    (hhigh : i ≤ 18446744073709551615) (h : Ends rest) :
    scanScalar ((Decimal.ofInt i).toList ++ rest) = (.number (some (.integer i)), some rest) := by
  cases i with
  | ofNat n =>
    have hn : (n : Int) ≤ 18446744073709551615 := hhigh
    have hsize : n < UInt64.size := by
      simp only [UInt64.size]
      omega
    have htext : (Decimal.ofInt (.ofNat n)).toList = digits 10 n := String.toList_ofList
    obtain ⟨c, ds, hds⟩ := List.exists_cons_of_ne_nil (digits_ne_nil 10 n)
    have hc : isDigit c = true := isDigit_of_mem_digits (n := n) (by simp [hds])
    have hscan := scanNumber_digits false n h
    rw [hds, List.cons_append] at hscan
    rw [htext, hds, List.cons_append, scanScalar_of_isDigit hc, hscan, ← hds]
    dsimp only
    rw [NumberLiteral.number?_digits hsize]
    rfl
  | negSucc n =>
    have htext : (Decimal.ofInt (.negSucc n)).toList = '-' :: digits 10 (n + 1) := by
      simp [Decimal.ofInt, Decimal.ofNat]
    rw [htext, List.cons_append, scanScalar]
    simp only [scanNumber_digits true (n + 1) h]
    rw [NumberLiteral.number?_negative_digits (by omega) (by omega)]
    rfl

/-! ## Strings -/

theorem hexQuad?_control {n : Nat} (h : n < 0x20) :
    hexQuad? '0' '0' (digitChar (n / 16)) (digitChar (n % 16)) = some n := by
  revert n
  decide

theorem scanString_escapeChar (c : Char) (cs : List Char) :
    scanString (Json.escapeChar c ++ cs)
      = (scanString cs).map fun (units, rest) => (.char c :: units, rest) := by
  unfold Json.escapeChar
  split
  case h_8 hquote hslash _ _ _ _ _ =>
    -- no short escape: four digits for a control character, the character itself otherwise
    split
    · rename_i hcontrol
      have hunit : Unit.ofNat c.toNat = .char c := by
        rw [Unit.ofNat, if_neg (by omega), Char.ofNat_toNat]
      simp [scanString, hexQuad?_control hcontrol, hunit]
    · rename_i hprintable
      have hplain : ¬ (c.toNat < 0x20 ∨ c = '\\') := fun hc => hc.elim hprintable hslash
      rw [List.singleton_append, scanString.eq_def]
      split
      case h_5 heq =>
        obtain ⟨rfl, rfl⟩ := List.cons.inj heq
        rw [if_neg hplain]
      all_goals simp_all
  all_goals simp [scanString, escapeLetter?]

theorem scanString_escape (cs rest : List Char) :
    scanString (Json.escape cs ++ '"' :: rest) = some (cs.map .char, rest) := by
  induction cs with
  | nil => rfl
  | cons c cs ih =>
    rw [Json.escape, List.flatMap_cons, List.append_assoc, scanString_escapeChar, ← Json.escape, ih]
    rfl

theorem unitText?_map_char (s : String) : unitText? (s.toList.map .char) = some s := by
  have hchars : ∀ cs : List Char, unitChars? (cs.map .char) = some cs := by
    intro cs
    induction cs with
    | nil => rfl
    | cons c cs ih => rw [List.map_cons, unitChars?, ih]; rfl
  rw [unitText?, hchars, Option.map_some, String.ofList_toList]

theorem scanString_stringText (s : String) (rest : List Char) :
    ∃ cs, Json.stringText s ++ rest = '"' :: cs ∧
      scanString cs = some (s.toList.map .char, rest) := by
  refine ⟨Json.escape s.toList ++ '"' :: rest, ?_, scanString_escape s.toList rest⟩
  simp [Json.stringText]

theorem scanScalar_stringText (s : String) (rest : List Char) :
    scanScalar (Json.stringText s ++ rest) = (.string (some s), some rest) := by
  obtain ⟨cs, hcs, hscan⟩ := scanString_stringText s rest
  rw [hcs, scanScalar]
  simp only [hscan, unitText?_map_char]

end JsonText

end NodeAudit
