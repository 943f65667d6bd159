import NodeAudit.Proofs.Decimal.Shortest
import NodeAudit.Proofs.Json.Compact
import NodeAudit.Proofs.Json.Lexeme

/-!
# Numbers that are read back

The text of a finite double is digits with a point (`exists_positional`) or with an exponent
(`scanNumber_withExponent`). It is read as a number again, if not always the same one: the digits
that are taken stand for no more than the text does (`pushFraction_le`), the text for at most half a
unit of the last place more than the double, and that leaves room for two roundings but below the
largest of all doubles, whose texts are read one by one.

Main statements: `Number.exists_spells` and `JsonText.read_compact_reread`.
-/

namespace NodeAudit

/-! ## The digits that are taken -/

namespace NumberLiteral

open Decimal

/-- Continue a value with digits. -/
def pushDigits (n : Nat) (cs : List Char) : Nat := cs.foldl (fun n c => n * 10 + (c.toNat - 48)) n

theorem pushDigits_digits (n : Nat) : pushDigits 0 (digits 10 n) = n := by
  induction n using Nat.strongRecOn with
  | _ n ih =>
    rcases Nat.lt_or_ge n 10 with hlt | hge
    · rw [digits_of_lt hlt, pushDigits, List.foldl_cons, List.foldl_nil, toNat_digitChar_all n hlt,
        Nat.zero_mul, Nat.zero_add]
    · have hsplit : n / 10 * 10 + n % 10 = n := Nat.div_add_mod' n 10
      have hih := ih (n / 10) (by omega)
      rw [pushDigits] at hih ⊢
      rw [digits_of_ge hge, List.foldl_append, hih, List.foldl_cons, List.foldl_nil,
        toNat_digitChar_all _ (Nat.mod_lt n (by decide)), hsplit]

theorem le_pushDigits (n : Nat) (cs : List Char) : n * 10 ^ cs.length ≤ pushDigits n cs := by
  induction cs generalizing n with
  | nil => simp [pushDigits]
  | cons c cs ih =>
    have h := ih (n * 10 + (c.toNat - 48))
    calc n * 10 ^ (c :: cs).length = n * 10 * 10 ^ cs.length := by
          rw [List.length_cons, Nat.pow_succ]; ring
      _ ≤ (n * 10 + (c.toNat - 48)) * 10 ^ cs.length := by gcongr; omega
      _ ≤ pushDigits n (c :: cs) := h

/-- The significand fits 64 bits. -/
def Scale.Fits (s : Scale) : Prop := s.significand < 2 ^ 64

theorem foldl_pushWhole {s : Scale} (hs : s.Fits) (cs : List Char) :
    (cs.foldl Scale.pushWhole s).Fits ∧
      (cs.foldl Scale.pushWhole s).power ≤ s.power + cs.length := by
  induction cs generalizing s with
  | nil => exact ⟨hs, by simp⟩
  | cons c cs ih =>
    have hstep : (s.pushWhole c).Fits ∧ (s.pushWhole c).power ≤ s.power + 1 := by
      unfold Scale.pushWhole
      dsimp only
      split_ifs with h
      · exact ⟨h.2, by dsimp only; omega⟩
      · exact ⟨hs, le_refl _⟩
    obtain ⟨hfits, hpower⟩ := ih hstep.1
    refine ⟨hfits, hpower.trans ?_⟩
    rw [List.length_cons]
    push_cast
    omega

theorem pushFraction_fits {s : Scale} (hs : s.Fits) (cs : List Char) :
    (s.pushFraction cs).Fits ∧ (s.pushFraction cs).power ≤ s.power := by
  induction cs generalizing s with
  | nil => exact ⟨hs, le_refl _⟩
  | cons c cs ih =>
    rw [Scale.pushFraction]
    split_ifs with h
    · obtain ⟨hfits, hpower⟩ := ih (s := ⟨s.significand * 10 + (c.toNat - 48), s.power - 1⟩) h
      exact ⟨hfits, hpower.trans (by dsimp only; omega)⟩
    · exact ⟨hs, le_refl _⟩

/-- The digits that are taken stand for no more than all of them. -/
theorem pushFraction_le (s : Scale) (cs : List Char) :
    ((s.pushFraction cs).significand : ℚ) * 10 ^ (s.pushFraction cs).power
      ≤ pushDigits s.significand cs * 10 ^ (s.power - cs.length) := by
  have hten : (10 : ℚ) ≠ 0 := by norm_num
  induction cs generalizing s with
  | nil => simp [Scale.pushFraction, pushDigits]
  | cons c cs ih =>
    rw [Scale.pushFraction]
    split_ifs with h
    · have hih := ih ⟨s.significand * 10 + (c.toNat - 48), s.power - 1⟩
      have hpower : s.power - 1 - cs.length = s.power - (c :: cs).length := by
        rw [List.length_cons]
        push_cast
        ring
      rw [hpower] at hih
      exact hih
    · have hle := le_pushDigits s.significand (c :: cs)
      calc (s.significand : ℚ) * 10 ^ s.power
          = (s.significand * 10 ^ (c :: cs).length : Nat)
              * 10 ^ (s.power - (c :: cs).length) := by
            rw [Nat.cast_mul, Nat.cast_pow, Nat.cast_ofNat, mul_assoc, ← zpow_natCast,
              ← zpow_add₀ hten, add_sub_cancel]
        _ ≤ pushDigits s.significand (c :: cs) * 10 ^ (s.power - (c :: cs).length) := by
            gcongr

/-- What has been collected of the digits of a literal. -/
def scale (l : NumberLiteral) : Scale :=
  (l.whole.foldl Scale.pushWhole ⟨0, 0⟩).pushFraction l.fraction

theorem scale_fits (l : NumberLiteral) : l.scale.Fits ∧ l.scale.power ≤ l.whole.length := by
  obtain ⟨hfits, hpower⟩ := foldl_pushWhole (s := ⟨0, 0⟩) (by decide : 0 < 2 ^ 64) l.whole
  obtain ⟨hfits', hpower'⟩ := pushFraction_fits hfits l.fraction
  refine ⟨hfits', hpower'.trans ?_⟩
  simpa using hpower

theorem exists_number? {l : NumberLiteral} (hdouble : l.fraction ≠ [] ∨ l.exponent ≠ none)
    (h : ∃ m, Magnitude.ofScientific l.scale.significand (l.scale.power + l.exponent.getD 0)
      = some m) : ∃ n, l.number? = some n := by
  obtain ⟨m, hm⟩ := h
  refine ⟨.double l.negative m, ?_⟩
  have hinteger : (l.fraction.isEmpty && l.exponent.isNone) = false := by
    rcases hdouble with hne | hne
    · simp [hne]
    · cases he : l.exponent with
      | none => exact absurd he hne
      | some e => simp
  unfold number?
  simp only [hinteger, Bool.false_and, Bool.false_eq_true, false_and, if_false]
  rw [← scale, hm, Option.map_some]

end NumberLiteral

namespace JsonText

open Decimal

variable {rest : List Char}

/-! ## How doubles are scanned -/

theorem isDigit_replicate_zero {k : Nat} : ∀ c ∈ List.replicate k '0', isDigit c = true := by
  intro c hc
  obtain rfl := List.eq_of_mem_replicate hc
  decide

theorem scanNumber_point (negative : Bool) {whole fraction : List Char} (hwhole : IsWhole whole)
    (hfraction : ∀ c ∈ fraction, isDigit c = true) (hne : fraction ≠ []) (h : Ends rest) :
    scanNumber negative (whole ++ '.' :: fraction ++ rest)
      = some (⟨negative, whole, fraction, none⟩, rest) := by
  have hpoint : EndsDigits ('.' :: (fraction ++ rest)) := endsDigits_cons (by decide) _
  rw [List.append_assoc]
  exact scanNumber_of_parts (scanWhole_append hwhole hpoint)
    (scanFraction_append hfraction hne h.endsDigits) (scanExponent_of_ends h)

theorem isWhole_singleton {d : Char} (hd : isDigit d = true) : IsWhole [d] := by
  refine ⟨List.forall_mem_singleton.2 hd, ?_⟩
  by_cases hzero : d = '0'
  · exact .inl (hzero ▸ rfl)
  · exact .inr ⟨d, [], rfl, hzero⟩

/-- What the positional text of digits is: digits before a point and digits behind it. -/
theorem exists_positional {ds : List Char} (hds : IsWhole ds) {before : Int}
    (hzero : ds = ['0'] → before ≤ 1) :
    ∃ whole fraction, Number.positional ds before = whole ++ '.' :: fraction ∧ IsWhole whole ∧
      (∀ c ∈ fraction, isDigit c = true) ∧ fraction ≠ [] ∧
      (whole.length : Int) ≤ max 1 before := by
  have hne : ds ≠ [] := by
    rcases hds.first with rfl | ⟨c, cs, rfl, -⟩
    · exact List.cons_ne_nil _ _
    · exact List.cons_ne_nil _ _
  have hlone : IsWhole ['0'] := isWhole_singleton (by decide)
  cases before with
  | negSucc k =>
    refine ⟨['0'], List.replicate (k + 1) '0' ++ ds, rfl, hlone, ?_, by simp [hne], by simp⟩
    exact List.forall_mem_append.2 ⟨isDigit_replicate_zero, hds.isDigit⟩
  | ofNat k =>
    rw [Number.positional]
    split_ifs with hk hlen
    · exact ⟨['0'], ds, rfl, hlone, hds.isDigit, hne, by simp⟩
    · refine ⟨ds ++ List.replicate (k - ds.length) '0', ['0'], by simp, ⟨?_, ?_⟩,
        hlone.isDigit, List.cons_ne_nil _ _, ?_⟩
      · exact List.forall_mem_append.2 ⟨hds.isDigit, isDigit_replicate_zero⟩
      · rcases hds.first with rfl | ⟨c, cs, rfl, hc⟩
        · have hle : k ≤ 1 := by simpa using hzero rfl
          have hnone : k - ['0'].length = 0 := by simp; omega
          rw [hnone]
          exact .inl rfl
        · exact .inr ⟨c, _, rfl, hc⟩
      · simp
        omega
    · refine ⟨ds.take k, ds.drop k, rfl, ⟨?_, ?_⟩, ?_, ?_, ?_⟩
      · exact fun c hc => hds.isDigit c (List.mem_of_mem_take hc)
      · rcases hds.first with rfl | ⟨c, cs, rfl, hc⟩
        · simp at hlen
          omega
        · obtain ⟨k, rfl⟩ := Nat.exists_eq_succ_of_ne_zero hk
          exact .inr ⟨c, cs.take k, rfl, hc⟩
      · exact fun c hc => hds.isDigit c (List.mem_of_mem_drop hc)
      · simp
        omega
      · simp

theorem scanExponent_signed (power : Int) (h : Ends rest) :
    scanExponent ('e' :: (if power < 0 then '-' else '+') :: digits 10 power.natAbs ++ rest)
      = some (some power, rest) := by
  have hscan (negative : Bool) := scanExponentDigits_append negative
    (fun _ => isDigit_of_mem_digits (n := power.natAbs)) (digits_ne_nil 10 _)
    (value?_digits (by decide) (by decide) power.natAbs) h.endsDigits
  split_ifs with hneg
  · have habs : -(power.natAbs : Int) = power := by omega
    simp only [scanExponent, List.cons_append, true_or, if_true, hscan, habs]
  · have habs : (power.natAbs : Int) = power := by omega
    simp only [scanExponent, List.cons_append, true_or, if_true, hscan, habs]
    rfl

theorem scanNumber_withExponent (negative : Bool) {d : Char} {ds : List Char}
    (hall : ∀ c ∈ d :: ds, isDigit c = true) (power : Int) (h : Ends rest) :
    scanNumber negative (Number.withExponent (d :: ds) power ++ rest)
      = some (⟨negative, [d], ds, some power⟩, rest) := by
  obtain ⟨hd, hds⟩ := List.forall_mem_cons.1 hall
  have hexponent := scanExponent_signed power h
  have hends : EndsFraction
      ('e' :: (if power < 0 then '-' else '+') :: digits 10 power.natAbs ++ rest) :=
    ⟨endsDigits_cons (by decide) _, by simp⟩
  cases ds with
  | nil =>
    have htext : Number.withExponent [d] power ++ rest
        = [d] ++ ('e' :: (if power < 0 then '-' else '+') :: digits 10 power.natAbs ++ rest) := by
      simp [Number.withExponent]
    rw [htext]
    exact scanNumber_of_parts (scanWhole_append (isWhole_singleton hd) hends.1)
      (scanFraction_of_endsFraction hends) hexponent
  | cons c cs =>
    have htext : Number.withExponent (d :: c :: cs) power ++ rest
        = [d] ++ ('.' :: (c :: cs ++
          ('e' :: (if power < 0 then '-' else '+') :: digits 10 power.natAbs ++ rest))) := by
      simp [Number.withExponent]
    rw [htext]
    have hpoint : EndsDigits ('.' :: (c :: cs ++
        ('e' :: (if power < 0 then '-' else '+') :: digits 10 power.natAbs ++ rest))) :=
      endsDigits_cons (by decide) _
    exact scanNumber_of_parts (scanWhole_append (isWhole_singleton hd) hpoint)
      (scanFraction_append hds (List.cons_ne_nil c cs) hends.1) hexponent

end JsonText

/-! ## Doubles are spelled -/

namespace Number

open Decimal JsonText

/-- A text that is scanned as a literal, with its sign before it, is the number of the literal. -/
theorem spells_of_scanNumber {l : NumberLiteral} {n : Number} (hn : l.number? = some n)
    {text : List Char} (htext : ∃ c cs, text = c :: cs ∧ isDigit c = true)
    (hscan : ∀ rest, Ends rest → scanNumber l.negative (text ++ rest) = some (l, rest)) :
    Spells (.number n) ((if l.negative then ['-'] else []) ++ text) := by
  obtain ⟨c, cs, rfl, hc⟩ := htext
  cases hneg : l.negative with
  | false =>
    refine .number (.inl hc) fun rest hr => ?_
    have h := hscan rest hr
    rw [hneg, List.cons_append] at h
    rw [scanScalar_of_isDigit hc, h]
    exact congrArg (fun n => (Document.number n, some rest)) hn
  | true =>
    refine .number (.inr rfl) fun rest hr => ?_
    have h := hscan rest hr
    have hscalar : scanScalar ('-' :: (c :: cs ++ rest)) = (.number l.number?, some rest) := by
      rw [hneg] at h
      rw [scanScalar, h]
    rw [hn] at hscalar
    exact hscalar

/-- A literal without an exponent and with few digits before the point is a number. -/
theorem exists_number?_of_point (negative : Bool) {whole fraction : List Char}
    (hlen : (whole.length : Int) ≤ 100) (hne : fraction ≠ []) :
    ∃ n, (NumberLiteral.mk negative whole fraction none).number? = some n := by
  obtain ⟨hfits, hpower⟩ := (NumberLiteral.mk negative whole fraction none).scale_fits
  refine NumberLiteral.exists_number? (.inl hne) (Magnitude.exists_ofScientific hfits ?_)
  rw [Option.getD_none, add_zero]
  generalize (NumberLiteral.mk negative whole fraction none).scale = s at *
  have hs : (s.significand : ℚ) ≤ 10 ^ 20 := by
    calc (s.significand : ℚ) ≤ (2 ^ 64 : Nat) := Nat.cast_le.2 (Nat.le_of_lt hfits)
      _ ≤ 10 ^ 20 := by norm_num
  have hp : (10 : ℚ) ^ s.power ≤ 10 ^ (100 : Int) :=
    zpow_le_zpow_right₀ (by norm_num) (hpower.trans hlen)
  calc (s.significand : ℚ) * 10 ^ s.power * (1 + Magnitude.epsilon) ^ 2
      ≤ 10 ^ 20 * 10 ^ (100 : Int) * 10 := by
        gcongr
        norm_num [Magnitude.epsilon]
    _ = 10 ^ 121 := by norm_num
    _ ≤ 10 ^ 308 := pow_le_pow_right₀ (by norm_num) (by norm_num)
    _ < Magnitude.limit := Magnitude.lt_limit

theorem exists_number?_of_room (negative : Bool) {m : Magnitude} (h : m.IsFinite)
    (hroom : m.exponent ≤ 970 ∨ m.significand ≤ 2 ^ 53 - 4) {d : Char} {ds : List Char}
    (hds : digits 10 m.shortest.1 = d :: ds) :
    ∃ n, (NumberLiteral.mk negative [d] ds (some (m.shortest.2 + ds.length))).number? = some n := by
  have hten : (10 : ℚ) ≠ 0 := by norm_num
  refine NumberLiteral.exists_number? (.inr (by simp)) (Magnitude.exists_ofScientific ?_ ?_)
  · exact (NumberLiteral.scale_fits _).1
  have hd : d.toNat - 48 < 10 := by
    have hdigit : isDigit d = true := isDigit_of_mem_digits (hds ▸ List.mem_cons_self)
    simp only [isDigit, Bool.and_eq_true, decide_eq_true_eq, Char.le_def,
      UInt32.le_iff_toNat_le] at hdigit
    have hnine : d.toNat ≤ 57 := hdigit.2
    omega
  have hwhole : [d].foldl NumberLiteral.Scale.pushWhole ⟨0, 0⟩ = ⟨d.toNat - 48, 0⟩ := by
    simp [NumberLiteral.Scale.pushWhole, UInt64.size]
    omega
  have hdigits : NumberLiteral.pushDigits (d.toNat - 48) ds = m.shortest.1 := by
    have hall := NumberLiteral.pushDigits_digits m.shortest.1
    rwa [hds, NumberLiteral.pushDigits, List.foldl_cons, Nat.zero_mul, Nat.zero_add] at hall
  have hscale := NumberLiteral.pushFraction_le ⟨d.toNat - 48, 0⟩ ds
  rw [hdigits] at hscale
  rw [NumberLiteral.scale, hwhole, Option.getD_some]
  dsimp only
  generalize NumberLiteral.Scale.pushFraction ⟨d.toNat - 48, 0⟩ ds = s at *
  have hvalue : (s.significand : ℚ) * 10 ^ (s.power + (m.shortest.2 + ds.length))
      ≤ (m.significand + 1 / 2) * 2 ^ m.exponent := by
    calc (s.significand : ℚ) * 10 ^ (s.power + (m.shortest.2 + ds.length))
        = s.significand * 10 ^ s.power * 10 ^ (m.shortest.2 + ds.length) := by
          rw [zpow_add₀ hten, mul_assoc]
      _ ≤ m.shortest.1 * 10 ^ (0 - ds.length : Int) * 10 ^ (m.shortest.2 + ds.length) := by gcongr
      _ = m.shortest.1 * 10 ^ m.shortest.2 := by
          rw [mul_assoc, ← zpow_add₀ hten]
          congr 2
          ring
      _ ≤ (m.significand + 1 / 2) * 2 ^ m.exponent := m.shortest_le
  calc (s.significand : ℚ) * 10 ^ (s.power + (m.shortest.2 + ds.length))
        * (1 + Magnitude.epsilon) ^ 2
      ≤ (m.significand + 1 / 2) * 2 ^ m.exponent * (1 + Magnitude.epsilon) ^ 2 := by gcongr
    _ < Magnitude.limit := h.room_above hroom

/-- The number of the text with an exponent of digits and a power of ten. -/
def exponentNumber? (negative : Bool) (n : Nat) (power : Int) : Option Number :=
  match digits 10 n with
  | d :: ds => (NumberLiteral.mk negative [d] ds (some (power + ds.length))).number?
  | [] => none

/-- Above the three largest magnitudes there is no room, so that their texts are looked at. -/
theorem shortest_largest :
    ∀ s ∈ [2 ^ 53 - 3, 2 ^ 53 - 2, 2 ^ 53 - 1], ∃ last ∈ [3, 5, 7],
      (⟨s, 971⟩ : Magnitude).shortest = (17976931348623150 + last, 292) := by
  have hsearch : ∀ s ∈ [2 ^ 53 - 3, 2 ^ 53 - 2, 2 ^ 53 - 1],
      let i := (⟨s, 971⟩ : Magnitude).interval
      10 ^ 308 ≤ i.value / i.den ∧ i.value / i.den < 10 ^ (308 + 1) ∧
        ∃ last ∈ [3, 5, 7], (i.search (308 + 1 : Nat) 20).getD (0, 0)
          = (17976931348623150 + last, 292) := by decide +kernel
  intro s hs
  obtain ⟨hlow, hhigh, last, hlast, heq⟩ := hsearch s hs
  exact ⟨last, hlast, (Magnitude.shortest_eq_search hlow hhigh).trans heq⟩

theorem exponentNumber?_largest :
    ∀ last ∈ [3, 5, 7], ∀ negative : Bool,
      (exponentNumber? negative (17976931348623150 + last) 292).isSome = true := by
  decide +kernel

theorem exists_number?_of_exponent (negative : Bool) {m : Magnitude} (h : m.IsFinite) {d : Char}
    {ds : List Char} (hds : digits 10 m.shortest.1 = d :: ds) :
    ∃ n, (NumberLiteral.mk negative [d] ds (some (m.shortest.2 + ds.length))).number? = some n := by
  by_cases hroom : m.exponent ≤ 970 ∨ m.significand ≤ 2 ^ 53 - 4
  · exact exists_number?_of_room negative h hroom hds
  · obtain ⟨s, e⟩ := m
    obtain ⟨he, hs⟩ := not_or.1 hroom
    obtain ⟨hlt, -, hle⟩ := h
    dsimp only at he hs hlt hle
    obtain rfl : e = 971 := by omega
    have hmem : s ∈ [2 ^ 53 - 3, 2 ^ 53 - 2, 2 ^ 53 - 1] := by
      simp only [List.mem_cons, List.not_mem_nil, or_false]
      omega
    obtain ⟨last, hlast, hshortest⟩ := shortest_largest s hmem
    have hsome := exponentNumber?_largest last hlast negative
    rw [hshortest] at hds ⊢
    rw [exponentNumber?, hds] at hsome
    exact Option.isSome_iff_exists.1 hsome

theorem exists_spells_point (negative : Bool) {whole fraction : List Char} (hwhole : IsWhole whole)
    (hfraction : ∀ c ∈ fraction, isDigit c = true) (hne : fraction ≠ [])
    (hlen : (whole.length : Int) ≤ 100) :
    ∃ n, Spells (.number n) ((if negative then ['-'] else []) ++ (whole ++ '.' :: fraction)) := by
  obtain ⟨n, hn⟩ := exists_number?_of_point negative hlen hne
  refine ⟨n, spells_of_scanNumber hn ?_ fun rest hr =>
    scanNumber_point negative hwhole hfraction hne hr⟩
  rcases hwhole.first with rfl | ⟨c, cs, rfl, -⟩
  · exact ⟨'0', _, rfl, by decide⟩
  · exact ⟨c, _, rfl, hwhole.isDigit c List.mem_cons_self⟩

theorem exists_spells_exponent (negative : Bool) {m : Magnitude} (h : m.IsFinite) {d : Char}
    {ds : List Char} (hds : digits 10 m.shortest.1 = d :: ds) :
    ∃ n, Spells (.number n) ((if negative then ['-'] else []) ++
      withExponent (d :: ds) (m.shortest.2 + ds.length)) := by
  have hall : ∀ c ∈ d :: ds, isDigit c = true := fun c hc => isDigit_of_mem_digits (hds ▸ hc)
  obtain ⟨n, hn⟩ := exists_number?_of_exponent negative h hds
  refine ⟨n, spells_of_scanNumber hn ?_ fun rest hr => scanNumber_withExponent negative hall _ hr⟩
  refine ⟨d, ?_⟩
  cases ds with
  | nil => exact ⟨_, rfl, hall d List.mem_cons_self⟩
  | cons c cs => exact ⟨_, rfl, hall d List.mem_cons_self⟩

/-- The text of a magnitude above zero, from the digits of the shortest text. -/
theorem magnitudeText_eq {m : Magnitude} (hzero : m.significand ≠ 0) {d : Char} {ds : List Char}
    (hds : digits 10 m.shortest.1 = d :: ds) :
    magnitudeText doubleFormat m =
      if -5 ≤ m.shortest.2 + ds.length ∧ m.shortest.2 + ds.length ≤ 15 then
        positional (d :: ds) (m.shortest.2 + ds.length + 1)
      else withExponent (d :: ds) (m.shortest.2 + ds.length) := by
  have hfirst : m.shortest.2 + (d :: ds).length - 1 = m.shortest.2 + ds.length := by
    rw [List.length_cons]
    push_cast
    ring
  rw [magnitudeText, if_neg hzero]
  dsimp only
  rw [hds, hfirst]
  rfl

theorem exists_spells_double (negative : Bool) {m : Magnitude} (h : m.IsFinite) :
    ∃ n, Spells (.number n) (Number.double negative m).text.toList := by
  have htext : (Number.double negative m).text.toList
      = (if negative then ['-'] else []) ++ magnitudeText doubleFormat m := String.toList_ofList
  rw [htext]
  by_cases hzero : m.significand = 0
  · rw [magnitudeText, if_pos hzero]
    exact exists_spells_point negative (isWhole_singleton (by decide))
      (List.forall_mem_singleton.2 (by decide)) (List.cons_ne_nil '0' []) (by decide)
  obtain ⟨d, ds, hds⟩ := List.exists_cons_of_ne_nil (digits_ne_nil 10 m.shortest.1)
  rw [magnitudeText_eq hzero hds]
  by_cases hsplit : -5 ≤ m.shortest.2 + ds.length ∧ m.shortest.2 + ds.length ≤ 15
  · rw [if_pos hsplit]
    -- a lone zero is not shifted, so that no zero leads
    have hlone : d :: ds = ['0'] → m.shortest.2 + ds.length + 1 ≤ 1 := by
      intro hz
      have hvalue : value? 10 (digits 10 m.shortest.1) = some m.shortest.1 :=
        value?_digits (by decide) (by decide) m.shortest.1
      rw [hds, hz] at hvalue
      have hpower := Magnitude.shortest_of_eq_zero hzero (Option.some.inj hvalue).symm
      simp [hpower, (List.cons.inj hz).2]
    obtain ⟨whole, fraction, htext', hwhole, hfraction, hne, hlen⟩ :=
      exists_positional (hds ▸ isWhole_digits m.shortest.1) hlone
    rw [htext']
    exact exists_spells_point negative hwhole hfraction hne (by omega)
  · rw [if_neg hsplit]
    exact exists_spells_exponent negative h hds

/-- An integer of at most 64 bits or a finite double. -/
def IsFinite : Number → Prop
  | .integer n => -9223372036854775808 ≤ n ∧ n ≤ 18446744073709551615
  | .double _ m => m.IsFinite

/-- The text of a number is read as a number, though not always the same one. -/
theorem exists_spells {n : Number} (h : n.IsFinite) :
    ∃ n', Spells (.number n') n.text.toList := by
  cases n with
  | integer n => exact ⟨_, Spells.integer h.1 h.2⟩
  | double negative m => exact exists_spells_double negative h

/-- The number as which the text of a number is read. -/
def reread (n : Number) : Number :=
  match (JsonText.read n.text).root with
  | .number (some n') => n'
  | _ => n

theorem reread_of_spells {n n' : Number} (h : Spells (.number n') n.text.toList) :
    n.reread = n' := by
  have hread := read_of_spells h
  rw [String.ofList_toList] at hread
  rw [reread, hread]
  rfl

theorem reread_integer {i : Int} (h : (integer i).IsFinite) : (integer i).reread = .integer i :=
  reread_of_spells (Spells.integer h.1 h.2)

theorem spells_reread {n : Number} (h : n.IsFinite) :
    Spells (.number n.reread) n.text.toList := by
  obtain ⟨n', hn'⟩ := exists_spells h
  rwa [reread_of_spells hn']

end Number

/-- The compact text of a value is read as the value with each number as its text is read. -/
theorem JsonText.read_compact_reread {v : Json} (h : ∀ n ∈ v.numbers, n.IsFinite) :
    read v.compact = ⟨.ofJson (v.mapNumbers Number.reread), false⟩ :=
  read_compact_mapNumbers fun n hn => Number.spells_reread (h n hn)

end NodeAudit
