import NodeAudit.Proofs.Json.Token

/-!
# How far a token reaches

The scanners of strings, numbers and words take a prefix of the text and look at no more than one
character behind it. The prefix is read alike whatever follows, if only the text of a number is not
continued: for each part of a number it is said what may follow (`EndsDigits`, `EndsFraction`,
`Ends`), and the parts are put together from the last to the first.

Main statements: `exists_readsString` and `exists_readsScalar`.
-/

namespace NodeAudit.JsonText

open Decimal

variable {cs rest : List Char}

/-! ## Strings -/

/-- The string scanner takes the characters off the front of the text, whatever follows them. -/
def ReadsString (units : List Unit) (used : List Char) : Prop :=
  ∀ rest, scanString (used ++ rest) = some (units, rest)

/-- Characters that stand for one unit, before a string that is read. -/
theorem exists_readsString_cons (unit : Unit) (front : List Char) {cs : List Char}
    (hfront : ∀ cs, scanString (front ++ cs)
      = (scanString cs).map fun (units, rest) => (unit :: units, rest))
    (ih : ∀ units, scanString cs = some (units, rest) →
      ∃ used, cs = used ++ rest ∧ ReadsString units used)
    {units : List Unit} (h : scanString (front ++ cs) = some (units, rest)) :
    ∃ used, front ++ cs = used ++ rest ∧ ReadsString units used := by
  rw [hfront, Option.map_eq_some_iff] at h
  obtain ⟨⟨units', rest'⟩, hscan, heq⟩ := h
  obtain ⟨rfl, rfl⟩ := Prod.mk.inj heq
  obtain ⟨used, rfl, hused⟩ := ih units' hscan
  refine ⟨front ++ used, (List.append_assoc ..).symm, fun rest => ?_⟩
  rw [List.append_assoc, hfront, hused rest]
  rfl

theorem exists_readsString {units : List Unit} (h : scanString cs = some (units, rest)) :
    ∃ used, cs = used ++ rest ∧ ReadsString units used := by
  induction cs using scanString.induct generalizing units with
  | case1 => cases h
  | case2 cs =>
    obtain ⟨rfl, rfl⟩ := Prod.mk.inj (Option.some.inj h)
    exact ⟨['"'], rfl, fun _ => rfl⟩
  | case3 a b c d cs n hn ih =>
    refine exists_readsString_cons (.ofNat n) ['\\', 'u', a, b, c, d]
      (fun cs => ?_) (fun _ => ih) h
    simp [scanString, hn]
  | case4 a b c d cs hn => simp [scanString, hn] at h
  | case5 e cs hne c hc ih =>
    have hu : e ≠ 'u' := by
      rintro rfl
      cases hc
    refine exists_readsString_cons (.char c) ['\\', e] (fun cs => ?_)
      (fun _ => ih) h
    have hstep := scanString.eq_4 e cs fun _ _ _ _ _ he => absurd he hu
    simp [hstep, hc]
  | case6 e cs hne hc => simp [scanString.eq_4 e cs hne, hc] at h
  | case7 c cs hquote hlong hshort hc => simp [scanString.eq_5 c cs hquote hlong hshort, hc] at h
  | case8 c cs hquote hlong hshort hc ih =>
    have hslash : c ≠ '\\' := fun heq => hc (.inr heq)
    refine exists_readsString_cons (.char c) [c] (fun cs => ?_) (fun _ => ih) h
    have hstep := scanString.eq_5 c cs hquote (fun _ _ _ _ _ heq => absurd heq hslash)
      fun _ _ heq => absurd heq hslash
    rw [List.singleton_append, hstep, if_neg hc]

/-! ## Numbers -/

theorem isDigit_of_mem_takeWhile {c : Char} (h : c ∈ cs.takeWhile isDigit) : isDigit c = true :=
  List.all_eq_true.1 List.all_takeWhile c h

/-- The digits before the point are taken as they stand. -/
theorem isWhole_of_scanWhole {ds : List Char} (h : scanWhole cs = some (ds, rest)) :
    cs = ds ++ rest ∧ IsWhole ds := by
  unfold scanWhole at h
  split at h
  · split at h
    · cases h
    · obtain ⟨rfl, rfl⟩ := Prod.mk.inj (Option.some.inj h)
      exact ⟨rfl, List.forall_mem_singleton.2 (by decide), .inl rfl⟩
  · obtain ⟨rfl, rfl⟩ := Prod.mk.inj (Option.some.inj h)
    exact ⟨rfl, List.forall_mem_singleton.2 (by decide), .inl rfl⟩
  · rename_i hzero hlone
    dsimp only at h
    split at h
    · cases h
    · rename_i hne
      obtain ⟨rfl, rfl⟩ := Prod.mk.inj (Option.some.inj h)
      refine ⟨List.takeWhile_append_dropWhile.symm, fun _ => isDigit_of_mem_takeWhile, .inr ?_⟩
      cases cs with
      | nil => exact absurd rfl hne
      | cons c cs =>
        rw [List.takeWhile_cons] at hne ⊢
        split at hne
        · rename_i hc
          refine ⟨c, cs.takeWhile isDigit, if_pos hc, ?_⟩
          rintro rfl
          cases cs with
          | nil => exact hlone rfl
          | cons d cs => exact hzero d cs rfl
        · exact absurd rfl hne

/-- What may stand behind the digits of a fraction. -/
def EndsFraction (rest : List Char) : Prop := EndsDigits rest ∧ ∀ c ∈ rest.head?, c ≠ '.'

theorem Ends.endsFraction (h : Ends rest) : EndsFraction rest :=
  ⟨h.endsDigits, fun c hc => (not_number_of_isDelimiter (h c hc)).2.1⟩

theorem scanFraction_of_endsFraction (h : EndsFraction rest) :
    scanFraction rest = some ([], rest) := by
  unfold scanFraction
  split
  · exact absurd rfl (h.2 '.' rfl)
  · rfl

theorem exists_of_scanFraction {ds : List Char} (h : scanFraction cs = some (ds, rest)) :
    ∃ used, cs = used ++ rest ∧ ∀ rest', EndsFraction rest' →
      EndsDigits (used ++ rest') ∧ scanFraction (used ++ rest') = some (ds, rest') := by
  unfold scanFraction at h
  split at h
  · rename_i cs
    dsimp only at h
    split at h
    · cases h
    · rename_i hne
      obtain ⟨rfl, rfl⟩ := Prod.mk.inj (Option.some.inj h)
      refine ⟨'.' :: cs.takeWhile isDigit, ?_, fun rest' hr => ⟨endsDigits_cons (by decide) _, ?_⟩⟩
      · rw [List.cons_append, List.takeWhile_append_dropWhile]
      · exact scanFraction_append (fun _ => isDigit_of_mem_takeWhile) (by simpa using hne) hr.1
  · obtain ⟨rfl, rfl⟩ := Prod.mk.inj (Option.some.inj h)
    exact ⟨[], rfl, fun rest' hr => ⟨hr.1, scanFraction_of_endsFraction hr⟩⟩

theorem exists_of_scanExponentDigits {negative : Bool} {e : Option Int}
    (h : scanExponentDigits negative cs = some (e, rest)) :
    ∃ c ds, isDigit c = true ∧ cs = c :: ds ++ rest ∧ ∀ rest', EndsDigits rest' →
      scanExponentDigits negative (c :: ds ++ rest') = some (e, rest') := by
  unfold scanExponentDigits at h
  dsimp only at h
  split at h
  · rename_i c ds n hds hn
    obtain ⟨rfl, rfl⟩ := Prod.mk.inj (Option.some.inj h)
    have hall : ∀ d ∈ c :: ds, isDigit d = true := fun d hd =>
      isDigit_of_mem_takeWhile (hds.symm ▸ hd)
    refine ⟨c, ds, hall c List.mem_cons_self, ?_, fun rest' hr => ?_⟩
    · rw [← hds, List.takeWhile_append_dropWhile]
    · exact scanExponentDigits_append negative hall (List.cons_ne_nil c ds) (hds ▸ hn) hr
  · cases h

theorem scanExponent_cons {c d : Char} (hc : c = 'e' ∨ c = 'E') (hd : isDigit d = true)
    (ds : List Char) : scanExponent (c :: d :: ds) = scanExponentDigits false (d :: ds) := by
  rw [scanExponent, if_pos hc]
  all_goals
    intro cs heq
    obtain ⟨rfl, -⟩ := List.cons.inj heq
    exact absurd hd (by decide)

theorem exists_of_scanExponent {e : Option Int} (h : scanExponent cs = some (e, rest)) :
    ∃ used, cs = used ++ rest ∧ ∀ rest', Ends rest' →
      EndsFraction (used ++ rest') ∧ scanExponent (used ++ rest') = some (e, rest') := by
  unfold scanExponent at h
  split at h
  · rename_i c cs
    split at h
    · rename_i hc
      have hends : ∀ cs, EndsFraction (c :: cs) := by
        intro cs
        refine ⟨endsDigits_cons ?_ cs, fun c' hc' => ?_⟩
        · rcases hc with rfl | rfl
          all_goals decide
        · obtain rfl := Option.some.inj hc'
          rcases hc with rfl | rfl
          all_goals decide
      split at h
      · obtain ⟨d, ds, -, rfl, hscan⟩ := exists_of_scanExponentDigits h
        refine ⟨c :: '+' :: d :: ds, rfl, fun rest' hr => ⟨hends _, ?_⟩⟩
        exact (if_pos hc).trans (hscan rest' hr.endsDigits)
      · obtain ⟨d, ds, -, rfl, hscan⟩ := exists_of_scanExponentDigits h
        refine ⟨c :: '-' :: d :: ds, rfl, fun rest' hr => ⟨hends _, ?_⟩⟩
        exact (if_pos hc).trans (hscan rest' hr.endsDigits)
      · obtain ⟨d, ds, hd, rfl, hscan⟩ := exists_of_scanExponentDigits h
        refine ⟨c :: d :: ds, rfl, fun rest' hr => ⟨hends _, ?_⟩⟩
        exact (scanExponent_cons hc hd _).trans (hscan rest' hr.endsDigits)
    · obtain ⟨rfl, rfl⟩ := Prod.mk.inj (Option.some.inj h)
      exact ⟨[], rfl, fun rest' hr => ⟨hr.endsFraction, scanExponent_of_ends hr⟩⟩
  · obtain ⟨rfl, rfl⟩ := Prod.mk.inj (Option.some.inj h)
    exact ⟨[], rfl, fun rest' hr => ⟨hr.endsFraction, scanExponent_of_ends hr⟩⟩

theorem exists_of_scanNumber {negative : Bool} {l : NumberLiteral}
    (h : scanNumber negative cs = some (l, rest)) :
    ∃ c used, isDigit c = true ∧ cs = c :: used ++ rest ∧ ∀ rest', Ends rest' →
      scanNumber negative (c :: used ++ rest') = some (l, rest') := by
  simp only [scanNumber, Option.bind_eq_bind, Option.bind_eq_some_iff, Prod.exists] at h
  obtain ⟨whole, cs₁, hwhole, fraction, cs₂, hfraction, exponent, cs₃, hexponent, heq⟩ := h
  obtain ⟨rfl, rfl⟩ := Prod.mk.inj (Option.some.inj heq)
  obtain ⟨rfl, hds⟩ := isWhole_of_scanWhole hwhole
  obtain ⟨used₁, rfl, hused₁⟩ := exists_of_scanFraction hfraction
  obtain ⟨used₂, rfl, hused₂⟩ := exists_of_scanExponent hexponent
  have hne : whole ≠ [] := by
    rintro rfl
    rcases hds.first with heq | ⟨c, ds, heq, -⟩
    all_goals cases heq
  obtain ⟨c, ds, rfl⟩ := List.exists_cons_of_ne_nil hne
  refine ⟨c, ds ++ used₁ ++ used₂, hds.isDigit c List.mem_cons_self, by simp, fun rest' hr => ?_⟩
  obtain ⟨hends₂, hscan₂⟩ := hused₂ rest' hr
  obtain ⟨hends₁, hscan₁⟩ := hused₁ _ hends₂
  have happ : c :: (ds ++ used₁ ++ used₂) ++ rest'
      = c :: ds ++ (used₁ ++ (used₂ ++ rest')) := by simp
  rw [happ]
  exact scanNumber_of_parts (scanWhole_append hds hends₁) hscan₁ hscan₂

/-! ## Scalars -/

theorem scanWord_eq_some_iff {word : List Char} :
    scanWord word cs = some rest ↔ cs = word ++ rest := by
  unfold scanWord
  constructor
  · intro h
    split at h
    · rename_i hword
      obtain rfl := Option.some.inj h
      rw [List.isPrefixOf_iff_prefix] at hword
      exact (List.prefix_iff_eq_append.1 hword).symm
    · cases h
  · rintro rfl
    simp

/-- The characters are a scalar, wherever they stand before a delimiter. -/
def ReadsScalar (d : Document) (used : List Char) : Prop :=
  ∀ rest, Ends rest → scanScalar (used ++ rest) = (d, some rest)

theorem exists_readsScalar {d : Document} (h : scanScalar cs = (d, some rest)) :
    ∃ c used, cs = c :: used ++ rest ∧ ReadsScalar d (c :: used) := by
  unfold scanScalar at h
  split at h
  case h_1 =>
    split at h
    · rename_i hscan
      obtain ⟨rfl, hrest⟩ := Prod.mk.inj h
      obtain rfl := Option.some.inj hrest
      obtain ⟨used, rfl, hused⟩ := exists_readsString hscan
      refine ⟨'"', used, rfl, fun rest' _ => ?_⟩
      simp only [List.cons_append, scanScalar, hused rest']
    · cases h
  case h_5 =>
    split at h
    · rename_i hscan
      obtain ⟨rfl, hrest⟩ := Prod.mk.inj h
      obtain rfl := Option.some.inj hrest
      obtain ⟨c, used, -, rfl, hused⟩ := exists_of_scanNumber hscan
      refine ⟨'-', c :: used, rfl, fun rest' hr => ?_⟩
      have hscan := hused rest' hr
      rw [List.cons_append, scanScalar, hscan]
    · cases h
  case h_6 =>
    split at h
    · rename_i hscan
      obtain ⟨rfl, hrest⟩ := Prod.mk.inj h
      obtain rfl := Option.some.inj hrest
      obtain ⟨c, used, hc, rfl, hused⟩ := exists_of_scanNumber hscan
      refine ⟨c, used, rfl, fun rest' hr => ?_⟩
      rw [List.cons_append, scanScalar_of_isDigit hc, ← List.cons_append, hused rest' hr]
    · cases h
  -- the three words
  all_goals
    split at h
    · rename_i hscan
      obtain ⟨rfl, hrest⟩ := Prod.mk.inj h
      obtain rfl := Option.some.inj hrest
      obtain rfl := scanWord_eq_some_iff.1 hscan
      exact ⟨_, _, rfl, fun _ _ => rfl⟩
    · cases h

end NodeAudit.JsonText
