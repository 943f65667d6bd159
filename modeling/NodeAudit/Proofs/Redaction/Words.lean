import Mathlib.Data.List.Infix
import Mathlib.Data.List.SplitBy
import NodeAudit.Proofs.Redaction.Blanks

/-!
# Redaction word by word and run by run

What the two passes do, said of a text as a whole. The text is taken apart into longest stretches of
characters with and without a property (`stretches`):

* `cutWord` cuts a word from the first of its rests on that is an address with credentials, and the
  first pass does so with each word (`redactUrls_eq_flatMap`);
* `cutRuns` cuts out the long runs of digits, each with a `0x` that stands between it and the long
  run before, and that is the second pass (`redactHex_eq_cutRuns`).

Main statement: `redact_eq_cut`.
-/

namespace NodeAudit.Redaction

variable {p : Char → Bool} {cs l rest gap run : List Char} {d : Char}

/-! ## Stretches of a text -/

/-- The longest stretches of the text in which all characters have the property or none has it. -/
def stretches (p : Char → Bool) (cs : List Char) : List (List Char) :=
  cs.splitBy fun c c' => p c == p c'

/-- A stretch is the first one if the text goes on differently. -/
theorem stretches_append {b : Bool} (hne : l ≠ []) (hl : ∀ c ∈ l, p c = b)
    (hrest : ∀ d ∈ rest.head?, p d = !b) :
    stretches p (l ++ rest) = l :: stretches p rest := by
  have hchain : l.IsChain fun c c' => (p c == p c') = true :=
    (List.pairwise_of_forall_mem_list fun c hc c' hc' => by simp [hl c hc, hl c' hc']).isChain
  have hend : ∀ c ∈ l.getLast?, ∀ d ∈ rest.head?, (p c == p d) = false := by
    intro c hc d hd
    rw [hl c (List.mem_of_getLast? hc), hrest d hd]
    cases b <;> rfl
  rw [stretches, List.splitBy_append hend, List.splitBy_of_isChain hne hchain]
  rfl

/-- What holds of the empty text, and of a text if it holds of what follows its first stretch, holds
of every text. -/
@[elab_as_elim]
theorem stretches_induction {motive : List Char → Prop} (p : Char → Bool) (nil : motive [])
    (append : ∀ (b : Bool) (l rest : List Char), l ≠ [] → (∀ c ∈ l, p c = b) →
      (∀ d ∈ rest.head?, p d = !b) → motive rest → motive (l ++ rest)) (cs : List Char) :
    motive cs := by
  induction hn : cs.length using Nat.strong_induction_on generalizing cs with
  | _ n ih =>
    subst hn
    cases cs with
    | nil => exact nil
    | cons c cs =>
      have hsplit := List.takeWhile_append_dropWhile (p := fun x => p x == p c) (l := c :: cs)
      have htake : (c :: cs).takeWhile (fun x => p x == p c) ≠ [] := by simp
      have hlt : ((c :: cs).dropWhile fun x => p x == p c).length < (c :: cs).length := by
        have hlen := congrArg List.length hsplit
        have hpos := List.length_pos_iff.2 htake
        rw [List.length_append] at hlen
        omega
      rw [← hsplit]
      refine append (p c) _ _ htake (fun x hx => ?_) (fun d hd => ?_) (ih _ hlt _ rfl)
      · simpa using List.mem_takeWhile_imp hx
      · have hnot := List.head?_dropWhile_not (fun x => p x == p c) (c :: cs)
        rw [Option.mem_def.1 hd] at hnot
        exact Bool.eq_not.2 (beq_eq_false_iff_ne.1 hnot)

/-! ## Words -/

/-- The words of a text and the blanks between them. -/
def words (cs : List Char) : List (List Char) := stretches isWordChar cs

/-- An address begins at the first character and goes to the end of the word. -/
theorem isCredentialUrl_iff :
    IsCredentialUrl cs ↔ startsCredentialUrl cs = true ∧ ∀ c ∈ cs, isWordChar c = true := by
  constructor
  · exact fun h => ⟨startsCredentialUrl_iff_isPrefix.2 ⟨cs, List.prefix_rfl, h⟩, h.isWordChar⟩
  · rintro ⟨hstart, hword⟩
    obtain ⟨url, ⟨tail, rfl⟩, first, scheme, user, password, rest, hfirst, hs, hu, hp, hr, rfl⟩ :=
      startsCredentialUrl_iff_isPrefix.1 hstart
    refine ⟨first, scheme, user, password, rest ++ tail, hfirst, hs, hu, hp, ⟨?_, ?_⟩, by simp⟩
    · exact List.append_ne_nil_of_left_ne_nil hr.1 tail
    · exact fun c hc => hword c (by simp_all)

theorem not_isCredentialUrl_nil : ¬ IsCredentialUrl [] := fun h => by
  cases (isCredentialUrl_iff.1 h).1

instance : DecidablePred IsCredentialUrl := fun cs =>
  decidable_of_iff' (startsCredentialUrl cs = true ∧ cs.all isWordChar = true)
    (isCredentialUrl_iff.trans (and_congr_right fun _ => List.all_eq_true.symm))

/-- A word up to the first of its rests that is an address with credentials, and a mark for that;
the whole word if none is. -/
def cutWord (w : List Char) : List Char :=
  match w.tails.findIdx? fun rest => decide (IsCredentialUrl rest) with
  | some i => w.take i ++ urlMark.toList
  | none => w

theorem cutWord_nil : cutWord [] = [] := by
  simp [cutWord, not_isCredentialUrl_nil]

theorem cutWord_of_isCredentialUrl (h : IsCredentialUrl cs) : cutWord cs = urlMark.toList := by
  cases cs with
  | nil => exact absurd h not_isCredentialUrl_nil
  | cons c cs => simp [cutWord, List.findIdx?_cons, h]

theorem cutWord_cons {c : Char} (h : ¬ IsCredentialUrl (c :: cs)) :
    cutWord (c :: cs) = c :: cutWord cs := by
  simp only [cutWord, List.tails_cons, List.findIdx?_cons, h, decide_false]
  cases cs.tails.findIdx? fun rest => decide (IsCredentialUrl rest) <;> simp

theorem redactUrls_word (h : ∀ c ∈ cs, isWordChar c = true) : redactUrls cs = cutWord cs := by
  induction cs with
  | nil => rw [redactUrls, cutWord_nil]
  | cons c cs ih =>
    obtain ⟨hc, hcs⟩ := List.forall_mem_cons.1 h
    rw [redactUrls]
    by_cases hs : startsCredentialUrl (c :: cs) = true
    · rw [if_pos hs, cutWord_of_isCredentialUrl (isCredentialUrl_iff.2 ⟨hs, h⟩),
        List.dropWhile_eq_nil_iff.2 hcs, redactUrls, List.append_nil]
    · rw [if_neg hs, ih hcs, cutWord_cons fun hurl => hs (isCredentialUrl_iff.1 hurl).1]

/-- No word is cut where there are only blanks. -/
theorem cutWord_blanks (h : ∀ c ∈ cs, isWordChar c = false) : cutWord cs = cs := by
  induction cs with
  | nil => exact cutWord_nil
  | cons c cs ih =>
    obtain ⟨hc, hcs⟩ := List.forall_mem_cons.1 h
    rw [cutWord_cons, ih hcs]
    intro hurl
    rw [hurl.isWordChar c List.mem_cons_self] at hc
    cases hc

theorem redactUrls_blanks (h : ∀ c ∈ l, isWordChar c = false) :
    redactUrls (l ++ rest) = l ++ redactUrls rest := by
  apply redactUrls_append
  intro c tail hsuffix
  have hc := h c (hsuffix.subset List.mem_cons_self)
  simp [startsCredentialUrl, isSchemeStart_of_not_isWordChar hc]

/-- The first pass cuts each word. -/
theorem redactUrls_eq_flatMap (cs : List Char) : redactUrls cs = (words cs).flatMap cutWord := by
  induction cs using stretches_induction isWordChar with
  | nil => rw [redactUrls, words, stretches, List.splitBy_nil, List.flatMap_nil]
  | append b l rest hne hl hrest ih =>
    rw [words, stretches_append hne hl hrest, List.flatMap_cons, ← words, ← ih]
    cases b with
    | false => rw [redactUrls_blanks hl, cutWord_blanks hl]
    | true =>
      rw [← redactUrls_word hl]
      cases rest with
      | nil => simp [redactUrls]
      | cons d rest =>
        have hd : isWordChar d = false := hrest d rfl
        rw [redactUrls_append_cons hd, redactUrls_cons (isSchemeStart_of_not_isWordChar hd)]

/-! ## Runs of digits -/

/-- The runs of digits of a text and what stands between them. -/
def runs (cs : List Char) : List (List Char) := stretches Decimal.isHexDigit cs

/-- A run of sixty-four or more hexadecimal digits. -/
def IsLongRun (run : List Char) : Prop :=
  64 ≤ run.length ∧ ∀ c ∈ run, Decimal.isHexDigit c = true

instance : DecidablePred IsLongRun := fun run =>
  decidable_of_iff (64 ≤ run.length ∧ run.all Decimal.isHexDigit = true)
    (and_congr_right fun _ => List.all_eq_true)

/-- The text before a long run, without `0x` at its end. -/
def beforeRun (gap : List Char) : List Char := (gap.dropSuffix? ['0', 'x']).getD gap

/-- Cut out the long runs of a text, `gap` being what stands between the last one and here. -/
def cutRuns (gap : List Char) : List (List Char) → List Char
  | [] => gap
  | run :: rest =>
    if IsLongRun run then beforeRun gap ++ hexMark.toList ++ cutRuns [] rest
    else cutRuns (gap ++ run) rest

theorem redactHex_append
    (h : ∀ tail, tail <:+ l → tail ≠ [] → afterLongRun? (tail ++ rest) = none) :
    redactHex (l ++ rest) = l ++ redactHex rest := by
  induction l with
  | nil => rfl
  | cons c l ih =>
    have hc : afterLongRun? (c :: (l ++ rest)) = none :=
      h (c :: l) (List.suffix_refl _) (List.cons_ne_nil c l)
    rw [List.cons_append, redactHex_cons hc, ih, List.cons_append]
    exact fun tail htail => h tail (htail.trans (List.suffix_cons c l))

/-- What stands before a character that is no digit holds no long run if the whole holds none. -/
theorem never_startsLongRun_of_append (h : Never startsLongRun (l ++ d :: rest))
    (hd : Decimal.isHexDigit d = false) : Never startsLongRun l := by
  rintro tail ⟨before, rfl⟩
  rw [← startsLongRun_append_cons tail rest hd]
  exact h _ ⟨before, by simp⟩

/-- Nothing is cut out at the beginning of a text without long runs that goes on at `d`, unless
this makes a `0x`. -/
theorem afterLongRun?_append_cons_eq_none (hl : Never startsLongRun l)
    (hd : Decimal.isHexDigit d = false) (hx : l = ['0'] → d ≠ 'x') :
    afterLongRun? (l ++ d :: rest) = none := by
  have hno : ∀ tail, tail <:+ l → startsLongRun (tail ++ d :: rest) = false :=
    fun tail htail => (startsLongRun_append_cons tail rest hd).trans (hl tail htail)
  by_cases hzero : ∃ tail, l ++ d :: rest = '0' :: 'x' :: tail
  · obtain ⟨tail, htail⟩ := hzero
    rcases l with _ | ⟨c, _ | ⟨c', l⟩⟩
    · obtain ⟨rfl, -⟩ := List.cons.inj htail
      exact absurd hd (by decide)
    · simp only [List.cons_append, List.nil_append, List.cons.injEq] at htail
      exact absurd htail.2.1 (hx (by rw [htail.1]))
    · simp only [List.cons_append, List.cons.injEq] at htail
      rw [List.cons_append, List.cons_append, htail.1, htail.2.1, afterLongRun?_zero_x,
        hno l ⟨[c, c'], rfl⟩]
      rfl
  · rw [afterLongRun?_of_ne fun tail htail => hzero ⟨tail, htail⟩, hno l (List.suffix_refl l)]
    rfl

/-- A long run is cut out up to its end, with or without `0x` before it. -/
theorem afterLongRun?_run (hrun : IsLongRun run)
    (hrest : ∀ d ∈ rest.head?, Decimal.isHexDigit d = false) :
    afterLongRun? (run ++ rest) = some rest ∧
      afterLongRun? ('0' :: 'x' :: (run ++ rest)) = some rest := by
  obtain ⟨hlen, hdigits⟩ := hrun
  have hstart : startsLongRun (run ++ rest) = true := by
    rw [startsLongRun_iff, List.takeWhile_append_of_pos hdigits, List.length_append]
    omega
  have hdrop : (run ++ rest).dropWhile Decimal.isHexDigit = rest := by
    rw [List.dropWhile_append_of_pos hdigits]
    cases rest with
    | nil => rfl
    | cons d rest => exact List.dropWhile_cons_of_neg (by simp [hrest d rfl])
  refine ⟨?_, ?_⟩
  · rw [afterLongRun?_of_ne, hstart, hdrop]
    · rfl
    -- the letter of `0x` is no digit
    intro tail htail
    rcases run with _ | ⟨c, _ | ⟨c', run⟩⟩
    · simp at hlen
    · simp at hlen
    · simp only [List.cons_append, List.cons.injEq] at htail
      have hc := hdigits c' (by simp)
      rw [htail.2.1] at hc
      cases hc
  · rw [afterLongRun?_zero_x, hstart, hdrop]
    rfl

theorem beforeRun_of_suffix (g : List Char) : beforeRun (g ++ ['0', 'x']) = g := by
  have hdrop : (g ++ ['0', 'x']).dropSuffix? ['0', 'x'] = some g :=
    List.dropSuffix?_eq_some_iff.2 ⟨['0', 'x'], rfl, rfl⟩
  rw [beforeRun, hdrop, Option.getD_some]

theorem beforeRun_of_not_suffix (h : ∀ g, gap ≠ g ++ ['0', 'x']) : beforeRun gap = gap := by
  have hdrop : gap.dropSuffix? ['0', 'x'] = none := by
    refine Option.eq_none_iff_forall_ne_some.2 fun g hg => ?_
    obtain ⟨s, hs, hbeq⟩ := List.dropSuffix?_eq_some_iff.1 hg
    exact h g (by rw [hs, eq_of_beq hbeq])
  rw [beforeRun, hdrop, Option.getD_none]

/-- The second pass cuts out the first long run and goes on behind it. -/
theorem redactHex_run (hgap : Never startsLongRun gap)
    (hend : ∀ c ∈ gap.getLast?, Decimal.isHexDigit c = false) (hrun : IsLongRun run)
    (hrest : ∀ d ∈ rest.head?, Decimal.isHexDigit d = false) :
    redactHex (gap ++ (run ++ rest)) = beforeRun gap ++ hexMark.toList ++ redactHex rest := by
  obtain ⟨hcut, hcut'⟩ := afterLongRun?_run hrun hrest
  by_cases hzero : ∃ g, gap = g ++ ['0', 'x']
  · obtain ⟨g, rfl⟩ := hzero
    have hx : Decimal.isHexDigit 'x' = false := by decide
    have hwhole : Never startsLongRun (g ++ ['0'] ++ ['x']) := by simpa using hgap
    have hnever : Never startsLongRun (g ++ ['0']) := never_startsLongRun_of_append hwhole hx
    have happend : redactHex (g ++ '0' :: 'x' :: (run ++ rest))
        = g ++ redactHex ('0' :: 'x' :: (run ++ rest)) := by
      apply redactHex_append
      rintro tail ⟨before, rfl⟩ hne
      have hnone : afterLongRun? (tail ++ ['0'] ++ 'x' :: (run ++ rest)) = none :=
        afterLongRun?_append_cons_eq_none (hnever.suffix ⟨before, by simp⟩) hx (by simp [hne])
      simpa using hnone
    rw [beforeRun_of_suffix, List.append_assoc, List.cons_append, List.cons_append, List.nil_append,
      happend, redactHex_of_afterLongRun? hcut', List.append_assoc]
  · rw [beforeRun_of_not_suffix fun g hg => hzero ⟨g, hg⟩, redactHex_append,
      redactHex_of_afterLongRun? hcut, List.append_assoc]
    rintro tail ⟨before, rfl⟩ hne
    obtain ⟨l, c, rfl⟩ := (List.eq_nil_or_concat' tail).resolve_left hne
    have hc : Decimal.isHexDigit c = false := hend c (by simp)
    have hnever : Never startsLongRun l :=
      never_startsLongRun_of_append (hgap.suffix (List.suffix_append before _)) hc
    have hnone : afterLongRun? (l ++ c :: (run ++ rest)) = none := by
      refine afterLongRun?_append_cons_eq_none hnever hc ?_
      rintro rfl rfl
      exact hzero ⟨before, rfl⟩
    simpa using hnone

/-- Two texts without long runs make none if digits do not meet where they do. -/
theorem Never.append_runs (hgap : Never startsLongRun gap) (hcs : Never startsLongRun cs)
    (hmeet : ∀ c ∈ gap.getLast?, ∀ d ∈ cs.head?,
      Decimal.isHexDigit c = true → Decimal.isHexDigit d = false) :
    Never startsLongRun (gap ++ cs) := by
  rcases cs with _ | ⟨d, cs⟩
  · simpa using hgap
  cases hd : Decimal.isHexDigit d with
  | false => exact never_startsLongRun_append hgap hd (never_cons.1 hcs).2
  | true =>
    rcases List.eq_nil_or_concat' gap with rfl | ⟨g, c, rfl⟩
    · exact hcs
    have hc : Decimal.isHexDigit c = false := by
      apply Bool.eq_false_iff.2
      intro hc
      have hnot := hmeet c (by simp) d rfl hc
      rw [hd] at hnot
      cases hnot
    have hg := never_startsLongRun_of_append hgap hc
    simpa using never_startsLongRun_append hg hc hcs

/-- A stretch of digits or of other characters that is no long run holds none. -/
theorem never_startsLongRun_of_not_isLongRun {b : Bool}
    (hl : ∀ c ∈ l, Decimal.isHexDigit c = b) (hlong : ¬ IsLongRun l) : Never startsLongRun l := by
  cases b with
  | true =>
    have hlen : ¬ 64 ≤ l.length := fun hlen => hlong ⟨hlen, hl⟩
    exact never_startsLongRun_of_length (by omega)
  | false =>
    intro tail htail
    cases tail with
    | nil => rfl
    | cons c tail =>
      exact startsLongRun_append_cons [] tail (hl c (htail.subset List.mem_cons_self))

/-- The second pass cuts out the long runs. -/
theorem redactHex_append_eq_cutRuns (hgap : Never startsLongRun gap)
    (hmeet : ∀ c ∈ gap.getLast?, ∀ d ∈ cs.head?,
      Decimal.isHexDigit c = true → Decimal.isHexDigit d = false) :
    redactHex (gap ++ cs) = cutRuns gap (runs cs) := by
  induction cs using stretches_induction Decimal.isHexDigit generalizing gap with
  | nil =>
    rw [List.append_nil, redactHex_eq_self hgap]
    rfl
  | append b l rest hne hl hrest ih =>
    rw [List.head?_append_of_ne_nil l hne] at hmeet
    rw [runs, stretches_append hne hl hrest, cutRuns, ← runs]
    by_cases hlong : IsLongRun l
    · have hb : b = true := (hl _ (List.head_mem hne)).symm.trans (hlong.2 _ (List.head_mem hne))
      subst hb
      have hend : ∀ c ∈ gap.getLast?, Decimal.isHexDigit c = false := by
        intro c hc
        apply Bool.eq_false_iff.2
        intro hdigit
        have hnot := hmeet c hc _ (List.head_mem_head? hne) hdigit
        rw [hl _ (List.head_mem hne)] at hnot
        cases hnot
      have hbehind : redactHex rest = cutRuns [] (runs rest) := ih (never_nil rfl) (by simp)
      rw [if_pos hlong, redactHex_run hgap hend hlong hrest, hbehind]
    · rw [if_neg hlong, ← List.append_assoc]
      refine ih (hgap.append_runs (never_startsLongRun_of_not_isLongRun hl hlong) hmeet) ?_
      intro c hc d hd hdigit
      rw [List.getLast?_append_of_ne_nil gap hne] at hc
      rw [hrest d hd, ← hl c (List.mem_of_getLast? hc), hdigit]
      rfl

theorem redactHex_eq_cutRuns (cs : List Char) : redactHex cs = cutRuns [] (runs cs) :=
  redactHex_append_eq_cutRuns (never_nil rfl : Never startsLongRun []) (by simp)

-- The last `0` belongs to the first run, so that no `0x` stands between the two.
example : cutRuns [] [List.replicate 64 '0', ['x'], List.replicate 65 'F']
    = "[REDACTED_HEX]x[REDACTED_HEX]".toList := by
  decide

/-! ## Blanks -/

theorem filter_isBlank_redactUrls (cs : List Char) :
    (redactUrls cs).filter Text.isBlank = cs.filter Text.isBlank := by
  fun_induction redactUrls cs with
  | case1 => rfl
  | case2 c cs hs ih =>
    have hc : Text.isBlank c = false := by
      simpa [isWordChar] using isWordChar_of_isSchemeStart (startsCredentialUrl_cons_iff.1 hs).1
    have hword : (cs.takeWhile isWordChar).filter Text.isBlank = [] := by
      refine List.filter_eq_nil_iff.2 fun x hx => ?_
      simpa [isWordChar] using List.mem_takeWhile_imp hx
    have hsplit : cs.filter Text.isBlank = (cs.dropWhile isWordChar).filter Text.isBlank := by
      conv_lhs => rw [← List.takeWhile_append_dropWhile (p := isWordChar) (l := cs)]
      rw [List.filter_append, hword, List.nil_append]
    rw [List.filter_append, ih, List.filter_cons, hc, hsplit]
    rfl
  | case3 c cs hs ih => simp only [List.filter_cons, ih]

theorem filter_isBlank_redactHex (cs : List Char) :
    (redactHex cs).filter Text.isBlank = cs.filter Text.isBlank := by
  fun_induction redactHex cs with
  | case1 cs rest hrun ih =>
    obtain ⟨run, rfl, -, hall⟩ := eq_append_of_afterLongRun? hrun
    have hnone : run.filter Text.isBlank = [] := by
      refine List.filter_eq_nil_iff.2 fun x hx hblank => ?_
      have hrunChar := hall x hx
      rw [isRunChar_of_isBlank hblank] at hrunChar
      cases hrunChar
    rw [List.filter_append, List.filter_append, ih, hnone]
    rfl
  | case2 => rfl
  | case3 c cs hrun ih => simp only [List.filter_cons, ih]

/-! ## Redacted texts -/

/-- In a clean text the scans find nothing. -/
theorem Clean.never {s : String} (h : Clean s) :
    Never startsCredentialUrl s.toList ∧ Never startsLongRun s.toList := by
  constructor
  · intro rest hrest
    apply Bool.eq_false_iff.2
    intro hstart
    obtain ⟨url, hurl, hcred⟩ := startsCredentialUrl_iff_isPrefix.1 hstart
    exact h.noUrl url (hurl.isInfix.trans hrest.isInfix) hcred
  · intro rest hrest
    apply Bool.eq_false_iff.2
    intro hstart
    obtain ⟨run, hrun, hlen, hall⟩ := startsLongRun_iff_isPrefix.1 hstart
    obtain ⟨c, hc, hnot⟩ := h.noRun run (hrun.isInfix.trans hrest.isInfix) hlen
    rw [hall c hc] at hnot
    cases hnot

theorem redact_eq_self_iff {message : String} : redact message = message ↔ Clean message := by
  constructor
  · intro h
    rw [← h]
    exact clean_redact message
  · exact fun h => redact_eq_self h.never.1 h.never.2

/-- **Redaction cuts words and runs, and nothing else.** Each word is cut from the first of its rests
on that is an address with credentials; then each long run of digits is cut out, with a `0x` that
stands between it and the long run before. Blanks stay where they are, and a text is left alone
exactly if it holds neither an address with credentials nor a long run. -/
theorem redact_eq_cut (message : String) :
    (redact message).toList = cutRuns [] (runs ((words message.toList).flatMap cutWord)) ∧
    (redact message).toList.filter Text.isBlank = message.toList.filter Text.isBlank ∧
    (redact message = message ↔ Clean message) := by
  refine ⟨?_, ?_, redact_eq_self_iff⟩
  · rw [redact, String.toList_ofList, redactHex_eq_cutRuns, redactUrls_eq_flatMap]
  · rw [redact, String.toList_ofList, filter_isBlank_redactHex, filter_isBlank_redactUrls]

end NodeAudit.Redaction
