import NodeAudit.Http.Exchange
import NodeAudit.Proofs.Redaction.Address

/-!
# Redaction between blanks

No address with credentials and no long run of digits goes on behind a blank, so that a blank parts
a text into two that are redacted each for itself: the scans find the same before the blank whatever
follows it (`startsCredentialUrl_append_cons`, `afterLongRun?_append_cons`), and each pass goes on
behind it as if it began there (`redactUrls_append_cons`, `redactHex_append_cons`).

Main statement: `redact_stable`. Redacting twice is redacting once, also on the way of an address
into a report, and redaction goes blank by blank.
-/

namespace NodeAudit.Redaction

variable {a b cs : List Char} {d : Char}

/-! ## The first pass -/

theorem IsCredentialUrl.isWordChar {url : List Char} (h : IsCredentialUrl url) :
    ∀ c ∈ url, isWordChar c = true := by
  obtain ⟨first, scheme, user, password, rest, hfirst, hs, hu, hp, hr, rfl⟩ := h
  have hcolon : Redaction.isWordChar ':' = true := by decide
  have hslash : Redaction.isWordChar '/' = true := by decide
  have hat : Redaction.isWordChar '@' = true := by decide
  have hscheme := fun c hc => isWordChar_of_isSchemeChar (hs c hc)
  have huser := fun c hc => isWordChar_of_isPasswordChar (isPasswordChar_of_isUserChar (hu.2 c hc))
  have hpassword := fun c hc => isWordChar_of_isPasswordChar (hp.2 c hc)
  simp only [List.forall_mem_append, List.forall_mem_cons]
  exact ⟨⟨⟨⟨isWordChar_of_isSchemeStart hfirst, hscheme⟩, hcolon, hslash, hslash, huser⟩, hcolon,
    hpassword⟩, hat, hr.2⟩

theorem startsCredentialUrl_append_cons (hd : isWordChar d = false) :
    startsCredentialUrl (a ++ d :: b) = startsCredentialUrl a := by
  rw [Bool.eq_iff_iff, startsCredentialUrl_iff_isPrefix, startsCredentialUrl_iff_isPrefix]
  refine exists_congr fun url => and_congr_left fun hurl => ⟨?_, ?_⟩
  · rintro ⟨tail, htail⟩
    have hmem : d ∉ url := fun hmem => by simp [hurl.isWordChar d hmem] at hd
    obtain ⟨l, rfl, -⟩ := eq_append_of_notMem hmem htail
    exact List.prefix_append url l
  · exact fun hprefix => hprefix.trans (List.prefix_append a (d :: b))

theorem isSchemeStart_of_not_isWordChar (hd : isWordChar d = false) : isSchemeStart d = false := by
  apply Bool.eq_false_iff.2
  intro h
  rw [isWordChar_of_isSchemeStart h] at hd
  cases hd

/-- The first pass goes on at a blank as if it began there. -/
theorem redactUrls_append_cons (hd : isWordChar d = false) :
    redactUrls (a ++ d :: b) = redactUrls a ++ d :: redactUrls b := by
  fun_induction redactUrls a with
  | case1 => exact redactUrls_cons (isSchemeStart_of_not_isWordChar hd)
  | case2 c cs hs ih =>
    rw [List.cons_append, redactUrls, ← List.cons_append, startsCredentialUrl_append_cons hd,
      if_pos hs, dropWhile_append_of_not hd, ih, List.append_assoc]
  | case3 c cs hs ih =>
    rw [List.cons_append, redactUrls, ← List.cons_append, startsCredentialUrl_append_cons hd,
      if_neg hs, ih, List.cons_append]

/-! ## The second pass -/

theorem afterLongRun?_zero_x (cs : List Char) :
    afterLongRun? ('0' :: 'x' :: cs)
      = if startsLongRun cs then some (cs.dropWhile Decimal.isHexDigit) else none := rfl

theorem afterLongRun?_of_ne (h : ∀ tail, cs ≠ '0' :: 'x' :: tail) :
    afterLongRun? cs
      = if startsLongRun cs then some (cs.dropWhile Decimal.isHexDigit) else none := by
  unfold afterLongRun?
  split
  · exact absurd rfl (h _)
  · rfl

/-- What is cut out ends before a character that is neither a digit nor the letter before them. -/
theorem afterLongRun?_append_cons (hd : isRunChar d = false) :
    afterLongRun? (a ++ d :: b) = (afterLongRun? a).map (· ++ d :: b) := by
  obtain ⟨hdigit, hx⟩ := Bool.or_eq_false_iff.1 hd
  have hcut : ∀ l : List Char,
      (if startsLongRun (l ++ d :: b) then some ((l ++ d :: b).dropWhile Decimal.isHexDigit)
        else none)
      = (if startsLongRun l then some (l.dropWhile Decimal.isHexDigit) else none).map
          (· ++ d :: b) := by
    intro l
    rw [startsLongRun_append_cons l b hdigit, dropWhile_append_of_not hdigit]
    split <;> rfl
  by_cases hzero : ∃ tail, a = '0' :: 'x' :: tail
  · obtain ⟨tail, rfl⟩ := hzero
    exact hcut tail
  · have hne : ∀ tail, a ≠ '0' :: 'x' :: tail := fun tail h => hzero ⟨tail, h⟩
    rw [afterLongRun?_of_ne hne, afterLongRun?_of_ne, hcut]
    -- the two characters do not come about where the text goes on at `d`
    intro tail h
    rcases a with _ | ⟨c, _ | ⟨c', l⟩⟩
    · obtain ⟨rfl, -⟩ := List.cons.inj h
      exact absurd hdigit (by decide)
    · obtain ⟨-, h⟩ := List.cons.inj h
      obtain ⟨rfl, -⟩ := List.cons.inj h
      exact absurd hx (by decide)
    · simp only [List.cons_append, List.cons.injEq] at h
      exact hne l (by rw [h.1, h.2.1])

/-- The second pass goes on at such a character as if it began there. -/
theorem redactHex_append_cons (hd : isRunChar d = false) :
    redactHex (a ++ d :: b) = redactHex a ++ d :: redactHex b := by
  fun_induction redactHex a with
  | case1 cs rest hrun ih =>
    have happend := afterLongRun?_append_cons (b := b) hd (a := cs)
    rw [hrun] at happend
    rw [redactHex_of_afterLongRun? happend, ih, List.append_assoc]
  | case2 hrun =>
    have happend := afterLongRun?_append_cons (b := b) hd (a := [])
    rw [hrun] at happend
    exact redactHex_cons happend
  | case3 c cs hrun ih =>
    have happend := afterLongRun?_append_cons (b := b) hd (a := c :: cs)
    rw [hrun, List.cons_append] at happend
    rw [List.cons_append, redactHex_cons happend, ih, List.cons_append]

/-! ## Texts -/

theorem isRunChar_of_isBlank (h : Text.isBlank d = true) : isRunChar d = false := by
  apply Bool.eq_false_iff.2
  intro hrun
  have huser := isUserChar_of_isRunChar hrun
  simp [isUserChar, h] at huser

/-- A blank stays, and what stands before and behind it is redacted each for itself. -/
theorem redact_append_blank (before after : String) (h : Text.isBlank d = true) :
    redact (before ++ String.singleton d ++ after)
      = redact before ++ String.singleton d ++ redact after := by
  have hword : isWordChar d = false := by simp [isWordChar, h]
  have hlist : (before ++ String.singleton d ++ after).toList
      = before.toList ++ d :: after.toList := by simp [String.toList_append]
  apply String.toList_injective
  rw [redact, hlist, redactUrls_append_cons hword, redactHex_append_cons (isRunChar_of_isBlank h)]
  simp [redact, String.toList_append]

/-- **Redaction is stable.** Redacting twice is redacting once, and redaction goes blank by blank:
what stands before and behind a blank is redacted each for itself. Therefore the network in a report
is the redacted address of the node, although a transport has redacted the address before. -/
theorem redact_stable :
    (∀ message, redact (redact message) = redact message) ∧
    (∀ (before after : String) (blank : Char), Text.isBlank blank = true →
      redact (before ++ String.singleton blank ++ after)
        = redact before ++ String.singleton blank ++ redact after) ∧
    ∀ (σ : Type) (network : Http.Network σ) (url : String) (timeout : Span),
      let transport := Http.transport network url timeout
      transport.endpoint = redact url ∧
      (∀ address generatedAt outcomes, (Suite.Report.ofOutcomes address transport.endpoint
        generatedAt outcomes).network = redact url) ∧
      ∀ (plan : Bench.Plan) (pace : Bench.Pace) (methods : List Rpc.Method) (address : String)
        (id : UInt64) (world : σ) report run,
        plan.stress transport pace methods address id world = some (report, run) →
        report.network = redact url := by
  refine ⟨redact_redact, fun before after blank h => redact_append_blank before after h,
    fun σ network url timeout => ⟨rfl, fun address generatedAt outcomes => redact_redact url, ?_⟩⟩
  intro plan pace methods address id world report run h
  rw [network_of_stress h]
  exact redact_redact url

/-- A wide blank keeps `0x` from a long run behind it. -/
theorem redact_stable_wideBlank :
    let digits := String.ofList (List.replicate 64 'a')
    let message := "0x" ++ String.singleton '\u3000' ++ digits
    Text.isBlank '\u3000' = true ∧ redact message = "0x\u3000[REDACTED_HEX]" ∧
      redact (redact message) = redact message := by
  intro digits message
  have hblank : Text.isBlank '\u3000' = true := by decide
  have hdigits : redact digits = "[REDACTED_HEX]" := by decide +kernel
  have hzero : redact "0x" = "0x" := by decide +kernel
  obtain ⟨htwice, hparts, -⟩ := redact_stable
  refine ⟨hblank, ?_, htwice message⟩
  rw [hparts "0x" digits '\u3000' hblank, hdigits, hzero]
  rfl

end NodeAudit.Redaction
