import NodeAudit.Bench.Stress
import NodeAudit.Proofs.Profile.Key
import NodeAudit.Proofs.Redaction.Patterns
import NodeAudit.Proofs.Suite.Run

/-!
# Redacted texts are clean

The first pass leaves no address with credentials (`never_redactUrls`): a mark stands at the end of
a word and holds no at sign, so that an address that ends in a mark begins before it in the message
too. The second pass leaves no long run (`never_startsLongRun_redactHex`) and makes no address
(`never_startsCredentialUrl_redactHex`): digits and mark are both characters of a user, of a
password and of a word, and no mark lies within a scheme, so that every address in the output stands
in the input.

Main statement: `redact_clean`, with what follows for keys, outcomes and reports.
-/

namespace NodeAudit.Redaction

/-! ## Characters -/

theorem isWordChar_of_visible {c : Char} (h : 33 ≤ c.toNat ∧ c.toNat ≤ 126) :
    isWordChar c = true := by
  simp [isWordChar, Text.isBlank]
  omega

theorem isWordChar_of_isSchemeChar {c : Char} (h : isSchemeChar c = true) :
    isWordChar c = true := by
  apply isWordChar_of_visible
  simp [isSchemeChar, isSchemeStart, Decimal.isDigit, Char.le_def, UInt32.le_iff_toNat_le,
    ← Char.toNat_inj] at h
  omega

theorem isWordChar_of_isSchemeStart {c : Char} (h : isSchemeStart c = true) :
    isWordChar c = true :=
  isWordChar_of_isSchemeChar (by simp [isSchemeChar, h])

theorem isPasswordChar_of_isUserChar {c : Char} (h : isUserChar c = true) :
    isPasswordChar c = true := by
  simp only [isUserChar, isPasswordChar, Bool.and_eq_true] at h ⊢
  exact ⟨h.1.2, h.2⟩

theorem isWordChar_of_isPasswordChar {c : Char} (h : isPasswordChar c = true) :
    isWordChar c = true := by
  simp only [isPasswordChar, isWordChar, Bool.and_eq_true] at h ⊢
  exact h.2

/-- A hexadecimal digit, or the letter of the `0x` before a run. -/
def isRunChar (c : Char) : Bool := Decimal.isHexDigit c || c == 'x'

theorem isUserChar_of_isRunChar {c : Char} (h : isRunChar c = true) : isUserChar c = true := by
  have hc : 48 ≤ c.toNat ∧ c.toNat ≤ 122 ∧ c ≠ ':' ∧ c ≠ '@' := by
    simp [isRunChar, Decimal.isHexDigit, Decimal.isDigit, Char.le_def, UInt32.le_iff_toNat_le,
      ← Char.toNat_inj] at h ⊢
    omega
  have hw : isWordChar c = true := isWordChar_of_visible ⟨by omega, by omega⟩
  simp only [isUserChar, isWordChar, Bool.and_eq_true, bne_iff_ne] at hw ⊢
  exact ⟨hc.2.2, hw⟩

/-- A character that does not occur in a mark stands behind the whole of it. -/
theorem eq_append_of_notMem {m ds l rest : List Char} {d : Char} (hm : d ∉ m)
    (h : m ++ ds = l ++ d :: rest) : ∃ l', l = m ++ l' ∧ ds = l' ++ d :: rest := by
  obtain ⟨l', rfl, hds⟩ | ⟨r, rfl, hr⟩ := List.append_eq_append_iff.1 h
  · exact ⟨l', rfl, hds⟩
  · cases r with
    | nil => exact ⟨[], by simp, by simpa using hr.symm⟩
    | cons x r =>
      obtain ⟨rfl, -⟩ := List.cons.inj hr
      simp at hm

/-- Characters of which none begins a scheme do not bring an address about. -/
theorem never_startsCredentialUrl_append {m ds : List Char}
    (hm : m.any isSchemeStart = false) (h : Never startsCredentialUrl ds) :
    Never startsCredentialUrl (m ++ ds) := by
  induction m with
  | nil => exact h
  | cons c m ih =>
    obtain ⟨hc, hm⟩ := Bool.or_eq_false_iff.1 hm
    exact never_cons.2 ⟨by simp [startsCredentialUrl, hc], ih hm⟩

/-! ## The first pass -/

/-- The output begins with a character of a word only if the input does. -/
theorem exists_cons_of_redactUrls_eq_cons {cs ds : List Char} {c : Char}
    (h : redactUrls cs = c :: ds) (hc : isWordChar c = true) :
    ∃ c' tail, cs = c' :: tail ∧ isWordChar c' = true := by
  cases cs with
  | nil => simp [redactUrls] at h
  | cons c' tail =>
    refine ⟨c', tail, rfl, ?_⟩
    rw [redactUrls] at h
    split at h
    · rename_i hs
      exact isWordChar_of_isSchemeStart (startsCredentialUrl_cons_iff.1 hs).1
    · obtain ⟨rfl, -⟩ := List.cons.inj h
      exact hc

/-- Behind a mark the word is at its end. -/
theorem not_isWordChar_of_redactUrls_dropWhile {cs ds : List Char} {c : Char}
    (h : redactUrls (cs.dropWhile isWordChar) = c :: ds) : isWordChar c = false := by
  apply Bool.eq_false_iff.2
  intro hc
  obtain ⟨c', tail, heq, hc'⟩ := exists_cons_of_redactUrls_eq_cons h hc
  have hnot := List.head?_dropWhile_not isWordChar cs
  rw [heq] at hnot
  simp [hc'] at hnot

/-- Up to a character that no mark holds, a word of the output is a word of the input. -/
theorem eq_append_of_redactUrls {cs l rest : List Char} {d : Char}
    (h : redactUrls cs = l ++ d :: rest) (hl : ∀ c ∈ l, isWordChar c = true)
    (hd : isWordChar d = true) (hm : d ∉ urlMark.toList) :
    ∃ tail, cs = l ++ d :: tail ∧ redactUrls tail = rest := by
  fun_induction redactUrls cs generalizing l with
  | case1 => simp at h
  | case2 c cs hs ih =>
    obtain ⟨l', rfl, hds⟩ := eq_append_of_notMem hm h
    -- the word ends behind the mark, but `l'` and `d` go on with it
    cases l' with
    | nil =>
      rw [not_isWordChar_of_redactUrls_dropWhile hds] at hd
      cases hd
    | cons x l' =>
      have hx := hl x (by simp)
      rw [not_isWordChar_of_redactUrls_dropWhile hds] at hx
      cases hx
  | case3 c cs hs ih =>
    cases l with
    | nil =>
      obtain ⟨rfl, rfl⟩ := List.cons.inj h
      exact ⟨cs, rfl, rfl⟩
    | cons x l =>
      obtain ⟨rfl, hcs⟩ := List.cons.inj h
      obtain ⟨tail, rfl, ht⟩ := ih hcs (List.forall_mem_cons.1 hl).2
      exact ⟨tail, rfl, ht⟩

/-- An address in the output of the first pass stands in its input. -/
theorem startsCredentialUrl_of_redactUrls {c : Char} {cs : List Char}
    (h : startsCredentialUrl (c :: redactUrls cs) = true) :
    startsCredentialUrl (c :: cs) = true := by
  obtain ⟨hfirst, scheme, user, password, x, rest, hs, hu, hp, hx, heq⟩ :=
    startsCredentialUrl_cons_iff.1 h
  have heq' : redactUrls cs
      = (scheme ++ ':' :: '/' :: '/' :: (user ++ ':' :: password)) ++ '@' :: x :: rest := by
    simpa using heq
  have hword : ∀ y ∈ scheme ++ ':' :: '/' :: '/' :: (user ++ ':' :: password),
      isWordChar y = true := by
    have hcolon : isWordChar ':' = true := by decide
    have hslash : isWordChar '/' = true := by decide
    have huser := fun y hy =>
      isWordChar_of_isPasswordChar (isPasswordChar_of_isUserChar (hu.2 y hy))
    have hpass := fun y hy => isWordChar_of_isPasswordChar (hp.2 y hy)
    have hscheme := fun y hy => isWordChar_of_isSchemeChar (hs y hy)
    simp only [List.forall_mem_append, List.forall_mem_cons]
    exact ⟨hscheme, hcolon, hslash, hslash, huser, hcolon, hpass⟩
  obtain ⟨tail, rfl, ht⟩ := eq_append_of_redactUrls heq' hword (by decide) (by decide)
  obtain ⟨x', tail, rfl, hx'⟩ := exists_cons_of_redactUrls_eq_cons ht hx
  exact startsCredentialUrl_cons_iff.2
    ⟨hfirst, scheme, user, password, x', tail, hs, hu, hp, hx', by simp⟩

theorem never_redactUrls (cs : List Char) : Never startsCredentialUrl (redactUrls cs) := by
  fun_induction redactUrls cs with
  | case1 => exact never_nil rfl
  | case2 c cs hs ih => exact never_startsCredentialUrl_append rfl ih
  | case3 c cs hs ih =>
    refine never_cons.2 ⟨Bool.eq_false_iff.2 fun h => hs ?_, ih⟩
    exact startsCredentialUrl_of_redactUrls h

/-! ## The second pass -/

/-- What is cut out are digits and the letter before them. -/
theorem eq_append_of_afterLongRun? {cs rest : List Char} (h : afterLongRun? cs = some rest) :
    ∃ run, cs = run ++ rest ∧ Stretch isRunChar run := by
  have hdigits : ∀ ds : List Char, startsLongRun ds = true →
      Stretch isRunChar (ds.takeWhile Decimal.isHexDigit) := by
    intro ds hs
    refine ⟨fun hnil => ?_, fun c hc => ?_⟩
    · have hlen := startsLongRun_iff.1 hs
      simp [hnil] at hlen
    · simp [isRunChar, List.mem_takeWhile_imp hc]
  unfold afterLongRun? at h
  split at h
  · rename_i ds
    split at h
    · rename_i hs
      obtain rfl := Option.some.inj h
      refine ⟨'0' :: 'x' :: ds.takeWhile Decimal.isHexDigit, ?_, by simp, ?_⟩
      · simp [List.takeWhile_append_dropWhile]
      · simp only [List.forall_mem_cons]
        exact ⟨by decide, by decide, (hdigits ds hs).2⟩
    · cases h
  · split at h
    · rename_i hs
      obtain rfl := Option.some.inj h
      exact ⟨_, List.takeWhile_append_dropWhile.symm, hdigits cs hs⟩
    · cases h

/-- Where nothing is cut out no long run begins. -/
theorem not_startsLongRun_of_afterLongRun? {cs : List Char} (h : afterLongRun? cs = none) :
    startsLongRun cs = false := by
  unfold afterLongRun? at h
  split at h
  · rename_i ds
    apply Bool.eq_false_iff.2
    intro hs
    have hlen := startsLongRun_iff.1 hs
    have htake : ('0' :: 'x' :: ds).takeWhile Decimal.isHexDigit = ['0'] := rfl
    simp [htake] at hlen
  · simpa using h

/-- The output begins with a character of a word only if the input does. -/
theorem exists_cons_of_redactHex_eq_cons {cs ds : List Char} {c : Char}
    (h : redactHex cs = c :: ds) (hc : isWordChar c = true) :
    ∃ c' tail, cs = c' :: tail ∧ isWordChar c' = true := by
  rw [redactHex] at h
  split at h
  · rename_i rest hrun
    obtain ⟨run, rfl, hne, hall⟩ := eq_append_of_afterLongRun? hrun
    obtain ⟨x, run, rfl⟩ := List.exists_cons_of_ne_nil hne
    have hx := isUserChar_of_isRunChar (hall x List.mem_cons_self)
    exact ⟨x, run ++ rest, rfl, isWordChar_of_isPasswordChar (isPasswordChar_of_isUserChar hx)⟩
  · cases cs with
    | nil => cases h
    | cons c' tail =>
      obtain ⟨rfl, -⟩ := List.cons.inj h
      exact ⟨c', tail, rfl, hc⟩

/-- Before a bracket the output is the input. -/
theorem eq_append_of_redactHex_of_notMem {cs l rest : List Char} {d : Char}
    (h : redactHex cs = l ++ d :: rest) (hl : '[' ∉ l) (hd : d ≠ '[') :
    ∃ tail, cs = l ++ d :: tail ∧ redactHex tail = rest := by
  fun_induction redactHex cs generalizing l with
  | case1 cs ds hrun ih =>
    cases l with
    | nil => exact absurd (List.cons.inj h).1.symm hd
    | cons x l => exact absurd ((List.cons.inj h).1 ▸ List.mem_cons_self) hl
  | case2 => simp at h
  | case3 c cs hrun ih =>
    cases l with
    | nil =>
      obtain ⟨rfl, rfl⟩ := List.cons.inj h
      exact ⟨cs, rfl, rfl⟩
    | cons x l =>
      obtain ⟨rfl, hcs⟩ := List.cons.inj h
      obtain ⟨tail, rfl, ht⟩ := ih hcs (fun hmem => hl (List.mem_cons_of_mem _ hmem))
      exact ⟨tail, rfl, ht⟩

/-- A stretch of the output, up to a character that no mark holds, comes from a stretch of the
input, if digits have the property too. -/
theorem stretch_of_redactHex {p : Char → Bool} (hp : ∀ c, isRunChar c = true → p c = true)
    {cs l rest : List Char} {d : Char} (h : redactHex cs = l ++ d :: rest)
    (hl : ∀ c ∈ l, p c = true) (hd : d ∉ hexMark.toList) :
    ∃ l' tail, cs = l' ++ d :: tail ∧ redactHex tail = rest ∧ (∀ c ∈ l', p c = true) ∧
      (l ≠ [] → l' ≠ []) := by
  fun_induction redactHex cs generalizing l with
  | case1 cs ds hrun ih =>
    obtain ⟨l', rfl, hds⟩ := eq_append_of_notMem hd h
    obtain ⟨run, rfl, hne, hall⟩ := eq_append_of_afterLongRun? hrun
    obtain ⟨l'', tail, rfl, ht, hl'', -⟩ := ih hds (fun c hc => hl c (List.mem_append_right _ hc))
    refine ⟨run ++ l'', tail, by simp, ht, ?_, fun _ => by simp [hne]⟩
    exact List.forall_mem_append.2 ⟨fun c hc => hp c (hall c hc), hl''⟩
  | case2 => simp at h
  | case3 c cs hrun ih =>
    cases l with
    | nil =>
      obtain ⟨rfl, rfl⟩ := List.cons.inj h
      exact ⟨[], cs, rfl, rfl, by simp, fun hnil => absurd rfl hnil⟩
    | cons x l =>
      obtain ⟨rfl, hcs⟩ := List.cons.inj h
      obtain ⟨hx, hl⟩ := List.forall_mem_cons.1 hl
      obtain ⟨l', tail, rfl, ht, hl', -⟩ := ih hcs hl
      exact ⟨c :: l', tail, rfl, ht, List.forall_mem_cons.2 ⟨hx, hl'⟩, fun _ => by simp⟩

/-- An address in the output of the second pass comes from one in its input. -/
theorem startsCredentialUrl_of_redactHex {c : Char} {cs : List Char}
    (h : startsCredentialUrl (c :: redactHex cs) = true) :
    startsCredentialUrl (c :: cs) = true := by
  obtain ⟨hfirst, scheme, user, password, x, rest, hs, ⟨hune, hu⟩, ⟨hpne, hp⟩, hx, heq⟩ :=
    startsCredentialUrl_cons_iff.1 h
  have heq' : redactHex cs
      = (scheme ++ [':', '/']) ++ '/' :: (user ++ ':' :: (password ++ '@' :: x :: rest)) := by
    simpa using heq
  have hbracket : '[' ∉ scheme ++ [':', '/'] := by
    intro hmem
    rcases List.mem_append.1 hmem with hmem | hmem
    · exact absurd (hs _ hmem) (by decide)
    · exact absurd hmem (by decide)
  obtain ⟨tail, rfl, ht⟩ := eq_append_of_redactHex_of_notMem heq' hbracket (by decide)
  obtain ⟨user', tail, rfl, ht, hu', hune'⟩ :=
    stretch_of_redactHex (fun c => isUserChar_of_isRunChar) ht hu (by decide)
  obtain ⟨password', tail, rfl, ht, hp', hpne'⟩ :=
    stretch_of_redactHex (fun c hc => isPasswordChar_of_isUserChar (isUserChar_of_isRunChar hc))
      ht hp (by decide)
  obtain ⟨x', tail, rfl, hx'⟩ := exists_cons_of_redactHex_eq_cons ht hx
  exact startsCredentialUrl_cons_iff.2 ⟨hfirst, scheme, user', password', x', tail, hs,
    ⟨hune' hune, hu'⟩, ⟨hpne' hpne, hp'⟩, hx', by simp⟩

theorem never_startsCredentialUrl_redactHex {cs : List Char} (h : Never startsCredentialUrl cs) :
    Never startsCredentialUrl (redactHex cs) := by
  fun_induction redactHex cs with
  | case1 cs rest hrun ih =>
    obtain ⟨run, rfl, -⟩ := eq_append_of_afterLongRun? hrun
    exact never_startsCredentialUrl_append rfl (ih (h.suffix (List.suffix_append _ _)))
  | case2 => exact never_nil rfl
  | case3 c cs hrun ih =>
    obtain ⟨hc, hcs⟩ := never_cons.1 h
    refine never_cons.2 ⟨Bool.eq_false_iff.2 fun hs => ?_, ih hcs⟩
    rw [startsCredentialUrl_of_redactHex hs] at hc
    cases hc

theorem length_takeWhile_cons_le {p : Char → Bool} {l l' : List Char} (c : Char)
    (h : (l.takeWhile p).length ≤ (l'.takeWhile p).length) :
    ((c :: l).takeWhile p).length ≤ ((c :: l').takeWhile p).length := by
  by_cases hc : p c = true
  · rw [List.takeWhile_cons_of_pos hc, List.takeWhile_cons_of_pos hc]
    exact Nat.succ_le_succ h
  · rw [List.takeWhile_cons_of_neg hc]
    exact Nat.zero_le _

/-- The second pass makes no run longer. -/
theorem length_takeWhile_redactHex_le (cs : List Char) :
    ((redactHex cs).takeWhile Decimal.isHexDigit).length
      ≤ (cs.takeWhile Decimal.isHexDigit).length := by
  fun_induction redactHex cs with
  | case1 cs rest hrun ih => exact Nat.zero_le _
  | case2 => exact Nat.le_refl _
  | case3 c cs hrun ih => exact length_takeWhile_cons_le c ih

theorem never_startsLongRun_of_length {cs : List Char} (h : cs.length < 64) :
    Never startsLongRun cs := by
  intro rest hrest
  apply Bool.eq_false_iff.2
  intro hs
  have hlen := startsLongRun_iff.1 hs
  have htake := (List.takeWhile_prefix (l := rest) Decimal.isHexDigit).length_le
  have hle := hrest.length_le
  omega

/-- No long run goes on behind a character that is no digit. -/
theorem never_startsLongRun_append {m ds : List Char} {d : Char} (hm : Never startsLongRun m)
    (hd : Decimal.isHexDigit d = false) (h : Never startsLongRun ds) :
    Never startsLongRun (m ++ d :: ds) := by
  induction m with
  | nil => exact never_cons.2 ⟨startsLongRun_append_cons [] _ hd, h⟩
  | cons c m ih =>
    obtain ⟨hc, hm⟩ := never_cons.1 hm
    exact never_cons.2 ⟨(startsLongRun_append_cons (c :: m) _ hd).trans hc, ih hm⟩

theorem never_startsLongRun_redactHex (cs : List Char) : Never startsLongRun (redactHex cs) := by
  fun_induction redactHex cs with
  | case1 cs rest hrun ih =>
    have hmark : hexMark.toList = "[REDACTED_HEX".toList ++ [']'] := rfl
    rw [hmark, List.append_assoc]
    exact never_startsLongRun_append (never_startsLongRun_of_length (by decide)) (by decide) ih
  | case2 => exact never_nil rfl
  | case3 c cs hrun ih =>
    refine never_cons.2 ⟨Bool.eq_false_iff.2 fun hs => ?_, ih⟩
    have hlen := startsLongRun_iff.1 hs
    have hle := length_takeWhile_cons_le c (length_takeWhile_redactHex_le cs)
    have hnot := not_startsLongRun_of_afterLongRun? hrun
    rw [startsLongRun_iff.2 (Nat.le_trans hlen hle)] at hnot
    cases hnot

/-! ## Redacted texts -/

theorem clean_redact (message : String) : Clean (redact message) := by
  apply clean_of_never
  · rw [redact, String.toList_ofList]
    exact never_startsLongRun_redactHex _
  · rw [redact, String.toList_ofList]
    exact never_startsCredentialUrl_redactHex (never_redactUrls _)

/-- The digits of a well-formed key are a long run. -/
theorem keyDigits_of_keyProblem? {key : String} (h : Profile.keyProblem? key = none) :
    (Profile.keyDigits key.toList).length = 64 ∧
      ∀ c ∈ Profile.keyDigits key.toList, Decimal.isHexDigit c = true := by
  obtain ⟨hlen, hall⟩ := Profile.spellsBytes_iff.1 (Profile.keyProblem?_eq_none_iff.1 h)
  exact ⟨hlen, fun c hc => Profile.isHexDigit_iff.2 (hall c hc)⟩

/-- A clean text does not hold the digits of a well-formed key. -/
theorem Clean.not_keyDigits_isInfix {s key : String} (hs : Clean s)
    (h : Profile.keyProblem? key = none) : ¬ Profile.keyDigits key.toList <:+: s.toList := by
  intro hinfix
  obtain ⟨hlen, hall⟩ := keyDigits_of_keyProblem? h
  obtain ⟨c, hc, hnot⟩ := hs.noRun _ hinfix hlen
  rw [hall c hc] at hnot
  cases hnot

/-- The error of every outcome of a run is clean. -/
theorem clean_error_of_mem_runPrepared {σ : Type} {transport : Rpc.Transport σ}
    {options : Suite.Options} {scenarios : List Suite.Prepared} {world : σ} {o : Suite.Outcome}
    (ho : o ∈ (Suite.runPrepared transport options scenarios world).1) {e : String}
    (he : o.metric.error = some e) : Clean e := by
  obtain ⟨s, sent, hj⟩ := Suite.exists_judgedBy_of_mem ho
  cases hf : o.error with
  | none =>
    have hpass : o.passed = true := by simp [Suite.Outcome.passed, hf]
    rw [hj.error_eq_none_iff.2 hpass] at he
    cases he
  | some f =>
    rw [hj.error_eq f hf] at he
    obtain rfl := Option.some.inj he
    exact clean_redact _

theorem network_of_stress {σ : Type} {plan : Bench.Plan} {transport : Rpc.Transport σ}
    {pace : Bench.Pace} {methods : List Rpc.Method} {address : String} {id : UInt64} {world : σ}
    {report : Bench.StressReport} {run : Bench.StressRun σ}
    (h : plan.stress transport pace methods address id world = some (report, run)) :
    report.network = redact transport.endpoint := by
  obtain ⟨s, -, hs⟩ := Option.bind_eq_some_iff.1 h
  obtain ⟨rfl, -⟩ := Prod.mk.inj (Option.some.inj hs)
  rfl

theorem clean_network_of_stress {σ : Type} {plan : Bench.Plan} {transport : Rpc.Transport σ}
    {pace : Bench.Pace} {methods : List Rpc.Method} {address : String} {id : UInt64} {world : σ}
    {report : Bench.StressReport} {run : Bench.StressRun σ}
    (h : plan.stress transport pace methods address id world = some (report, run)) :
    Clean report.network := by
  rw [network_of_stress h]
  exact clean_redact _

/-- **Nothing that redaction looks for survives it.** A redacted message is clean, and so it does
not hold the digits of a well-formed key, whatever stands around them; the errors of the outcomes of
every run and the network in every report are clean. -/
theorem redact_clean :
    (∀ message, Clean (redact message)) ∧
    (∀ key before after, Profile.keyProblem? key = none →
      ¬ Profile.keyDigits key.toList <:+: (redact (before ++ key ++ after)).toList) ∧
    (∀ (σ : Type) (transport : Rpc.Transport σ) (options : Suite.Options)
      (scenarios : List Suite.Prepared) (world : σ),
      let outcomes := (Suite.runPrepared transport options scenarios world).1
      (∀ o ∈ outcomes, ∀ e, o.metric.error = some e → Clean e) ∧
      ∀ address network generatedAt,
        Clean (Suite.Report.ofOutcomes address network generatedAt outcomes).network) ∧
    ∀ (σ : Type) (plan : Bench.Plan) (transport : Rpc.Transport σ) (pace : Bench.Pace)
      (methods : List Rpc.Method) (address : String) (id : UInt64) (world : σ) report run,
      plan.stress transport pace methods address id world = some (report, run) →
      Clean report.network := by
  refine ⟨clean_redact, fun key before after h => (clean_redact _).not_keyDigits_isInfix h,
    fun σ transport options scenarios world => ⟨fun o ho e he => ?_, fun _ _ _ => ?_⟩,
    fun σ plan transport pace methods address id world report run h => ?_⟩
  · exact clean_error_of_mem_runPrepared ho he
  · exact clean_redact _
  · exact clean_network_of_stress h

/-- A key between digits, and with a zero and the letter of a second `0x` behind it, is cut out. -/
theorem redact_key_between_digits :
    let key := "0x" ++ String.ofList (List.replicate 64 'a')
    Profile.keyProblem? key = none ∧
      ¬ Profile.keyDigits key.toList <:+: (redact ("key 0" ++ key ++ "0x1")).toList := by
  have hkey : Profile.keyProblem? ("0x" ++ String.ofList (List.replicate 64 'a')) = none := by
    decide
  obtain ⟨-, hdigits, -⟩ := redact_clean
  exact ⟨hkey, hdigits _ "key 0" "0x1" hkey⟩

end NodeAudit.Redaction
