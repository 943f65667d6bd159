import Mathlib.Data.List.TakeWhile
import NodeAudit.Redaction

/-!
# What redaction looks for

`IsCredentialUrl` says what an address with a user and a password is, and `Clean` that no such
address and no long run of hexadecimal digits occurs in a text. The scans of the redaction find
exactly these:

* `startsCredentialUrl_iff_isPrefix`: an address with credentials begins here.
* `startsLongRun_iff_isPrefix`: a run of sixty-four hexadecimal digits begins here.

`Never starts cs` is the view of the proofs: no rest of the characters starts so.
-/

namespace NodeAudit.Redaction

/-! ## Stretches of characters -/

/-- Characters with the property, at least one. -/
def Stretch (p : Char → Bool) (cs : List Char) : Prop := cs ≠ [] ∧ ∀ c ∈ cs, p c = true

section
variable {p : Char → Bool} {cs l rest : List Char} {d : Char}

theorem takeWhile_append_of_not (hd : p d = false) :
    (l ++ d :: rest).takeWhile p = l.takeWhile p := by
  induction l with
  | nil => exact List.takeWhile_cons_of_neg (by simp [hd])
  | cons c l ih => by_cases hc : p c = true <;> simp [hc, ih]

theorem dropWhile_append_of_not (hd : p d = false) :
    (l ++ d :: rest).dropWhile p = l.dropWhile p ++ d :: rest := by
  induction l with
  | nil => exact List.dropWhile_cons_of_neg (by simp [hd])
  | cons c l ih => by_cases hc : p c = true <;> simp [hc, ih]

theorem takeWhile_append_cons (hl : ∀ c ∈ l, p c = true) (hd : p d = false) :
    (l ++ d :: rest).takeWhile p = l := by
  rw [takeWhile_append_of_not hd, List.takeWhile_eq_self_iff.2 hl]

theorem dropWhile_append_cons (hl : ∀ c ∈ l, p c = true) (hd : p d = false) :
    (l ++ d :: rest).dropWhile p = d :: rest := by
  rw [dropWhile_append_of_not hd, List.dropWhile_eq_nil_iff.2 hl, List.nil_append]

theorem dropWhile_eq_cons_iff (hd : p d = false) :
    cs.dropWhile p = d :: rest ↔ ∃ l, (∀ c ∈ l, p c = true) ∧ cs = l ++ d :: rest := by
  constructor
  · intro h
    refine ⟨cs.takeWhile p, fun c hc => List.mem_takeWhile_imp hc, ?_⟩
    rw [← h, List.takeWhile_append_dropWhile]
  · rintro ⟨l, hl, rfl⟩
    exact dropWhile_append_cons hl hd

end

/-! ## Addresses with credentials -/

/-- The text is an address with a user and a password: a scheme, `://`, the user, a colon, the
password, an at sign, and more of the word. -/
def IsCredentialUrl (url : List Char) : Prop :=
  ∃ (first : Char) (scheme user password rest : List Char),
    isSchemeStart first = true ∧ (∀ c ∈ scheme, isSchemeChar c = true) ∧
    Stretch isUserChar user ∧ Stretch isPasswordChar password ∧ Stretch isWordChar rest ∧
    url = first :: scheme ++ ':' :: '/' :: '/' :: user ++ ':' :: password ++ '@' :: rest

theorem startsPassword_iff {cs : List Char} :
    startsPassword cs = true ↔
      ∃ password c rest, Stretch isPasswordChar password ∧ isWordChar c = true ∧
        cs = password ++ '@' :: c :: rest := by
  have hat : isPasswordChar '@' = false := by decide
  constructor
  · intro h
    simp only [startsPassword, Bool.and_eq_true] at h
    obtain ⟨hne, h⟩ := h
    split at h
    · rename_i c rest heq
      obtain ⟨password, hp, rfl⟩ := (dropWhile_eq_cons_iff hat).1 heq
      rw [takeWhile_append_cons hp hat] at hne
      exact ⟨password, c, rest, ⟨by simpa using hne, hp⟩, h, rfl⟩
    · cases h
  · rintro ⟨password, c, rest, ⟨hne, hp⟩, hc, rfl⟩
    simp [startsPassword, takeWhile_append_cons hp hat, dropWhile_append_cons hp hat, hne, hc]

theorem startsUser_iff {cs : List Char} :
    startsUser cs = true ↔
      ∃ user rest, Stretch isUserChar user ∧ startsPassword rest = true ∧
        cs = user ++ ':' :: rest := by
  have hcolon : isUserChar ':' = false := by decide
  constructor
  · intro h
    simp only [startsUser, Bool.and_eq_true] at h
    obtain ⟨hne, h⟩ := h
    split at h
    · rename_i rest heq
      obtain ⟨user, hu, rfl⟩ := (dropWhile_eq_cons_iff hcolon).1 heq
      rw [takeWhile_append_cons hu hcolon] at hne
      exact ⟨user, rest, ⟨by simpa using hne, hu⟩, h, rfl⟩
    · cases h
  · rintro ⟨user, rest, ⟨hne, hu⟩, h, rfl⟩
    simp [startsUser, takeWhile_append_cons hu hcolon, dropWhile_append_cons hu hcolon, hne, h]

theorem startsScheme_iff {first : Char} {cs : List Char} :
    startsCredentialUrl (first :: cs) = true ↔
      isSchemeStart first = true ∧ ∃ scheme rest, (∀ c ∈ scheme, isSchemeChar c = true) ∧
        startsUser rest = true ∧ cs = scheme ++ ':' :: '/' :: '/' :: rest := by
  have hcolon : isSchemeChar ':' = false := by decide
  simp only [startsCredentialUrl, Bool.and_eq_true]
  refine and_congr_right fun _ => ⟨fun h => ?_, ?_⟩
  · split at h
    · rename_i rest heq
      obtain ⟨scheme, hs, rfl⟩ := (dropWhile_eq_cons_iff hcolon).1 heq
      exact ⟨scheme, rest, hs, h, rfl⟩
    · cases h
  · rintro ⟨scheme, rest, hs, h, rfl⟩
    simp [dropWhile_append_cons hs hcolon, h]

/-- The parts of an address with credentials that begins here. -/
theorem startsCredentialUrl_cons_iff {first : Char} {cs : List Char} :
    startsCredentialUrl (first :: cs) = true ↔
      isSchemeStart first = true ∧ ∃ scheme user password c rest,
        (∀ c ∈ scheme, isSchemeChar c = true) ∧ Stretch isUserChar user ∧
        Stretch isPasswordChar password ∧ isWordChar c = true ∧
        cs = scheme ++ ':' :: '/' :: '/' :: (user ++ ':' :: (password ++ '@' :: c :: rest)) := by
  rw [startsScheme_iff]
  refine and_congr_right fun _ => ⟨?_, ?_⟩
  · rintro ⟨scheme, rest, hs, hu, rfl⟩
    obtain ⟨user, rest, huser, hp, rfl⟩ := startsUser_iff.1 hu
    obtain ⟨password, c, rest, hpassword, hc, rfl⟩ := startsPassword_iff.1 hp
    exact ⟨scheme, user, password, c, rest, hs, huser, hpassword, hc, rfl⟩
  · rintro ⟨scheme, user, password, c, rest, hs, huser, hpassword, hc, rfl⟩
    have hp := startsPassword_iff.2 ⟨password, c, rest, hpassword, hc, rfl⟩
    exact ⟨scheme, _, hs, startsUser_iff.2 ⟨user, _, huser, hp, rfl⟩, rfl⟩

theorem startsCredentialUrl_iff_isPrefix {cs : List Char} :
    startsCredentialUrl cs = true ↔ ∃ url, url <+: cs ∧ IsCredentialUrl url := by
  constructor
  · intro h
    cases cs with
    | nil => cases h
    | cons first cs =>
      obtain ⟨hfirst, scheme, user, password, c, rest, hs, huser, hpassword, hc, rfl⟩ :=
        startsCredentialUrl_cons_iff.1 h
      refine ⟨_, ?_, first, scheme, user, password, [c], hfirst, hs, huser, hpassword, ?_, rfl⟩
      · exact ⟨rest, by simp⟩
      · exact ⟨by simp, by simpa using hc⟩
  · rintro ⟨_, ⟨tail, rfl⟩, first, scheme, user, password, rest, hfirst, hs, huser, hpassword,
      ⟨hne, hrest⟩, rfl⟩
    obtain ⟨c, rest, rfl⟩ := List.exists_cons_of_ne_nil hne
    have h := startsCredentialUrl_cons_iff.2 ⟨hfirst, scheme, user, password, c, rest ++ tail, hs,
      huser, hpassword, hrest c List.mem_cons_self, rfl⟩
    simpa using h

/-! ## Long runs of hexadecimal digits -/

theorem startsLongRun_iff {cs : List Char} :
    startsLongRun cs = true ↔ 64 ≤ (cs.takeWhile Decimal.isHexDigit).length :=
  decide_eq_true_iff

/-- Whether a long run begins here does not depend on what follows a character that is no digit. -/
theorem startsLongRun_append_cons (cs rest : List Char) {d : Char}
    (hd : Decimal.isHexDigit d = false) :
    startsLongRun (cs ++ d :: rest) = startsLongRun cs := by
  rw [startsLongRun, takeWhile_append_of_not hd, startsLongRun]

theorem startsLongRun_iff_isPrefix {cs : List Char} :
    startsLongRun cs = true ↔
      ∃ run, run <+: cs ∧ run.length = 64 ∧ ∀ c ∈ run, Decimal.isHexDigit c = true := by
  rw [startsLongRun_iff]
  constructor
  · intro h
    refine ⟨(cs.takeWhile Decimal.isHexDigit).take 64, ?_, ?_, fun c hc => ?_⟩
    · exact (List.take_prefix _ _).trans (List.takeWhile_prefix _)
    · rw [List.length_take]
      omega
    · exact List.mem_takeWhile_imp (List.mem_of_mem_take hc)
  · rintro ⟨run, ⟨tail, rfl⟩, hlen, hrun⟩
    rw [List.takeWhile_append_of_pos hrun, List.length_append]
    omega

/-! ## Texts without either -/

/-- No run of sixty-four hexadecimal digits and no address with credentials occurs in the text. -/
structure Clean (s : String) : Prop where
  noRun : ∀ run, run <:+: s.toList → run.length = 64 → ∃ c ∈ run, Decimal.isHexDigit c = false
  noUrl : ∀ url, url <:+: s.toList → ¬ IsCredentialUrl url

/-- No rest of the characters starts so. -/
def Never (starts : List Char → Bool) (cs : List Char) : Prop :=
  ∀ rest, rest <:+ cs → starts rest = false

section
variable {starts : List Char → Bool}

theorem never_nil (h : starts [] = false) : Never starts [] := by
  intro rest hrest
  rw [List.suffix_nil.1 hrest, h]

theorem never_cons {c : Char} {cs : List Char} :
    Never starts (c :: cs) ↔ starts (c :: cs) = false ∧ Never starts cs := by
  simp only [Never, List.suffix_cons_iff, forall_eq_or_imp]

theorem Never.suffix {cs rest : List Char} (h : Never starts cs) (hrest : rest <:+ cs) :
    Never starts rest := fun t ht => h t (ht.trans hrest)

end

/-- A text is clean if the scans find nothing in it. -/
theorem clean_of_never {s : String} (hrun : Never startsLongRun s.toList)
    (hurl : Never startsCredentialUrl s.toList) : Clean s := by
  constructor
  · intro run hinfix hlen
    obtain ⟨rest, hprefix, hsuffix⟩ := List.infix_iff_prefix_suffix.1 hinfix
    apply Classical.byContradiction
    intro hall
    have hhex : ∀ c ∈ run, Decimal.isHexDigit c = true := by simpa using hall
    have h := startsLongRun_iff_isPrefix.2 ⟨run, hprefix, hlen, hhex⟩
    rw [hrun rest hsuffix] at h
    cases h
  · intro url hinfix hcred
    obtain ⟨rest, hprefix, hsuffix⟩ := List.infix_iff_prefix_suffix.1 hinfix
    have h := startsCredentialUrl_iff_isPrefix.2 ⟨url, hprefix, hcred⟩
    rw [hurl rest hsuffix] at h
    cases h

end NodeAudit.Redaction
