import NodeAudit.Proofs.Redaction.Clean

/-!
# Redaction of an address with credentials

Texts in which nothing is found stay as they are (`redact_eq_self`), so that redacting twice is
redacting once (`redact_redact`).

`Site.address s u` is the address of a node on the web with a user and a password before it. If the
scheme ends in a small letter and there is a user, all of it is cut out from the last small letters
of the scheme on (`redact_address`), and the user and the password are not seen. Otherwise the first
pass keeps both (`redactUrls_address_of_not_hides`).
-/

namespace NodeAudit.Redaction

/-! ## Texts that stay as they are -/

theorem redactUrls_eq_self {cs : List Char} (h : Never startsCredentialUrl cs) :
    redactUrls cs = cs := by
  induction cs with
  | nil => rw [redactUrls]
  | cons c cs ih =>
    obtain ⟨hc, hcs⟩ := never_cons.1 h
    rw [redactUrls, if_neg (by simp [hc]), ih hcs]

/-- Where no long run begins at any rest nothing is cut out. -/
theorem afterLongRun?_eq_none {cs : List Char} (h : Never startsLongRun cs) :
    afterLongRun? cs = none := by
  unfold afterLongRun?
  split
  · rename_i ds
    have hds := h ds ⟨['0', 'x'], rfl⟩
    simp [hds]
  · have hcs := h cs (List.suffix_refl cs)
    simp [hcs]

theorem redactHex_of_afterLongRun? {cs rest : List Char} (h : afterLongRun? cs = some rest) :
    redactHex cs = hexMark.toList ++ redactHex rest := by
  rw [redactHex]
  split
  · rename_i rest' hrun
    rw [h] at hrun
    rw [Option.some.inj hrun]
  · rename_i hnone
    rw [h] at hnone
    cases hnone

theorem redactHex_cons {c : Char} {cs : List Char} (h : afterLongRun? (c :: cs) = none) :
    redactHex (c :: cs) = c :: redactHex cs := by
  rw [redactHex]
  split
  · rename_i rest hrun
    rw [h] at hrun
    cases hrun
  · rfl

theorem redactHex_eq_self {cs : List Char} (h : Never startsLongRun cs) : redactHex cs = cs := by
  induction cs with
  | nil =>
    rw [redactHex]
    rfl
  | cons c cs ih => rw [redactHex_cons (afterLongRun?_eq_none h), ih (never_cons.1 h).2]

theorem redact_eq_self {s : String} (hurl : Never startsCredentialUrl s.toList)
    (hrun : Never startsLongRun s.toList) : redact s = s := by
  rw [redact, redactUrls_eq_self hurl, redactHex_eq_self hrun, String.ofList_toList]

theorem redact_redact (s : String) : redact (redact s) = redact s := by
  apply redact_eq_self
  · rw [redact, String.toList_ofList]
    exact never_startsCredentialUrl_redactHex (never_redactUrls _)
  · rw [redact, String.toList_ofList]
    exact never_startsLongRun_redactHex _

/-! ## Addresses of a site -/

/-- An ASCII letter of either case. -/
def isLetter (c : Char) : Bool := isSchemeStart c || ('A' ≤ c && c ≤ 'Z')

/-- A character that stands in a user or a password as it is: no blank, and none that parts an
address. -/
def isPlain (c : Char) : Bool := isUserChar c && c != '/' && c != '?' && c != '#'

/-- A user, which may be empty, and a password. -/
structure UserInfo where
  user : String
  password : String
  user_plain : ∀ c ∈ user.toList, isPlain c = true
  password_plain : ∀ c ∈ password.toList, isPlain c = true
  password_ne : password.toList ≠ []

/-- Where a node is on the web: a scheme in any case of its letters, and what follows the user and
the password. -/
structure Site where
  scheme : String
  rest : String
  scheme_web : scheme.toList.map Char.toLower = "http".toList ∨
    scheme.toList.map Char.toLower = "https".toList
  rest_stretch : Stretch isWordChar rest.toList

namespace Site

/-- The address of the node with a user and a password. -/
def address (s : Site) (u : UserInfo) : String :=
  s.scheme ++ "://" ++ u.user ++ ":" ++ u.password ++ "@" ++ s.rest

/-- The scheme ends in a small letter. -/
def endsSmall (s : Site) : Bool := s.scheme.toList.getLast?.any isSchemeStart

end Site

/-- What is found in an address: the scheme ends in a small letter and there is a user. -/
def Hides (s : Site) (u : UserInfo) : Prop := s.endsSmall = true ∧ u.user.toList ≠ []

theorem toList_address (s : Site) (u : UserInfo) :
    (s.address u).toList = s.scheme.toList ++ ':' :: '/' :: '/' ::
      (u.user.toList ++ ':' :: (u.password.toList ++ '@' :: s.rest.toList)) := by
  simp [Site.address, String.toList_append]

/-! ### Characters of an address -/

theorem isLetter_of_toLower {c : Char} (h : isSchemeStart c.toLower = true) :
    isLetter c = true := by
  by_cases hc : ('A' ≤ c && c ≤ 'Z') = true
  · rw [isLetter, hc, Bool.or_true]
  · have hlow : c.toLower = c := by
      refine dif_neg fun hcapital => hc ?_
      rw [Bool.and_eq_true, decide_eq_true_eq, decide_eq_true_eq]
      exact hcapital
    rw [isLetter, ← hlow, h, Bool.true_or]

theorem Site.isLetter_scheme (s : Site) : ∀ c ∈ s.scheme.toList, isLetter c = true := by
  intro c hc
  apply isLetter_of_toLower
  have hmem : c.toLower ∈ s.scheme.toList.map Char.toLower := List.mem_map_of_mem hc
  have hall : ∀ x ∈ s.scheme.toList.map Char.toLower, isSchemeStart x = true := by
    rcases s.scheme_web with h | h
    · rw [h]
      exact List.all_eq_true.1 (by decide)
    · rw [h]
      exact List.all_eq_true.1 (by decide)
  exact hall _ hmem

theorem Site.length_scheme_le (s : Site) : s.scheme.toList.length ≤ 5 := by
  rw [← List.length_map Char.toLower]
  rcases s.scheme_web with h | h
  · rw [h]
    decide
  · rw [h]
    decide

theorem isWordChar_of_isLetter {c : Char} (h : isLetter c = true) : isWordChar c = true := by
  apply isWordChar_of_visible
  simp [isLetter, isSchemeStart, Char.le_def, UInt32.le_iff_toNat_le] at h
  omega

theorem isUserChar_of_isPlain {c : Char} (h : isPlain c = true) : isUserChar c = true := by
  simp only [isPlain, Bool.and_eq_true] at h
  exact h.1.1.1

theorem isPasswordChar_of_isPlain {c : Char} (h : isPlain c = true) : isPasswordChar c = true :=
  isPasswordChar_of_isUserChar (isUserChar_of_isPlain h)

theorem isWordChar_of_isPlain {c : Char} (h : isPlain c = true) : isWordChar c = true :=
  isWordChar_of_isPasswordChar (isPasswordChar_of_isPlain h)

theorem isWordChar_address (s : Site) (u : UserInfo) :
    ∀ c ∈ (s.address u).toList, isWordChar c = true := by
  have hcolon : isWordChar ':' = true := by decide
  have hslash : isWordChar '/' = true := by decide
  have hat : isWordChar '@' = true := by decide
  rw [toList_address]
  simp only [List.forall_mem_append, List.forall_mem_cons]
  exact ⟨fun c hc => isWordChar_of_isLetter (s.isLetter_scheme c hc), hcolon, hslash, hslash,
    fun c hc => isWordChar_of_isPlain (u.user_plain c hc), hcolon,
    fun c hc => isWordChar_of_isPlain (u.password_plain c hc), hat, s.rest_stretch.2⟩

/-! ### Where an address with credentials is found -/

/-- Of the letters before `://` all from the first on must be small, and a user must follow. -/
theorem startsCredentialUrl_letters_iff {c : Char} {l cs : List Char}
    (hl : ∀ x ∈ c :: l, isLetter x = true) :
    startsCredentialUrl (c :: (l ++ ':' :: '/' :: '/' :: cs)) = true ↔
      (c :: l).all isSchemeStart = true ∧ startsUser cs = true := by
  have hcolon : isSchemeChar ':' = false := by decide
  have hletters := (List.forall_mem_cons.1 hl).2
  rw [startsScheme_iff, List.all_cons, Bool.and_eq_true, and_assoc]
  refine and_congr_right fun _ => ⟨?_, ?_⟩
  · rintro ⟨scheme, rest, hs, hu, heq⟩
    -- a letter is no colon, and neither is a character of the scheme
    have hmem : ':' ∉ l := fun hmem => absurd (hletters _ hmem) (by decide)
    have htake := congrArg (List.takeWhile (· != ':')) heq
    have hdrop := congrArg (List.dropWhile (· != ':')) heq
    have hne : ∀ x ∈ l, (x != ':') = true := fun x hx => bne_iff_ne.2 fun h => hmem (h ▸ hx)
    have hne' : ∀ x ∈ scheme, (x != ':') = true := by
      intro x hx
      refine bne_iff_ne.2 fun h => ?_
      rw [h] at hx
      exact absurd (hs _ hx) (by decide)
    rw [takeWhile_append_cons hne rfl, takeWhile_append_cons hne' rfl] at htake
    rw [dropWhile_append_cons hne rfl, dropWhile_append_cons hne' rfl] at hdrop
    obtain rfl : cs = rest := by simpa using hdrop
    refine ⟨List.all_eq_true.2 fun x hx => ?_, hu⟩
    have hxs := hs x (htake ▸ hx)
    have hxl := hletters x hx
    simp [isSchemeChar, isLetter, isSchemeStart, Decimal.isDigit, Char.le_def,
      UInt32.le_iff_toNat_le, ← Char.toNat_inj] at hxs hxl ⊢
    omega
  · rintro ⟨hsmall, hu⟩
    refine ⟨l, cs, fun x hx => ?_, hu, rfl⟩
    rw [isSchemeChar, List.all_eq_true.1 hsmall x hx]
    rfl

/-- No address begins at a character whose word goes on to a character that neither belongs to a
scheme nor is a colon. -/
theorem startsCredentialUrl_eq_false_of_notMem {c d : Char} {l rest : List Char} (hl : ':' ∉ l)
    (hd : isSchemeChar d = false) (hcolon : d ≠ ':') :
    startsCredentialUrl (c :: (l ++ d :: rest)) = false := by
  apply Bool.eq_false_iff.2
  intro h
  obtain ⟨-, scheme, tail, hs, -, heq⟩ := startsScheme_iff.1 h
  obtain ⟨l', rfl, hrest⟩ | ⟨l', rfl, hrest⟩ := List.append_eq_append_iff.1 heq
  · cases l' with
    | nil => exact hcolon (List.cons.inj hrest).1
    | cons x l' =>
      obtain ⟨rfl, -⟩ := List.cons.inj hrest
      rw [hs d (by simp)] at hd
      cases hd
  · cases l' with
    | nil => exact hcolon (List.cons.inj hrest).1.symm
    | cons x l' =>
      obtain ⟨rfl, -⟩ := List.cons.inj hrest
      exact hl (by simp)

/-- No address begins at a character whose word goes on to a colon without a slash behind it. -/
theorem startsCredentialUrl_eq_false_of_colon {c d : Char} {l rest : List Char} (hl : ':' ∉ l)
    (hd : d ≠ '/') : startsCredentialUrl (c :: (l ++ ':' :: d :: rest)) = false := by
  apply Bool.eq_false_iff.2
  intro h
  obtain ⟨-, scheme, tail, hs, -, heq⟩ := startsScheme_iff.1 h
  obtain ⟨l', rfl, hrest⟩ | ⟨l', rfl, hrest⟩ := List.append_eq_append_iff.1 heq
  · cases l' with
    | nil =>
      obtain ⟨-, hrest⟩ := List.cons.inj hrest
      exact hd (List.cons.inj hrest).1
    | cons x l' =>
      obtain ⟨rfl, -⟩ := List.cons.inj hrest
      exact absurd (hs ':' (by simp)) (by decide)
  · cases l' with
    | nil =>
      obtain ⟨-, hrest⟩ := List.cons.inj hrest
      exact hd (List.cons.inj hrest).1.symm
    | cons x l' =>
      obtain ⟨rfl, -⟩ := List.cons.inj hrest
      exact hl (by simp)

/-! ### What is cut out -/

/-- A scheme up to its last capital letter. -/
def keptScheme : List Char → List Char
  | [] => []
  | c :: l => if (c :: l).all isSchemeStart then [] else c :: keptScheme l

theorem length_keptScheme_le (l : List Char) : (keptScheme l).length ≤ l.length := by
  induction l with
  | nil => exact Nat.le_refl _
  | cons c l ih =>
    rw [keptScheme]
    split
    · exact Nat.zero_le _
    · exact Nat.succ_le_succ ih

/-- From the last small letters of the scheme on the word is cut out. -/
theorem redactUrls_letters {l cs : List Char} (hl : ∀ x ∈ l, isLetter x = true)
    (hsmall : l.getLast?.any isSchemeStart = true) (hu : startsUser cs = true)
    (hw : ∀ x ∈ cs, isWordChar x = true) :
    redactUrls (l ++ ':' :: '/' :: '/' :: cs) = keptScheme l ++ urlMark.toList := by
  induction l with
  | nil => cases hsmall
  | cons c l ih =>
    rw [List.cons_append, redactUrls, keptScheme]
    by_cases hall : (c :: l).all isSchemeStart = true
    · have hword : ∀ x ∈ l ++ ':' :: '/' :: '/' :: cs, isWordChar x = true := by
        have hcolon : isWordChar ':' = true := by decide
        have hslash : isWordChar '/' = true := by decide
        simp only [List.forall_mem_append, List.forall_mem_cons]
        exact ⟨fun x hx => isWordChar_of_isLetter (hl x (List.mem_cons_of_mem c hx)), hcolon,
          hslash, hslash, hw⟩
      rw [if_pos ((startsCredentialUrl_letters_iff hl).2 ⟨hall, hu⟩), if_pos hall,
        List.dropWhile_eq_nil_iff.2 hword, redactUrls, List.append_nil, List.nil_append]
    · rw [if_neg fun h => hall ((startsCredentialUrl_letters_iff hl).1 h).1, if_neg hall]
      cases l with
      | nil =>
        -- a single letter is the last one, and small
        have hc : isSchemeStart c = true := by simpa using hsmall
        simp [hc] at hall
      | cons x l =>
        rw [ih (fun y hy => hl y (List.mem_cons_of_mem c hy)) (by simpa using hsmall),
          List.cons_append]

/-- An address that is found shows nothing of its user and password. -/
theorem redact_address {s : Site} {u : UserInfo} (h : Hides s u) :
    redact (s.address u) = String.ofList (keptScheme s.scheme.toList ++ urlMark.toList) := by
  obtain ⟨hsmall, hne⟩ := h
  obtain ⟨c, rest, hrest⟩ := List.exists_cons_of_ne_nil s.rest_stretch.1
  have hc : isWordChar c = true := s.rest_stretch.2 c (by simp [hrest])
  have hpass : startsPassword (u.password.toList ++ '@' :: s.rest.toList) = true :=
    startsPassword_iff.2 ⟨_, c, rest, ⟨u.password_ne, fun x hx =>
      isPasswordChar_of_isPlain (u.password_plain x hx)⟩, hc, by rw [hrest]⟩
  have huser := startsUser_iff.2 ⟨u.user.toList, _, ⟨hne, fun x hx =>
    isUserChar_of_isPlain (u.user_plain x hx)⟩, hpass, rfl⟩
  have hword := isWordChar_address s u
  rw [toList_address] at hword
  have hlen : (keptScheme s.scheme.toList ++ urlMark.toList).length < 64 := by
    have hscheme := length_keptScheme_le s.scheme.toList
    have hle := s.length_scheme_le
    have hmark : urlMark.toList.length = 14 := by decide
    rw [List.length_append]
    omega
  rw [redact, toList_address, redactUrls_letters s.isLetter_scheme hsmall huser,
    redactHex_eq_self (never_startsLongRun_of_length hlen)]
  intro x hx
  refine hword x (List.mem_append_right _ ?_)
  exact List.mem_cons_of_mem _ (List.mem_cons_of_mem _ (List.mem_cons_of_mem _ hx))

/-! ### What is kept -/

/-- The first pass keeps what stands before the first address. -/
theorem redactUrls_append {l cs : List Char}
    (h : ∀ c tail, (c :: tail) <:+ l → startsCredentialUrl (c :: (tail ++ cs)) = false) :
    redactUrls (l ++ cs) = l ++ redactUrls cs := by
  induction l with
  | nil => rfl
  | cons c l ih =>
    have hc := h c l (List.suffix_refl _)
    rw [List.cons_append, redactUrls, if_neg (by simp [hc]), List.cons_append, ih]
    intro x tail hx
    exact h x tail (hx.trans (List.suffix_cons c l))

/-- The first pass keeps a character that begins no scheme. -/
theorem redactUrls_cons {c : Char} {cs : List Char} (h : isSchemeStart c = false) :
    redactUrls (c :: cs) = c :: redactUrls cs := by
  rw [redactUrls, if_neg (by simp [startsCredentialUrl, h])]

theorem not_colon_of_isPlain {c : Char} (h : isPlain c = true) : c ≠ ':' := by
  have huser := isUserChar_of_isPlain h
  simp only [isUserChar, Bool.and_eq_true, bne_iff_ne] at huser
  exact huser.1.1

theorem not_slash_of_isPlain {c : Char} (h : isPlain c = true) : c ≠ '/' := by
  simp only [isPlain, Bool.and_eq_true, bne_iff_ne] at h
  exact h.1.1.2

/-- Where the address is not found, no rest of its scheme begins one. -/
theorem redactUrls_scheme {s : Site} {u : UserInfo} (h : ¬ Hides s u) (cs : List Char) :
    redactUrls (s.scheme.toList ++ ':' :: '/' :: '/' :: (u.user.toList ++ ':' :: cs))
      = s.scheme.toList ++ redactUrls (':' :: '/' :: '/' :: (u.user.toList ++ ':' :: cs)) := by
  apply redactUrls_append
  intro c tail hsuffix
  apply Bool.eq_false_iff.2
  intro hstart
  have hletters : ∀ x ∈ c :: tail, isLetter x = true :=
    fun x hx => s.isLetter_scheme x (hsuffix.subset hx)
  obtain ⟨hsmall, huser⟩ := (startsCredentialUrl_letters_iff hletters).1 hstart
  obtain ⟨l, hl⟩ := hsuffix
  refine h ⟨?_, fun hnil => ?_⟩
  · have hlast : (c :: tail).getLast (List.cons_ne_nil c tail) ∈ c :: tail := List.getLast_mem _
    rw [Site.endsSmall, ← hl, List.getLast?_append,
      List.getLast?_eq_some_getLast (List.cons_ne_nil c tail), Option.some_or]
    exact List.all_eq_true.1 hsmall _ hlast
  · rw [hnil] at huser
    cases huser

/-- The first pass keeps the user and the password of an address in which nothing is found. -/
theorem redactUrls_address_of_not_hides {s : Site} {u : UserInfo} (h : ¬ Hides s u) :
    redactUrls (s.address u).toList
      = s.scheme.toList ++ ':' :: '/' :: '/' ::
        (u.user.toList ++ ':' :: (u.password.toList ++ '@' :: redactUrls s.rest.toList)) := by
  have hcolon : ∀ {l tail : List Char} {c : Char}, (∀ x ∈ l, isPlain x = true) →
      (c :: tail) <:+ l → ':' ∉ tail := by
    intro l tail c hl hsuffix hmem
    exact not_colon_of_isPlain (hl _ (hsuffix.subset (List.mem_cons_of_mem c hmem))) rfl
  have huser : ∀ cs : List Char, redactUrls (u.user.toList ++ ':' :: (u.password.toList ++ cs))
      = u.user.toList ++ redactUrls (':' :: (u.password.toList ++ cs)) := by
    intro cs
    apply redactUrls_append
    intro c tail hsuffix
    obtain ⟨d, password, hp⟩ := List.exists_cons_of_ne_nil u.password_ne
    have hd : d ≠ '/' := not_slash_of_isPlain (u.password_plain d (by simp [hp]))
    rw [hp, List.cons_append]
    exact startsCredentialUrl_eq_false_of_colon (hcolon u.user_plain hsuffix) hd
  have hpassword : ∀ cs : List Char, redactUrls (u.password.toList ++ '@' :: cs)
      = u.password.toList ++ redactUrls ('@' :: cs) := by
    intro cs
    apply redactUrls_append
    intro c tail hsuffix
    exact startsCredentialUrl_eq_false_of_notMem (hcolon u.password_plain hsuffix) (by decide)
      (by decide)
  have hstart : isSchemeStart ':' = false ∧ isSchemeStart '/' = false ∧
      isSchemeStart '@' = false := by decide
  obtain ⟨hc, hslash, hat⟩ := hstart
  rw [toList_address, redactUrls_scheme h, redactUrls_cons hc, redactUrls_cons hslash,
    redactUrls_cons hslash, huser, redactUrls_cons hc, hpassword, redactUrls_cons hat]

end NodeAudit.Redaction
