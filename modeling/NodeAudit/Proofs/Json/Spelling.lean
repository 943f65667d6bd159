import NodeAudit.Proofs.Json.Token

/-!
# Spellings of a value

`Spells v cs` says that the characters spell the value: strings as the printer writes them, numbers
in any way that is read back, and any blanks between the marks of a container and what stands in it.
The scanners read back every spelling, by induction on their bound (`scans`), so that a text is read
as the value that it spells (`read_of_spells`).

Main statement: `read_pretty`. The indented text of a value whose numbers are integers of at most 64
bits is read as the document of the value.
-/

namespace NodeAudit

/-! ## Values without doubles -/

namespace Json

mutual
/-- Every number is an integer of at most 64 bits. -/
def hasWholeNumbers : Json → Bool
  | .number (.integer n) =>
    decide (-9223372036854775808 ≤ n) && decide (n ≤ 18446744073709551615)
  | .number (.double _ _) => false
  | .array items => allWholeNumbers items
  | .object members => membersWholeNumbers members
  | _ => true

/-- Every number in a list of values is an integer of at most 64 bits. -/
def allWholeNumbers : List Json → Bool
  | [] => true
  | v :: rest => v.hasWholeNumbers && allWholeNumbers rest

/-- Every number in the values of members is an integer of at most 64 bits. -/
def membersWholeNumbers : List (String × Json) → Bool
  | [] => true
  | (_, v) :: rest => v.hasWholeNumbers && membersWholeNumbers rest
end

theorem allWholeNumbers_iff {items : List Json} :
    allWholeNumbers items = true ↔ ∀ v ∈ items, v.hasWholeNumbers = true := by
  induction items with
  | nil => simp [allWholeNumbers]
  | cons v rest ih => simp [allWholeNumbers, ih]

theorem membersWholeNumbers_iff {members : List (String × Json)} :
    membersWholeNumbers members = true ↔ ∀ m ∈ members, m.2.hasWholeNumbers = true := by
  induction members with
  | nil => simp [membersWholeNumbers]
  | cons m rest ih => rw [membersWholeNumbers, Bool.and_eq_true, ih, List.forall_mem_cons]

theorem hasWholeNumbers_ofNat {n : Nat} (h : n < UInt64.size) :
    (ofNat n).hasWholeNumbers = true := by
  rw [UInt64.size] at h
  simp only [ofNat, hasWholeNumbers, Bool.and_eq_true, decide_eq_true_eq]
  omega

theorem hasWholeNumbers_int64 (n : Int64) : (ofInt n.toInt).hasWholeNumbers = true := by
  have hlow := n.le_toInt
  have hhigh := n.toInt_lt
  simp only [ofInt, hasWholeNumbers, Bool.and_eq_true, decide_eq_true_eq]
  omega

end Json

namespace JsonText

/-! ## Spellings -/

/-- Nothing but blanks. -/
def Blank (cs : List Char) : Prop := ∀ c ∈ cs, isSpace c = true

mutual
/-- The characters spell the value. -/
inductive Spells : Json → List Char → Prop where
  | null : Spells .null ['n', 'u', 'l', 'l']
  | yes : Spells (.bool true) ['t', 'r', 'u', 'e']
  | no : Spells (.bool false) ['f', 'a', 'l', 's', 'e']
  | number {n : Number} {c : Char} {cs : List Char} (hc : Decimal.isDigit c = true ∨ c = '-')
      (hscan : ∀ rest, Ends rest →
        scanScalar (c :: (cs ++ rest)) = (.number (some n), some rest)) :
      Spells (.number n) (c :: cs)
  | string (s : String) : Spells (.string s) (Json.stringText s)
  | emptyArray : Spells (.array []) ['[', ']']
  | array {items : List Json} {cs sp sp' : List Char} (hitems : SpellsItems items cs)
      (hsp : Blank sp) (hsp' : Blank sp') : Spells (.array items) ('[' :: (sp ++ cs ++ sp' ++ [']']))
  | emptyObject : Spells (.object []) ['\x7b', '\x7d']
  | object {members : List (String × Json)} {cs sp sp' : List Char}
      (hmembers : SpellsMembers members cs) (hsp : Blank sp) (hsp' : Blank sp') :
      Spells (.object members) ('\x7b' :: (sp ++ cs ++ sp' ++ ['\x7d']))

/-- The characters spell the items of an array, from the first to the last. -/
inductive SpellsItems : List Json → List Char → Prop where
  | last {v : Json} {cs : List Char} (hv : Spells v cs) : SpellsItems [v] cs
  | more {v : Json} {rest : List Json} {cs sp cs' : List Char} (hv : Spells v cs) (hsp : Blank sp)
      (hrest : SpellsItems rest cs') : SpellsItems (v :: rest) (cs ++ ',' :: (sp ++ cs'))

/-- The characters spell the members of an object, from the first to the last. -/
inductive SpellsMembers : List (String × Json) → List Char → Prop where
  | last {k : String} {v : Json} {sp cs : List Char} (hsp : Blank sp) (hv : Spells v cs) :
      SpellsMembers [(k, v)] (Json.stringText k ++ ':' :: (sp ++ cs))
  | more {k : String} {v : Json} {rest : List (String × Json)} {sp cs sp' cs' : List Char}
      (hsp : Blank sp) (hv : Spells v cs) (hsp' : Blank sp') (hrest : SpellsMembers rest cs') :
      SpellsMembers ((k, v) :: rest)
        (Json.stringText k ++ ':' :: (sp ++ cs) ++ ',' :: (sp' ++ cs'))
end

/-! ## How spellings begin -/

/-- The text begins with a character that is no blank and closes no container. -/
def Opens (cs : List Char) : Prop :=
  ∃ c rest, cs = c :: rest ∧ isSpace c = false ∧ c ≠ ']' ∧ c ≠ '\x7d'

theorem Opens.append {cs : List Char} (h : Opens cs) (rest : List Char) : Opens (cs ++ rest) := by
  obtain ⟨c, cs, rfl, hc⟩ := h
  exact ⟨c, cs ++ rest, rfl, hc⟩

theorem exists_ofInt_eq_cons (i : Int) :
    ∃ c cs, (Decimal.ofInt i).toList = c :: cs ∧ (Decimal.isDigit c = true ∨ c = '-') := by
  cases i with
  | ofNat n =>
    have htext : (Decimal.ofInt (.ofNat n)).toList = Decimal.digits 10 n := String.toList_ofList
    obtain ⟨c, ds, hds⟩ := List.exists_cons_of_ne_nil (Decimal.digits_ne_nil 10 n)
    exact ⟨c, ds, htext.trans hds, .inl (Decimal.isDigit_of_mem_digits (n := n) (by simp [hds]))⟩
  | negSucc n =>
    have htext : (Decimal.ofInt (.negSucc n)).toList = '-' :: Decimal.digits 10 (n + 1) := by
      simp [Decimal.ofInt, Decimal.ofNat]
    exact ⟨'-', _, htext, .inr rfl⟩

theorem not_mark_of_number {c : Char} (h : Decimal.isDigit c = true ∨ c = '-') :
    isSpace c = false ∧ c ≠ '[' ∧ c ≠ ']' ∧ c ≠ '\x7b' ∧ c ≠ '\x7d' := by
  refine ⟨?_, ?_, ?_, ?_, ?_⟩
  · cases hsp : isSpace c with
    | false => rfl
    | true =>
      simp only [isSpace, Bool.or_eq_true, beq_iff_eq] at hsp
      rcases hsp with ((rfl | rfl) | rfl) | rfl
      all_goals exact absurd h (by decide)
  all_goals
    rintro rfl
    exact absurd h (by decide)

theorem Spells.integer {i : Int} (hlow : -9223372036854775808 ≤ i)
    (hhigh : i ≤ 18446744073709551615) :
    Spells (.number (.integer i)) (Decimal.ofInt i).toList := by
  obtain ⟨c, cs, hcs, hc⟩ := exists_ofInt_eq_cons i
  rw [hcs]
  refine .number hc fun rest hr => ?_
  have hscan := scanScalar_integer hlow hhigh hr
  rwa [hcs] at hscan

theorem Spells.opens {v : Json} {cs : List Char} (h : Spells v cs) : Opens cs := by
  cases h with
  | number hc hscan =>
    obtain ⟨hsp, -, harray, -, hobject⟩ := not_mark_of_number hc
    exact ⟨_, _, rfl, hsp, harray, hobject⟩
  | _ => exact ⟨_, _, rfl, by decide⟩

theorem SpellsItems.opens {items : List Json} {cs : List Char} (h : SpellsItems items cs) :
    Opens cs := by
  cases h with
  | last hv => exact hv.opens
  | more hv hsp hrest => exact hv.opens.append _

theorem SpellsMembers.opens {members : List (String × Json)} {cs : List Char}
    (h : SpellsMembers members cs) : Opens cs := by
  cases h with
  | last => exact ⟨_, _, rfl, by decide⟩
  | more => exact ⟨_, _, rfl, by decide⟩

/-! ## Blanks -/

variable {sp cs rest : List Char} {fuel : Nat}

theorem blank_nil : Blank [] := by
  intro c hc
  cases hc

theorem skipSpace_append (h : Blank sp) (cs : List Char) : skipSpace (sp ++ cs) = skipSpace cs :=
  List.dropWhile_append_of_pos h

theorem skipSpace_cons {c : Char} (h : isSpace c = false) (cs : List Char) :
    skipSpace (c :: cs) = c :: cs :=
  List.dropWhile_cons_of_neg (by simp [h])

theorem Opens.skipSpace_eq (h : Opens cs) : skipSpace cs = cs := by
  obtain ⟨c, cs, rfl, hc, -⟩ := h
  exact skipSpace_cons hc cs

theorem scanValue_append (h : Blank sp) (fuel : Nat) (cs : List Char) :
    scanValue fuel (sp ++ cs) = scanValue fuel cs := by
  cases fuel with
  | zero => rfl
  | succ fuel => rw [scanValue, scanValue, skipSpace_append h]

theorem ends_append (h : Blank sp) (hr : Ends rest) : Ends (sp ++ rest) := by
  cases sp with
  | nil => exact hr
  | cons c sp => exact ends_cons (by simp [isDelimiter, h c List.mem_cons_self]) _

/-! ## One step of the scanners -/

theorem scanValue_scalar {c : Char} (hsp : isSpace c = false) (harray : c ≠ '[')
    (hobject : c ≠ '\x7b') (cs : List Char) :
    scanValue (fuel + 1) (c :: cs) = scanScalar (c :: cs) := by
  rw [scanValue, skipSpace_cons hsp]
  split
  · rename_i heq
    exact absurd (List.cons.inj heq).1 harray
  · rename_i heq
    exact absurd (List.cons.inj heq).1 hobject
  · rfl

theorem skipSpace_mark {c : Char} (h : c ∈ ['[', ']', '\x7b', '\x7d', ',', ':']) (cs : List Char) :
    skipSpace (c :: cs) = c :: cs := by
  simp only [List.mem_cons, List.not_mem_nil, or_false] at h
  rcases h with rfl | rfl | rfl | rfl | rfl | rfl
  all_goals rfl

theorem scanValue_array {items : List Document} (hsp : Blank sp) (hopen : Opens cs)
    (h : scanItems fuel cs = (items, true, some rest)) :
    scanValue (fuel + 1) ('[' :: (sp ++ cs)) = (.array items true, some rest) := by
  simp only [scanValue, skipSpace_mark, List.mem_cons, true_or, skipSpace_append hsp,
    hopen.skipSpace_eq]
  obtain ⟨c, cs, rfl, -, hne, -⟩ := hopen
  split
  · rename_i heq
    exact absurd (List.cons.inj heq).1 hne
  · rw [h]

theorem scanValue_object {members : List (Option String × Document)} (hsp : Blank sp)
    (hopen : Opens cs) (h : scanMembers fuel cs = (members, true, some rest)) :
    scanValue (fuel + 1) ('\x7b' :: (sp ++ cs)) = (.object members true, some rest) := by
  simp only [scanValue, skipSpace_mark, List.mem_cons, true_or, or_true, skipSpace_append hsp,
    hopen.skipSpace_eq]
  obtain ⟨c, cs, rfl, -, -, hne⟩ := hopen
  split
  · rename_i heq
    exact absurd (List.cons.inj heq).1 hne
  · rw [h]

theorem scanItems_last {d : Document} (hsp : Blank sp)
    (h : scanValue fuel cs = (d, some (sp ++ ']' :: rest))) :
    scanItems (fuel + 1) cs = ([d], true, some rest) := by
  simp only [scanItems, h, skipSpace_append hsp, skipSpace_mark, List.mem_cons, true_or, or_true]

theorem scanItems_more {d : Document} {items : List Document} {next : List Char} (hsp : Blank sp)
    (hopen : Opens next) (h : scanValue fuel cs = (d, some (',' :: (sp ++ next))))
    (hrest : scanItems fuel next = (items, true, some rest)) :
    scanItems (fuel + 1) cs = (d :: items, true, some rest) := by
  simp only [scanItems, h, skipSpace_append hsp, hopen.skipSpace_eq, skipSpace_mark, List.mem_cons,
    true_or, or_true]
  obtain ⟨c, next, rfl, -, hne, -⟩ := hopen
  split
  · rename_i heq
    exact absurd (List.cons.inj heq).1 hne
  · rw [hrest]

theorem scanMembers_last {d : Document} {k : String} (hsp : Blank sp)
    (h : scanValue fuel cs = (d, some (sp ++ '\x7d' :: rest))) :
    scanMembers (fuel + 1) (Json.stringText k ++ ':' :: cs) = ([(some k, d)], true, some rest) := by
  obtain ⟨chars, hchars, hscan⟩ := scanString_stringText k (':' :: cs)
  simp only [hchars, scanMembers, hscan, unitText?_map_char, h, skipSpace_append hsp, skipSpace_mark,
    List.mem_cons, true_or, or_true]

theorem scanMembers_more {d : Document} {k : String} {members : List (Option String × Document)}
    {next : List Char} (hsp : Blank sp) (hopen : Opens next)
    (h : scanValue fuel cs = (d, some (',' :: (sp ++ next))))
    (hrest : scanMembers fuel next = (members, true, some rest)) :
    scanMembers (fuel + 1) (Json.stringText k ++ ':' :: cs)
      = ((some k, d) :: members, true, some rest) := by
  obtain ⟨chars, hchars, hscan⟩ := scanString_stringText k (':' :: cs)
  simp only [hchars, scanMembers, hscan, unitText?_map_char, h, skipSpace_append hsp,
    hopen.skipSpace_eq, hrest, skipSpace_mark, List.mem_cons, true_or, or_true]

/-! ## Every spelling is read -/

/-- With a bound on their calls, the scanners read every spelling whose length it covers. -/
structure Scans (fuel : Nat) : Prop where
  value : ∀ {v cs rest}, Spells v cs → 2 * cs.length ≤ fuel → Ends rest →
    scanValue fuel (cs ++ rest) = (.ofJson v, some rest)
  items : ∀ {items cs sp} (rest), SpellsItems items cs → 2 * cs.length < fuel → Blank sp →
    scanItems fuel (cs ++ (sp ++ ']' :: rest)) = (Document.ofItems items, true, some rest)
  members : ∀ {members cs sp} (rest), SpellsMembers members cs → 2 * cs.length < fuel → Blank sp →
    scanMembers fuel (cs ++ (sp ++ '\x7d' :: rest)) = (Document.ofMembers members, true, some rest)

namespace Scans

theorem value_succ (ih : Scans fuel) {v : Json} (h : Spells v cs) (hlen : 2 * cs.length ≤ fuel + 1)
    (hr : Ends rest) : scanValue (fuel + 1) (cs ++ rest) = (.ofJson v, some rest) := by
  cases h with
  | null => rfl
  | yes => rfl
  | no => rfl
  | number hc hscan =>
    obtain ⟨hsp, harray, -, hobject, -⟩ := not_mark_of_number hc
    exact (scanValue_scalar hsp harray hobject _).trans (hscan rest hr)
  | string s =>
    have hscan := scanScalar_stringText s rest
    exact (scanValue_scalar (by decide) (by decide) (by decide) _).trans hscan
  | emptyArray => rfl
  | @array items cs sp sp' hitems hsp hsp' =>
    simp only [List.length_cons, List.length_append, List.length_nil] at hlen
    have hscan := ih.items rest hitems (by omega) hsp'
    have happ : '[' :: (sp ++ cs ++ sp' ++ [']']) ++ rest
        = '[' :: (sp ++ (cs ++ (sp' ++ ']' :: rest))) := by simp
    rw [happ]
    exact scanValue_array hsp (hitems.opens.append _) hscan
  | emptyObject => rfl
  | @object members cs sp sp' hmembers hsp hsp' =>
    simp only [List.length_cons, List.length_append, List.length_nil] at hlen
    have hscan := ih.members rest hmembers (by omega) hsp'
    have happ : '\x7b' :: (sp ++ cs ++ sp' ++ ['\x7d']) ++ rest
        = '\x7b' :: (sp ++ (cs ++ (sp' ++ '\x7d' :: rest))) := by simp
    rw [happ]
    exact scanValue_object hsp (hmembers.opens.append _) hscan

theorem items_succ (ih : Scans fuel) {items : List Json} (rest : List Char)
    (h : SpellsItems items cs) (hlen : 2 * cs.length < fuel + 1) (hsp : Blank sp) :
    scanItems (fuel + 1) (cs ++ (sp ++ ']' :: rest))
      = (Document.ofItems items, true, some rest) := by
  cases h with
  | last hv =>
    have hends : Ends (']' :: rest) := ends_cons (by decide) _
    exact scanItems_last hsp (ih.value hv (by omega) (ends_append hsp hends))
  | @more v items' cs₁ sp₁ cs' hv hsp₁ hrest =>
    simp only [List.length_cons, List.length_append] at hlen
    have hends : Ends (',' :: (sp₁ ++ (cs' ++ (sp ++ ']' :: rest)))) := ends_cons (by decide) _
    have hvalue := ih.value hv (by omega) hends
    have hitems := ih.items rest hrest (by omega) hsp
    have happ : cs₁ ++ ',' :: (sp₁ ++ cs') ++ (sp ++ ']' :: rest)
        = cs₁ ++ ',' :: (sp₁ ++ (cs' ++ (sp ++ ']' :: rest))) := by simp
    rw [happ]
    exact scanItems_more hsp₁ (hrest.opens.append _) hvalue hitems

theorem members_succ (ih : Scans fuel) {members : List (String × Json)} (rest : List Char)
    (h : SpellsMembers members cs) (hlen : 2 * cs.length < fuel + 1) (hsp : Blank sp) :
    scanMembers (fuel + 1) (cs ++ (sp ++ '\x7d' :: rest))
      = (Document.ofMembers members, true, some rest) := by
  cases h with
  | @last k v sp₁ cs₁ hsp₁ hv =>
    simp only [List.length_cons, List.length_append] at hlen
    have hends : Ends ('\x7d' :: rest) := ends_cons (by decide) _
    have hvalue := ih.value hv (by omega) (ends_append hsp hends)
    have happ : Json.stringText k ++ ':' :: (sp₁ ++ cs₁) ++ (sp ++ '\x7d' :: rest)
        = Json.stringText k ++ ':' :: (sp₁ ++ (cs₁ ++ (sp ++ '\x7d' :: rest))) := by simp
    rw [happ]
    exact scanMembers_last hsp ((scanValue_append hsp₁ _ _).trans hvalue)
  | @more k v members' sp₁ cs₁ sp₂ cs' hsp₁ hv hsp₂ hrest =>
    simp only [List.length_cons, List.length_append] at hlen
    have hends : Ends (',' :: (sp₂ ++ (cs' ++ (sp ++ '\x7d' :: rest)))) := ends_cons (by decide) _
    have hvalue := ih.value hv (by omega) hends
    have hmembers := ih.members rest hrest (by omega) hsp
    have happ : Json.stringText k ++ ':' :: (sp₁ ++ cs₁) ++ ',' :: (sp₂ ++ cs')
          ++ (sp ++ '\x7d' :: rest)
        = Json.stringText k ++ ':' :: (sp₁ ++ (cs₁ ++ ',' :: (sp₂ ++ (cs' ++ (sp ++ '\x7d' :: rest)))))
        := by simp
    rw [happ]
    exact scanMembers_more hsp₂ (hrest.opens.append _) ((scanValue_append hsp₁ _ _).trans hvalue)
      hmembers

end Scans

theorem scans (fuel : Nat) : Scans fuel := by
  induction fuel with
  | zero =>
    -- every spelling has a character, so that the bound covers none
    refine ⟨fun {v cs rest} h hlen _ => ?_, fun _ _ hlen => by omega, fun _ _ hlen => by omega⟩
    obtain ⟨c, cs, rfl, -⟩ := h.opens
    simp at hlen
  | succ fuel ih => exact ⟨ih.value_succ, ih.items_succ, ih.members_succ⟩

/-- A text is read as the value that it spells. -/
theorem read_of_spells {v : Json} (h : Spells v cs) :
    read (String.ofList cs) = ⟨.ofJson v, false⟩ := by
  have hscan := (scans (2 * cs.length + 2)).value h (by omega) ends_nil
  rw [List.append_nil] at hscan
  rw [read, String.toList_ofList, hscan]
  rfl

/-! ## The printer spells -/

theorem blank_newline (level : Nat) : Blank (Json.newline level) := by
  intro c hc
  rcases List.mem_cons.1 hc with rfl | hc
  · rfl
  · rw [List.eq_of_mem_replicate hc]
    rfl

theorem blank_space : Blank [' '] := by
  intro c hc
  rw [List.mem_singleton.1 hc]
  rfl

open Json in
mutual
theorem spells_pretty (level : Nat) :
    (v : Json) → v.hasWholeNumbers = true → Spells v (prettyChars level v)
  | .null, _ => .null
  | .bool true, _ => .yes
  | .bool false, _ => .no
  | .number (.integer i), h => by
    simp only [hasWholeNumbers, Bool.and_eq_true, decide_eq_true_eq] at h
    exact .integer h.1 h.2
  | .string s, _ => .string s
  | .array [], _ => .emptyArray
  | .array (v :: rest), h => by
    obtain ⟨cs, hcs, hspells⟩ := spellsItems_pretty (level + 1) (v :: rest) (by simp) h
    have hvalue := Spells.array hspells (blank_newline (level + 1)) (blank_newline level)
    rw [← hcs] at hvalue
    rw [prettyChars]
    simpa using hvalue
  | .object [], _ => .emptyObject
  | .object (m :: rest), h => by
    obtain ⟨cs, hcs, hspells⟩ := spellsMembers_pretty (level + 1) (m :: rest) (by simp) h
    have hvalue := Spells.object hspells (blank_newline (level + 1)) (blank_newline level)
    rw [← hcs] at hvalue
    rw [prettyChars]
    simpa using hvalue

theorem spellsItems_pretty (level : Nat) :
    (items : List Json) → items ≠ [] → allWholeNumbers items = true →
      ∃ cs, prettyItems level items = newline level ++ cs ∧ SpellsItems items cs
  | [], hne, _ => absurd rfl hne
  | [v], _, h => by
    simp only [allWholeNumbers, Bool.and_eq_true] at h
    exact ⟨_, rfl, .last (spells_pretty level v h.1)⟩
  | v :: w :: rest, _, h => by
    rw [allWholeNumbers, Bool.and_eq_true] at h
    obtain ⟨cs, hcs, hspells⟩ := spellsItems_pretty level (w :: rest) (by simp) h.2
    refine ⟨_, ?_, .more (spells_pretty level v h.1) (blank_newline level) hspells⟩
    rw [prettyItems, hcs]
    · simp
    · simp

theorem spellsMembers_pretty (level : Nat) :
    (members : List (String × Json)) → members ≠ [] → membersWholeNumbers members = true →
      ∃ cs, prettyMembers level members = newline level ++ cs ∧ SpellsMembers members cs
  | [], hne, _ => absurd rfl hne
  | [(k, v)], _, h => by
    simp only [membersWholeNumbers, Bool.and_eq_true] at h
    refine ⟨_, ?_, .last blank_space (spells_pretty level v h.1)⟩
    simp [prettyMembers]
  | (k, v) :: m :: rest, _, h => by
    rw [membersWholeNumbers, Bool.and_eq_true] at h
    obtain ⟨cs, hcs, hspells⟩ := spellsMembers_pretty level (m :: rest) (by simp) h.2
    refine ⟨_, ?_, .more blank_space (spells_pretty level v h.1) (blank_newline level) hspells⟩
    rw [prettyMembers, hcs]
    · simp
    · simp
end

/-- **The indented text of a value is read back.** -/
theorem read_pretty {v : Json} (h : v.hasWholeNumbers = true) :
    read v.pretty = ⟨.ofJson v, false⟩ :=
  read_of_spells (spells_pretty 0 v h)

end JsonText

end NodeAudit
