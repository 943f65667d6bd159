import NodeAudit.Proofs.Json.Extent

/-!
# Texts of objects

The text of an object is made of the texts of its members, with commas between them: a piece is the
text of a member if it alone in braces is read as the object of just that member (`MemberText`).

Main statements: `read_objectText` and `exists_objectText`, which say that the texts that are read
as an object are just those.
-/

namespace NodeAudit.JsonText

/-- The characters are the text of a member. -/
def MemberText (m : Option String × Document) (piece : List Char) : Prop :=
  read (String.ofList ('\x7b' :: (piece ++ ['\x7d']))) = ⟨.object [m] true, false⟩

/-- The text of an object with the texts of its members, and what stands around them. -/
def objectText (before gap : List Char) (pieces : List (List Char)) (after : List Char) : String :=
  String.ofList
    (before ++ '\x7b' :: (gap ++ (List.intercalate [','] pieces ++ '\x7d' :: after)))

/-! ## Members -/

variable {before gap after : List Char} {pieces : List (List Char)}
  {ms : List (Option String × Document)} {m : Option String × Document}

theorem ReadsPiece.blank {piece : List Char} (h : ReadsPiece scanMember m piece)
    (hgap : Blank gap) : ReadsPiece scanMember m (gap ++ piece) := by
  intro fuel c rest hlen hc
  rw [List.length_append] at hlen
  have hskip : ∀ cs, scanMember fuel (gap ++ cs) = scanMember fuel cs := fun cs => by
    rw [scanMember, scanMember, skipSpace_append hgap]
  rw [List.append_assoc, hskip]
  exact h fuel c rest (by omega) hc

theorem ReadsValue.members (hbefore : Blank before) (hgap : Blank gap)
    (h : List.Forall₂ (ReadsPiece scanMember) ms pieces) :
    ReadsValue (.object ms true)
      (before ++ '\x7b' :: (gap ++ (List.intercalate [','] pieces ++ ['\x7d']))) := by
  cases h with
  | nil => exact .emptyObject hbefore hgap
  | @cons m piece ms pieces hpiece hrest =>
    have hobject := ReadsValue.object hbefore (List.cons_ne_nil _ _)
      (.cons (hpiece.blank hgap) hrest)
    have happ : List.intercalate [','] ((gap ++ piece) :: pieces)
        = gap ++ List.intercalate [','] (piece :: pieces) := by
      cases pieces <;> simp [List.intercalate]
    rw [happ, List.append_assoc] at hobject
    exact hobject

/-- A text is read as the document of its characters, if only blanks follow them. -/
theorem read_of_readsValue {d : Document} {used : List Char} (h : ReadsValue d used)
    (hafter : Blank after) : read (String.ofList (used ++ after)) = ⟨d, false⟩ := by
  have hends : Ends after := by simpa using ends_append hafter ends_nil
  have hskip : skipSpace after = [] := List.dropWhile_eq_nil_iff.2 hafter
  have hscan := h (2 * (used ++ after).length + 2) after
    (by rw [List.length_append]; omega) hends
  rw [read, String.toList_ofList, hscan]
  simp [hskip]

theorem read_of_readsPieces (hbefore : Blank before) (hgap : Blank gap) (hafter : Blank after)
    (h : List.Forall₂ (ReadsPiece scanMember) ms pieces) :
    read (objectText before gap pieces after) = ⟨.object ms true, false⟩ := by
  have hread := read_of_readsValue (ReadsValue.members hbefore hgap h) hafter
  simpa [objectText] using hread

/-! ## Objects -/

theorem scanScalar_ne_object {cs : List Char} {closed : Bool} {rest? : Option (List Char)} :
    scanScalar cs ≠ (.object ms closed, rest?) := by
  intro h
  unfold scanScalar at h
  split at h
  all_goals
    split at h
    all_goals cases h

theorem scanValue_ne_none {fuel : Nat} {cs : List Char} :
    scanValue fuel cs ≠ (.object ms true, none) := by
  intro h
  cases fuel with
  | zero => cases h
  | succ fuel =>
    rw [scanValue] at h
    split at h
    · split at h
      all_goals cases h
    · split at h
      · cases h
      · rename_i cs₁ _ _ _
        have hclosed := closed_scanMembers fuel (skipSpace cs₁)
        rcases hmembers : scanMembers fuel (skipSpace cs₁) with ⟨ms', closed, rest'⟩
        rw [hmembers] at h hclosed
        cases h
        cases hclosed
    · exact scanScalar_ne_object h

theorem exists_readsPieces {s : String} (h : read s = ⟨.object ms true, false⟩) :
    ∃ before gap pieces after, Blank before ∧ Blank gap ∧ Blank after ∧
      s = objectText before gap pieces after ∧ List.Forall₂ (ReadsPiece scanMember) ms pieces := by
  rw [read] at h
  split at h
  · rename_i rest hscan
    obtain ⟨rfl, htrailing⟩ := JsonText.mk.inj h
    have hskip : skipSpace rest = [] := by simpa using htrailing
    have hafter : Blank rest := List.dropWhile_eq_nil_iff.1 hskip
    have hs : s = String.ofList s.toList := String.ofList_toList.symm
    have hreads := scansTo_of_scanValue hscan
    generalize s.toList = cs at hs hreads
    subst hs
    cases hreads with
    | emptyObject hsp hgap => exact ⟨_, _, [], _, hsp, hgap, hafter, rfl, .nil⟩
    | object hsp hmembers =>
      obtain ⟨pieces, -, rfl, hall⟩ := exists_pieces_of_scanMembers hmembers
      exact ⟨_, [], pieces, _, hsp, blank_nil, hafter, rfl, hall⟩
    | scalar hsp hc harray hobject hscalar =>
      exact absurd (hscalar [] ends_nil) scanScalar_ne_object
  · rename_i hscan
    obtain ⟨rfl, -⟩ := JsonText.mk.inj h
    exact absurd hscan scanValue_ne_none

/-! ## Texts of members -/

theorem memberText_iff {piece : List Char} :
    MemberText m piece ↔ ReadsPiece scanMember m piece := by
  constructor
  · intro h
    obtain ⟨before, gap, pieces, after, hbefore, hgap, hafter, heq, hall⟩ := exists_readsPieces h
    rw [objectText, String.ofList_inj] at heq
    cases hall with
    | @cons _ piece' _ _ hpiece hrest =>
      cases hrest
      rw [List.intercalate_singleton] at heq
      -- the braces are the outermost characters, since no brace is blank
      obtain rfl : before = [] := by
        cases before with
        | nil => rfl
        | cons c before =>
          obtain ⟨rfl, -⟩ := List.cons.inj heq
          exact absurd (hbefore _ List.mem_cons_self) (by decide)
      have htail := (List.cons.inj heq).2
      obtain rfl : after = [] := by
        rcases List.eq_nil_or_concat after with rfl | ⟨after, c, rfl⟩
        · rfl
        · have hlast : piece ++ ['\x7d'] = (gap ++ (piece' ++ '\x7d' :: after)) ++ [c] := by
            simpa using htail
          obtain ⟨-, hc⟩ := List.append_inj' hlast rfl
          obtain rfl := List.singleton_inj.1 hc
          exact absurd (hafter '\x7d' (by simp)) (by decide)
      have hpieces : piece ++ ['\x7d'] = (gap ++ piece') ++ ['\x7d'] := by simpa using htail
      rw [List.append_cancel_right hpieces]
      exact hpiece.blank hgap
  · intro h
    have hread := read_of_readsPieces blank_nil blank_nil blank_nil (.cons h .nil)
    rwa [objectText, List.intercalate_singleton] at hread

/-! ## Texts of objects -/

theorem read_objectText (hbefore : Blank before) (hgap : Blank gap) (hafter : Blank after)
    (h : List.Forall₂ MemberText ms pieces) :
    read (objectText before gap pieces after) = ⟨.object ms true, false⟩ :=
  read_of_readsPieces hbefore hgap hafter (h.imp fun _ _ => memberText_iff.1)

theorem exists_objectText {s : String} (h : read s = ⟨.object ms true, false⟩) :
    ∃ before gap pieces after, Blank before ∧ Blank gap ∧ Blank after ∧
      s = objectText before gap pieces after ∧ List.Forall₂ MemberText ms pieces := by
  obtain ⟨before, gap, pieces, after, hbefore, hgap, hafter, hs, hall⟩ := exists_readsPieces h
  exact ⟨before, gap, pieces, after, hbefore, hgap, hafter, hs,
    hall.imp fun _ _ => memberText_iff.2⟩

end NodeAudit.JsonText
