import Mathlib.Data.List.DropRight
import Mathlib.Data.List.Forall2
import NodeAudit.Proofs.Json.Lexeme
import NodeAudit.Proofs.Json.Spelling

/-!
# How far a value reaches

A value that is scanned takes a prefix of the text, which is read alike wherever it stands before a
delimiter (`reaches`, by induction on the bound of the scanners). Items and members are scanned in
one way, as pieces between commas (`scanSeparated`, `scanItems_eq_iff`, `scanMembers_eq_iff`), so
that the members of an object come out as separate pieces of its text.

Main statement: `exists_pieces_of_scanMembers`.
-/

namespace NodeAudit.JsonText

variable {cs rest : List Char}

/-! ## Separated pieces -/

section
variable {α : Type}

/-- Pieces separated by commas, up to the mark that closes their container. Both containers are
scanned like this. -/
def scanSeparated (scan : Nat → List Char → Option (α × List Char)) (close : Char) :
    Nat → List Char → Option (List α × List Char)
  | 0, _ => none
  | fuel + 1, cs =>
    match scan fuel cs with
    | some (a, c :: rest) =>
      if c = close then some ([a], rest)
      else if c = ',' then
        (scanSeparated scan close fuel rest).map fun (as, rest) => (a :: as, rest)
      else none
    | _ => none

/-- A mark that may stand behind a piece. -/
def EndsPiece (c : Char) : Prop := c = ',' ∨ c = ']' ∨ c = '\x7d'

/-- The characters are a piece, wherever they stand before a mark. -/
def ReadsPiece (scan : Nat → List Char → Option (α × List Char)) (a : α) (piece : List Char) :
    Prop :=
  ∀ fuel c rest, 2 * piece.length ≤ fuel → EndsPiece c →
    scan fuel (piece ++ c :: rest) = some (a, c :: rest)

variable {scan : Nat → List Char → Option (α × List Char)} {close : Char}

/-- A container that is scanned whole begins with its only piece, or with a piece before a comma. -/
theorem scanSeparated_eq_some_iff (hcomma : close ≠ ',') {fuel : Nat} {as : List α} :
    scanSeparated scan close (fuel + 1) cs = some (as, rest) ↔
      ∃ a, (scan fuel cs = some (a, close :: rest) ∧ as = [a]) ∨
        ∃ next as', scan fuel cs = some (a, ',' :: next) ∧
          scanSeparated scan close fuel next = some (as', rest) ∧ as = a :: as' := by
  rw [scanSeparated]
  constructor
  · intro h
    split at h
    · rename_i a c next hpiece
      split at h
      · rename_i hc
        obtain ⟨rfl, rfl⟩ := Prod.mk.inj (Option.some.inj h)
        exact ⟨a, .inl ⟨hc ▸ hpiece, rfl⟩⟩
      · split at h
        · rename_i hc
          obtain ⟨⟨as', rest'⟩, hrest, heq⟩ := Option.map_eq_some_iff.1 h
          obtain ⟨rfl, rfl⟩ := Prod.mk.inj heq
          exact ⟨a, .inr ⟨next, as', hc ▸ hpiece, hrest, rfl⟩⟩
        · cases h
    · cases h
  · rintro ⟨a, ⟨hpiece, rfl⟩ | ⟨next, as', hpiece, hrest, rfl⟩⟩
    · simp [hpiece]
    · simp [hpiece, hcomma.symm, hrest]

theorem scanSeparated_pieces (hclose : EndsPiece close) (hcomma : close ≠ ',') {as : List α}
    {pieces : List (List Char)} (hne : pieces ≠ []) (h : List.Forall₂ (ReadsPiece scan) as pieces)
    (fuel : Nat) (hlen : 2 * (List.intercalate [','] pieces).length < fuel) (rest : List Char) :
    scanSeparated scan close fuel (List.intercalate [','] pieces ++ close :: rest)
      = some (as, rest) := by
  induction h generalizing fuel with
  | nil => exact absurd rfl hne
  | @cons a piece as pieces hpiece hrest ih =>
    obtain ⟨fuel, rfl⟩ : ∃ k, fuel = k + 1 := ⟨fuel - 1, by omega⟩
    rw [scanSeparated_eq_some_iff hcomma]
    cases pieces with
    | nil =>
      cases hrest
      rw [List.intercalate_singleton] at hlen ⊢
      exact ⟨a, .inl ⟨hpiece fuel close rest (by omega) hclose, rfl⟩⟩
    | cons piece' pieces =>
      have happ : List.intercalate [','] (piece :: piece' :: pieces)
          = piece ++ ',' :: List.intercalate [','] (piece' :: pieces) := by
        simp [List.intercalate]
      rw [happ, List.length_append, List.length_cons] at hlen
      rw [happ, List.append_assoc]
      exact ⟨a, .inr ⟨_, as, hpiece fuel ',' _ (by omega) (.inl rfl),
        ih (List.cons_ne_nil _ _) fuel (by omega), rfl⟩⟩

theorem exists_pieces_of_scanSeparated (hclose : EndsPiece close) (hcomma : close ≠ ',')
    {fuel : Nat}
    (hscan : ∀ k < fuel, ∀ cs a c rest, EndsPiece c → scan k cs = some (a, c :: rest) →
      ∃ piece, cs = piece ++ c :: rest ∧ ReadsPiece scan a piece)
    {as : List α} (h : scanSeparated scan close fuel cs = some (as, rest)) :
    ∃ pieces, pieces ≠ [] ∧ cs = List.intercalate [','] pieces ++ close :: rest ∧
      List.Forall₂ (ReadsPiece scan) as pieces := by
  induction fuel generalizing cs as with
  | zero => cases h
  | succ fuel ih =>
    have hhere := hscan fuel (Nat.lt_succ_self fuel) cs
    obtain ⟨a, ⟨hpiece, rfl⟩ | ⟨next, as', hpiece, hrest, rfl⟩⟩ :=
      (scanSeparated_eq_some_iff hcomma).1 h
    · obtain ⟨piece, rfl, hreads⟩ := hhere a close rest hclose hpiece
      exact ⟨[piece], List.cons_ne_nil _ _, by simp, .cons hreads .nil⟩
    · obtain ⟨piece, rfl, hreads⟩ := hhere a ',' next (.inl rfl) hpiece
      obtain ⟨pieces, hne, rfl, hall⟩ := ih (fun k hk => hscan k (Nat.lt_succ_of_lt hk)) hrest
      refine ⟨piece :: pieces, List.cons_ne_nil _ _, ?_, .cons hreads hall⟩
      obtain ⟨piece', pieces, rfl⟩ := List.exists_cons_of_ne_nil hne
      simp [List.intercalate]

end

/-! ## Items and members -/

theorem skipSpace_skipSpace (cs : List Char) : skipSpace (skipSpace cs) = skipSpace cs :=
  List.dropWhile_idempotent isSpace cs

theorem scanValue_skipSpace (fuel : Nat) (cs : List Char) :
    scanValue fuel (skipSpace cs) = scanValue fuel cs := by
  cases fuel with
  | zero => rfl
  | succ fuel => rw [scanValue, scanValue, skipSpace_skipSpace]

/-- One item of an array and the mark behind it. -/
def scanItem (fuel : Nat) (cs : List Char) : Option (Document × List Char) :=
  match scanValue fuel cs with
  | (d, some rest) => some (d, skipSpace rest)
  | _ => none

theorem scanItem_eq_some_iff {fuel : Nat} {d : Document} {next : List Char} :
    scanItem fuel cs = some (d, next) ↔
      ∃ cs', scanValue fuel cs = (d, some cs') ∧ skipSpace cs' = next := by
  rw [scanItem]
  rcases scanValue fuel cs with ⟨d', _ | cs'⟩
  · simp
  · simp

theorem not_closed_of_scanSeparated {fuel : Nat} {ds : List Document}
    (h : scanSeparated scanItem ']' fuel cs = some (ds, rest)) (next : List Char) :
    skipSpace cs ≠ ']' :: next := by
  intro hcs
  have hvalue : ∀ fuel, scanValue fuel cs = broken := by
    intro fuel
    cases fuel with
    | zero => rfl
    | succ fuel =>
      rw [scanValue, hcs]
      rfl
  cases fuel with
  | zero => cases h
  | succ fuel =>
    rw [scanSeparated, scanItem, hvalue fuel] at h
    cases h

theorem scanItems_eq_iff {fuel : Nat} {ds : List Document} :
    scanItems fuel (skipSpace cs) = (ds, true, some rest) ↔
      scanSeparated scanItem ']' fuel cs = some (ds, rest) := by
  induction fuel generalizing cs ds with
  | zero => simp [scanItems, scanSeparated]
  | succ fuel ih =>
    rw [scanSeparated_eq_some_iff (by decide), scanItems, scanValue_skipSpace]
    simp only [scanItem_eq_some_iff]
    constructor
    · intro h
      split at h
      · cases h
      · rename_i d cs₁ hvalue
        refine ⟨d, ?_⟩
        split at h
        · rename_i rest' hnext
          cases h
          exact .inl ⟨⟨cs₁, hvalue, hnext⟩, rfl⟩
        · rename_i next hnext
          split at h
          · cases h
          · rcases hrest : scanItems fuel (skipSpace next) with ⟨ds', closed, rest'⟩
            rw [hrest] at h
            cases h
            exact .inr ⟨next, ds', ⟨cs₁, hvalue, hnext⟩, ih.1 hrest, rfl⟩
        · cases h
    · rintro ⟨d, ⟨⟨cs₁, hvalue, hnext⟩, rfl⟩ | ⟨next, ds', ⟨cs₁, hvalue, hnext⟩, hrest, rfl⟩⟩
      · simp only [hvalue, hnext]
      · have hopen := not_closed_of_scanSeparated hrest
        simp only [hvalue, hnext]
        rw [ih.2 hrest]

/-- One member of an object and the mark behind it. -/
def scanMember (fuel : Nat) (cs : List Char) : Option ((Option String × Document) × List Char) :=
  match skipSpace cs with
  | '"' :: cs =>
    match scanString cs with
    | none => none
    | some (units, rest) =>
      match skipSpace rest with
      | ':' :: rest =>
        match scanValue fuel rest with
        | (d, some rest) => some ((unitText? units, d), skipSpace rest)
        | _ => none
      | _ => none
  | _ => none

theorem scanMember_eq_some_iff {fuel : Nat} {m : Option String × Document} {next : List Char} :
    scanMember fuel cs = some (m, next) ↔
      ∃ cs₁ units cs₂ cs₃ d cs₄, skipSpace cs = '"' :: cs₁ ∧ scanString cs₁ = some (units, cs₂) ∧
        skipSpace cs₂ = ':' :: cs₃ ∧ scanValue fuel cs₃ = (d, some cs₄) ∧
        (unitText? units, d) = m ∧ skipSpace cs₄ = next := by
  constructor
  · intro h
    unfold scanMember at h
    split at h
    · rename_i cs₁ hkey
      split at h
      · cases h
      · rename_i units cs₂ hstring
        split at h
        · rename_i cs₃ hcolon
          split at h
          · rename_i d cs₄ hvalue
            obtain ⟨rfl, rfl⟩ := Prod.mk.inj (Option.some.inj h)
            exact ⟨cs₁, units, cs₂, cs₃, d, cs₄, hkey, hstring, hcolon, hvalue, rfl, rfl⟩
          · cases h
        · cases h
    · cases h
  · rintro ⟨cs₁, units, cs₂, cs₃, d, cs₄, hkey, hstring, hcolon, hvalue, rfl, rfl⟩
    simp only [scanMember, hkey, hstring, hcolon, hvalue]

theorem exists_key_of_scanMembers {fuel : Nat} {ms : List (Option String × Document)}
    (h : scanMembers (fuel + 1) cs = (ms, true, some rest)) : ∃ cs₁, cs = '"' :: cs₁ := by
  unfold scanMembers at h
  split at h
  · cases h
  · exact ⟨_, rfl⟩
  · cases h

theorem scanMembers_eq_iff {fuel : Nat} {ms : List (Option String × Document)} :
    scanMembers fuel (skipSpace cs) = (ms, true, some rest) ↔
      scanSeparated scanMember '\x7d' fuel cs = some (ms, rest) := by
  induction fuel generalizing cs ms with
  | zero => simp [scanMembers, scanSeparated]
  | succ fuel ih =>
    rw [scanSeparated_eq_some_iff (by decide)]
    constructor
    · intro h
      obtain ⟨cs₁, hkey⟩ := exists_key_of_scanMembers h
      rw [hkey, scanMembers] at h
      split at h
      · cases h
      · rename_i units cs₂ hstring
        dsimp only at h
        split at h
        · rename_i cs₃ hcolon
          split at h
          · cases h
          · rename_i d cs₄ hvalue
            have hmember : ∀ next, skipSpace cs₄ = next →
                scanMember fuel cs = some ((unitText? units, d), next) := fun next hnext =>
              scanMember_eq_some_iff.2
                ⟨cs₁, units, cs₂, cs₃, d, cs₄, hkey, hstring, hcolon, hvalue, rfl, hnext⟩
            refine ⟨(unitText? units, d), ?_⟩
            split at h
            · rename_i rest' hnext
              cases h
              exact .inl ⟨hmember _ hnext, rfl⟩
            · rename_i next hnext
              rcases hrest : scanMembers fuel (skipSpace next) with ⟨ms', closed, rest'⟩
              rw [hrest] at h
              cases h
              exact .inr ⟨next, ms', hmember _ hnext, ih.1 hrest, rfl⟩
            · cases h
        · cases h
    · rintro ⟨m, ⟨hmember, rfl⟩ | ⟨next, ms', hmember, hrest, rfl⟩⟩
      all_goals
        obtain ⟨cs₁, units, cs₂, cs₃, d, cs₄, hkey, hstring, hcolon, hvalue, rfl, hnext⟩ :=
          scanMember_eq_some_iff.1 hmember
      · simp only [scanMembers, hkey, hstring, hcolon, hvalue, hnext]
      · simp only [scanMembers, hkey, hstring, hcolon, hvalue, hnext, ih.2 hrest]

/-! ## Values -/

/-- The characters are a value, wherever they stand before a delimiter. -/
def ReadsValue (d : Document) (used : List Char) : Prop :=
  ∀ fuel rest, 2 * used.length ≤ fuel → Ends rest → scanValue fuel (used ++ rest) = (d, some rest)

theorem exists_blank (cs : List Char) : ∃ sp, Blank sp ∧ cs = sp ++ skipSpace cs := by
  refine ⟨cs.takeWhile isSpace, fun c hc => ?_, List.takeWhile_append_dropWhile.symm⟩
  exact List.all_eq_true.1 List.all_takeWhile c hc

theorem isSpace_of_skipSpace_eq {c : Char} (h : skipSpace cs = c :: rest) : isSpace c = false := by
  have hhead := List.head?_dropWhile_not isSpace cs
  rw [show cs.dropWhile isSpace = c :: rest from h] at hhead
  exact hhead

theorem EndsPiece.ends {c : Char} (h : EndsPiece c) (rest : List Char) : Ends (c :: rest) := by
  rcases h with rfl | rfl | rfl
  all_goals exact ends_cons (by decide) rest

theorem EndsPiece.skipSpace_eq {c : Char} (h : EndsPiece c) {sp : List Char} (hsp : Blank sp)
    (rest : List Char) : skipSpace (sp ++ c :: rest) = c :: rest := by
  rw [skipSpace_append hsp]
  rcases h with rfl | rfl | rfl
  all_goals rfl

theorem ReadsValue.item {d : Document} {used sp : List Char} (h : ReadsValue d used)
    (hsp : Blank sp) : ReadsPiece scanItem d (used ++ sp) := by
  intro fuel c rest hlen hc
  rw [List.length_append] at hlen
  rw [List.append_assoc, scanItem_eq_some_iff]
  exact ⟨_, h fuel _ (by omega) (ends_append hsp (hc.ends rest)), hc.skipSpace_eq hsp rest⟩

theorem ReadsValue.member {units : List Unit} {key : List Char} {d : Document} {used : List Char}
    {sp₀ sp₁ sp₂ : List Char} (hkey : ReadsString units key) (h : ReadsValue d used)
    (hsp₀ : Blank sp₀) (hsp₁ : Blank sp₁) (hsp₂ : Blank sp₂) :
    ReadsPiece scanMember (unitText? units, d)
      (sp₀ ++ '"' :: (key ++ (sp₁ ++ ':' :: (used ++ sp₂)))) := by
  intro fuel c rest hlen hc
  simp only [List.length_append, List.length_cons] at hlen
  have happ : sp₀ ++ '"' :: (key ++ (sp₁ ++ ':' :: (used ++ sp₂))) ++ c :: rest
      = sp₀ ++ '"' :: (key ++ (sp₁ ++ ':' :: (used ++ (sp₂ ++ c :: rest)))) := by simp
  rw [happ, scanMember_eq_some_iff]
  have hvalue := h fuel (sp₂ ++ c :: rest) (by omega) (ends_append hsp₂ (hc.ends rest))
  refine ⟨_, units, _, _, d, _, ?_, hkey (sp₁ ++ ':' :: (used ++ (sp₂ ++ c :: rest))), ?_, hvalue,
    rfl, hc.skipSpace_eq hsp₂ rest⟩
  · rw [skipSpace_append hsp₀]
    rfl
  · rw [skipSpace_append hsp₁]
    rfl

/-- A container is closed exactly if the text goes on behind it. -/
theorem closed_scanItems (fuel : Nat) (cs : List Char) :
    (scanItems fuel cs).2.1 = (scanItems fuel cs).2.2.isSome := by
  induction fuel generalizing cs with
  | zero => rfl
  | succ fuel ih =>
    rw [scanItems]
    split
    · rfl
    · split
      · rfl
      · split
        · rfl
        · exact ih _
      · rfl

theorem closed_scanMembers (fuel : Nat) (cs : List Char) :
    (scanMembers fuel cs).2.1 = (scanMembers fuel cs).2.2.isSome := by
  induction fuel generalizing cs with
  | zero => rfl
  | succ fuel ih =>
    by_cases hkey : ∃ cs₁, cs = '"' :: cs₁
    · obtain ⟨cs, rfl⟩ := hkey
      rw [scanMembers]
      split
      · rfl
      · dsimp only
        split
        · split
          · rfl
          · split
            · rfl
            · exact ih _
            · rfl
        · rfl
    · unfold scanMembers
      split
      · rfl
      · exact absurd ⟨_, rfl⟩ hkey
      · rfl

theorem scanValue_of_items {fuel : Nat} {ds : List Document}
    (h : scanSeparated scanItem ']' fuel cs = some (ds, rest)) :
    scanValue (fuel + 1) ('[' :: cs) = (.array ds true, some rest) := by
  have hopen := not_closed_of_scanSeparated h
  simp only [scanValue, skipSpace_mark, List.mem_cons, true_or]
  rw [scanItems_eq_iff.2 h]

theorem scanValue_of_members {fuel : Nat} {ms : List (Option String × Document)}
    (h : scanSeparated scanMember '\x7d' fuel cs = some (ms, rest)) :
    scanValue (fuel + 1) ('\x7b' :: cs) = (.object ms true, some rest) := by
  have hscan := scanMembers_eq_iff.2 h
  have hopen : ∀ next, skipSpace cs ≠ '\x7d' :: next := by
    cases fuel with
    | zero => cases h
    | succ fuel =>
      obtain ⟨cs₁, hkey⟩ := exists_key_of_scanMembers hscan
      simp [hkey]
  simp only [scanValue, skipSpace_mark, List.mem_cons, true_or, or_true]
  rw [hscan]

theorem ReadsValue.scalar {d : Document} {c : Char} {used sp : List Char} (hsp : Blank sp)
    (hc : isSpace c = false) (harray : c ≠ '[') (hobject : c ≠ '\x7b')
    (h : ReadsScalar d (c :: used)) : ReadsValue d (sp ++ c :: used) := by
  intro fuel rest hlen hr
  rw [List.length_append, List.length_cons] at hlen
  obtain ⟨fuel, rfl⟩ : ∃ k, fuel = k + 1 := ⟨fuel - 1, by omega⟩
  rw [List.append_assoc, scanValue_append hsp]
  exact (scanValue_scalar hc harray hobject _).trans (h rest hr)

theorem ReadsValue.emptyArray {sp gap : List Char} (hsp : Blank sp) (hgap : Blank gap) :
    ReadsValue (.array [] true) (sp ++ '[' :: (gap ++ [']'])) := by
  intro fuel rest hlen hr
  rw [List.length_append, List.length_cons] at hlen
  obtain ⟨fuel, rfl⟩ : ∃ k, fuel = k + 1 := ⟨fuel - 1, by omega⟩
  have hskip : skipSpace (gap ++ ']' :: rest) = ']' :: rest :=
    EndsPiece.skipSpace_eq (.inr (.inl rfl)) hgap rest
  have happ : sp ++ '[' :: (gap ++ [']']) ++ rest = sp ++ '[' :: (gap ++ ']' :: rest) := by simp
  rw [happ, scanValue_append hsp, scanValue, skipSpace_mark (by simp)]
  simp only [hskip]

theorem ReadsValue.emptyObject {sp gap : List Char} (hsp : Blank sp) (hgap : Blank gap) :
    ReadsValue (.object [] true) (sp ++ '\x7b' :: (gap ++ ['\x7d'])) := by
  intro fuel rest hlen hr
  rw [List.length_append, List.length_cons] at hlen
  obtain ⟨fuel, rfl⟩ : ∃ k, fuel = k + 1 := ⟨fuel - 1, by omega⟩
  have hskip : skipSpace (gap ++ '\x7d' :: rest) = '\x7d' :: rest :=
    EndsPiece.skipSpace_eq (.inr (.inr rfl)) hgap rest
  have happ : sp ++ '\x7b' :: (gap ++ ['\x7d']) ++ rest
      = sp ++ '\x7b' :: (gap ++ '\x7d' :: rest) := by simp
  rw [happ, scanValue_append hsp, scanValue, skipSpace_mark (by simp)]
  simp only [hskip]

theorem ReadsValue.array {ds : List Document} {sp : List Char} {pieces : List (List Char)}
    (hsp : Blank sp) (hne : pieces ≠ []) (h : List.Forall₂ (ReadsPiece scanItem) ds pieces) :
    ReadsValue (.array ds true) (sp ++ '[' :: (List.intercalate [','] pieces ++ [']'])) := by
  intro fuel rest hlen hr
  simp only [List.length_append, List.length_cons, List.length_nil] at hlen
  obtain ⟨fuel, rfl⟩ : ∃ k, fuel = k + 1 := ⟨fuel - 1, by omega⟩
  have hitems := scanSeparated_pieces (.inr (.inl rfl)) (by decide) hne h
    fuel (by omega) rest
  have happ : sp ++ '[' :: (List.intercalate [','] pieces ++ [']']) ++ rest
      = sp ++ '[' :: (List.intercalate [','] pieces ++ ']' :: rest) := by simp
  rw [happ, scanValue_append hsp]
  exact scanValue_of_items hitems

theorem ReadsValue.object {ms : List (Option String × Document)} {sp : List Char}
    {pieces : List (List Char)} (hsp : Blank sp) (hne : pieces ≠ [])
    (h : List.Forall₂ (ReadsPiece scanMember) ms pieces) :
    ReadsValue (.object ms true)
      (sp ++ '\x7b' :: (List.intercalate [','] pieces ++ ['\x7d'])) := by
  intro fuel rest hlen hr
  simp only [List.length_append, List.length_cons, List.length_nil] at hlen
  obtain ⟨fuel, rfl⟩ : ∃ k, fuel = k + 1 := ⟨fuel - 1, by omega⟩
  have hmembers := scanSeparated_pieces (.inr (.inr rfl)) (by decide) hne h
    fuel (by omega) rest
  have happ : sp ++ '\x7b' :: (List.intercalate [','] pieces ++ ['\x7d']) ++ rest
      = sp ++ '\x7b' :: (List.intercalate [','] pieces ++ '\x7d' :: rest) := by simp
  rw [happ, scanValue_append hsp]
  exact scanValue_of_members hmembers

/-! ## What a value is scanned from -/

/-- What the scanner of values does when it succeeds with `k` calls left. -/
inductive ScansTo (k : Nat) : List Char → Document → List Char → Prop where
  | emptyArray {sp gap rest : List Char} (hsp : Blank sp) (hgap : Blank gap) :
      ScansTo k (sp ++ '[' :: (gap ++ ']' :: rest)) (.array [] true) rest
  | array {sp cs rest : List Char} {ds : List Document} (hsp : Blank sp)
      (h : scanSeparated scanItem ']' k cs = some (ds, rest)) :
      ScansTo k (sp ++ '[' :: cs) (.array ds true) rest
  | emptyObject {sp gap rest : List Char} (hsp : Blank sp) (hgap : Blank gap) :
      ScansTo k (sp ++ '\x7b' :: (gap ++ '\x7d' :: rest)) (.object [] true) rest
  | object {sp cs rest : List Char} {ms : List (Option String × Document)} (hsp : Blank sp)
      (h : scanSeparated scanMember '\x7d' k cs = some (ms, rest)) :
      ScansTo k (sp ++ '\x7b' :: cs) (.object ms true) rest
  | scalar {sp used rest : List Char} {c : Char} {d : Document} (hsp : Blank sp)
      (hc : isSpace c = false) (harray : c ≠ '[') (hobject : c ≠ '\x7b')
      (h : ReadsScalar d (c :: used)) : ScansTo k (sp ++ (c :: used ++ rest)) d rest

theorem scansTo_of_scanValue {k : Nat} {d : Document}
    (h : scanValue (k + 1) cs = (d, some rest)) : ScansTo k cs d rest := by
  obtain ⟨sp, hsp, hcs⟩ := exists_blank cs
  rw [scanValue] at h
  split at h
  · rename_i cs₁ hopen
    obtain ⟨gap, hgap, hcs₁⟩ := exists_blank cs₁
    rw [hcs, hopen]
    split at h
    · rename_i rest' hclose
      cases h
      rw [hcs₁, hclose]
      exact .emptyArray hsp hgap
    · have hclosed := closed_scanItems k (skipSpace cs₁)
      rcases hitems : scanItems k (skipSpace cs₁) with ⟨ds, closed, rest'⟩
      rw [hitems] at h hclosed
      cases h
      obtain rfl : closed = true := hclosed
      exact .array hsp (scanItems_eq_iff.1 hitems)
  · rename_i cs₁ hopen
    obtain ⟨gap, hgap, hcs₁⟩ := exists_blank cs₁
    rw [hcs, hopen]
    split at h
    · rename_i rest' hclose
      cases h
      rw [hcs₁, hclose]
      exact .emptyObject hsp hgap
    · have hclosed := closed_scanMembers k (skipSpace cs₁)
      rcases hmembers : scanMembers k (skipSpace cs₁) with ⟨ms, closed, rest'⟩
      rw [hmembers] at h hclosed
      cases h
      obtain rfl : closed = true := hclosed
      exact .object hsp (scanMembers_eq_iff.1 hmembers)
  · rename_i harray hobject
    obtain ⟨c, used, heq, hscalar⟩ := exists_readsScalar h
    rw [hcs, heq]
    refine .scalar hsp (isSpace_of_skipSpace_eq heq) ?_ ?_ hscalar
    · rintro rfl
      exact harray _ heq
    · rintro rfl
      exact hobject _ heq

/-! ## How far it reaches -/

/-- A value that is scanned with the bound takes a prefix of the text, which is read alike
elsewhere. -/
def Reaches (fuel : Nat) : Prop :=
  ∀ cs d rest, scanValue fuel cs = (d, some rest) → ∃ used, cs = used ++ rest ∧ ReadsValue d used

theorem Reaches.item {fuel : Nat} (h : Reaches fuel) {d : Document} {c : Char}
    (hscan : scanItem fuel cs = some (d, c :: rest)) :
    ∃ piece, cs = piece ++ c :: rest ∧ ReadsPiece scanItem d piece := by
  obtain ⟨cs₁, hvalue, hnext⟩ := scanItem_eq_some_iff.1 hscan
  obtain ⟨used, rfl, hused⟩ := h _ _ _ hvalue
  obtain ⟨sp, hsp, hcs⟩ := exists_blank cs₁
  rw [hnext] at hcs
  exact ⟨used ++ sp, by rw [hcs, List.append_assoc], hused.item hsp⟩

theorem Reaches.member {fuel : Nat} (h : Reaches fuel) {m : Option String × Document} {c : Char}
    (hscan : scanMember fuel cs = some (m, c :: rest)) :
    ∃ piece, cs = piece ++ c :: rest ∧ ReadsPiece scanMember m piece := by
  obtain ⟨cs₁, units, cs₂, cs₃, d, cs₄, hkey, hstring, hcolon, hvalue, rfl, hnext⟩ :=
    scanMember_eq_some_iff.1 hscan
  obtain ⟨sp₀, hsp₀, hcs⟩ := exists_blank cs
  obtain ⟨key, rfl, hkeyread⟩ := exists_readsString hstring
  obtain ⟨sp₁, hsp₁, hcs₂⟩ := exists_blank cs₂
  obtain ⟨used, rfl, hused⟩ := h _ _ _ hvalue
  obtain ⟨sp₂, hsp₂, hcs₄⟩ := exists_blank cs₄
  rw [hkey] at hcs
  rw [hcolon] at hcs₂
  rw [hnext] at hcs₄
  refine ⟨_, ?_, ReadsValue.member hkeyread hused hsp₀ hsp₁ hsp₂⟩
  rw [hcs, hcs₂, hcs₄]
  simp

theorem reaches (fuel : Nat) : Reaches fuel := by
  induction fuel using Nat.strongRecOn with
  | _ fuel ih =>
    intro cs d rest h
    cases fuel with
    | zero => cases h
    | succ k =>
      cases scansTo_of_scanValue h with
      | emptyArray hsp hgap => exact ⟨_, by simp, .emptyArray hsp hgap⟩
      | array hsp hitems =>
        obtain ⟨pieces, hne, rfl, hall⟩ := exists_pieces_of_scanSeparated (.inr (.inl rfl))
          (by decide) (fun j hj cs d c rest _ => (ih j (by omega)).item) hitems
        exact ⟨_, by simp, .array hsp hne hall⟩
      | emptyObject hsp hgap => exact ⟨_, by simp, .emptyObject hsp hgap⟩
      | object hsp hmembers =>
        obtain ⟨pieces, hne, rfl, hall⟩ := exists_pieces_of_scanSeparated (.inr (.inr rfl))
          (by decide) (fun j hj cs m c rest _ => (ih j (by omega)).member) hmembers
        exact ⟨_, by simp, .object hsp hne hall⟩
      | scalar hsp hc harray hobject hscalar =>
        exact ⟨_, by simp, .scalar hsp hc harray hobject hscalar⟩

/-- The members of an object are separate pieces of its text. -/
theorem exists_pieces_of_scanMembers {fuel : Nat} {ms : List (Option String × Document)}
    (h : scanSeparated scanMember '\x7d' fuel cs = some (ms, rest)) :
    ∃ pieces, pieces ≠ [] ∧ cs = List.intercalate [','] pieces ++ '\x7d' :: rest ∧
      List.Forall₂ (ReadsPiece scanMember) ms pieces :=
  exists_pieces_of_scanSeparated (.inr (.inr rfl)) (by decide)
    (fun k _ _ _ _ _ _ => (reaches k).member) h

end NodeAudit.JsonText
