import NodeAudit.Proofs.Json.Decode

/-!
# Reading back compact text

The printer writes a value without blanks, and the text is read as the value but for its numbers:
each number comes back as the one that its digits are read as (`spells_compact`). Numbers that come
back as themselves, as integers of at most 64 bits do, give the value itself.

Main statements: `read_compact_mapNumbers` and, for values whose numbers are integers of at most 64
bits, `read_compact`.
-/

namespace NodeAudit

namespace Json

/-! ## The numbers in a value -/

mutual
/-- The numbers in a value, from left to right. -/
def numbers : Json → List Number
  | .number n => [n]
  | .array items => itemsNumbers items
  | .object members => membersNumbers members
  | _ => []

/-- The numbers in a list of values. -/
def itemsNumbers : List Json → List Number
  | [] => []
  | v :: rest => v.numbers ++ itemsNumbers rest

/-- The numbers in the values of members. -/
def membersNumbers : List (String × Json) → List Number
  | [] => []
  | (_, v) :: rest => v.numbers ++ membersNumbers rest
end

mutual
/-- The value with another number in place of each. -/
def mapNumbers (f : Number → Number) : Json → Json
  | .number n => .number (f n)
  | .array items => .array (mapItems f items)
  | .object members => .object (mapMembers f members)
  | v => v

/-- The values with another number in place of each. -/
def mapItems (f : Number → Number) : List Json → List Json
  | [] => []
  | v :: rest => v.mapNumbers f :: mapItems f rest

/-- The members with another number in place of each. -/
def mapMembers (f : Number → Number) : List (String × Json) → List (String × Json)
  | [] => []
  | (k, v) :: rest => (k, v.mapNumbers f) :: mapMembers f rest
end

variable {f : Number → Number}

mutual
theorem mapNumbers_eq_self : (v : Json) → (∀ n ∈ v.numbers, f n = n) → v.mapNumbers f = v
  | .null, _ => rfl
  | .bool _, _ => rfl
  | .string _, _ => rfl
  | .number n, h => congrArg Json.number (h n (List.mem_singleton.2 rfl))
  | .array items, h => congrArg Json.array (mapItems_eq_self items h)
  | .object members, h => congrArg Json.object (mapMembers_eq_self members h)

theorem mapItems_eq_self :
    (items : List Json) → (∀ n ∈ itemsNumbers items, f n = n) → mapItems f items = items
  | [], _ => rfl
  | v :: rest, h => by
    rw [itemsNumbers, List.forall_mem_append] at h
    rw [mapItems, mapNumbers_eq_self v h.1, mapItems_eq_self rest h.2]

theorem mapMembers_eq_self :
    (members : List (String × Json)) → (∀ n ∈ membersNumbers members, f n = n) →
      mapMembers f members = members
  | [], _ => rfl
  | (k, v) :: rest, h => by
    rw [membersNumbers, List.forall_mem_append] at h
    rw [mapMembers, mapNumbers_eq_self v h.1, mapMembers_eq_self rest h.2]
end

theorem forall_mem_itemsNumbers {P : Number → Prop} {items : List Json} :
    (∀ n ∈ itemsNumbers items, P n) ↔ ∀ v ∈ items, ∀ n ∈ v.numbers, P n := by
  induction items with
  | nil => simp [itemsNumbers]
  | cons v rest ih => rw [itemsNumbers, List.forall_mem_append, ih, List.forall_mem_cons]

theorem length_mapItems (items : List Json) : (mapItems f items).length = items.length := by
  induction items with
  | nil => rfl
  | cons v rest ih => rw [mapItems, List.length_cons, ih, List.length_cons]

theorem increasing_mapMembers (members : List (String × Json)) :
    Entries.increasing (mapMembers f members) = Entries.increasing members := by
  induction members with
  | nil => rfl
  | cons m rest ih =>
    cases rest with
    | nil => rfl
    | cons m' rest =>
      rw [mapMembers, mapMembers] at *
      rw [Entries.increasing, Entries.increasing, ih]

mutual
theorem isCanonical_mapNumbers : (v : Json) → (v.mapNumbers f).isCanonical = v.isCanonical
  | .null => rfl
  | .bool _ => rfl
  | .number _ => rfl
  | .string _ => rfl
  | .array items => allCanonical_mapItems items
  | .object members => by
    rw [mapNumbers, isCanonical, isCanonical, increasing_mapMembers, membersCanonical_mapMembers]

theorem allCanonical_mapItems :
    (items : List Json) → allCanonical (mapItems f items) = allCanonical items
  | [] => rfl
  | v :: rest => by
    rw [mapItems, allCanonical, allCanonical, isCanonical_mapNumbers v, allCanonical_mapItems rest]

theorem membersCanonical_mapMembers :
    (members : List (String × Json)) →
      membersCanonical (mapMembers f members) = membersCanonical members
  | [] => rfl
  | (k, v) :: rest => by
    rw [mapMembers, membersCanonical, membersCanonical, isCanonical_mapNumbers v,
      membersCanonical_mapMembers rest]
end

mutual
theorem depth_mapNumbers : (v : Json) → (v.mapNumbers f).depth = v.depth
  | .null => rfl
  | .bool _ => rfl
  | .number _ => rfl
  | .string _ => rfl
  | .array items => by rw [mapNumbers, depth, depth, itemsDepth_mapItems items]
  | .object members => by rw [mapNumbers, depth, depth, membersDepth_mapMembers members]

theorem itemsDepth_mapItems :
    (items : List Json) → itemsDepth (mapItems f items) = itemsDepth items
  | [] => rfl
  | v :: rest => by
    rw [mapItems, itemsDepth, itemsDepth, depth_mapNumbers v, itemsDepth_mapItems rest]

theorem membersDepth_mapMembers :
    (members : List (String × Json)) → membersDepth (mapMembers f members) = membersDepth members
  | [] => rfl
  | (k, v) :: rest => by
    rw [mapMembers, membersDepth, membersDepth, depth_mapNumbers v, membersDepth_mapMembers rest]
end

mutual
theorem exists_integer_of_mem_numbers {n : Number} :
    (v : Json) → v.hasWholeNumbers = true → n ∈ v.numbers →
      ∃ i : Int, n = .integer i ∧ -9223372036854775808 ≤ i ∧ i ≤ 18446744073709551615
  | .number (.integer i), h, hn => by
    simp only [hasWholeNumbers, Bool.and_eq_true, decide_eq_true_eq] at h
    exact ⟨i, List.mem_singleton.1 hn, h⟩
  | .array items, h, hn => exists_integer_of_mem_itemsNumbers items h hn
  | .object members, h, hn => exists_integer_of_mem_membersNumbers members h hn

theorem exists_integer_of_mem_itemsNumbers {n : Number} :
    (items : List Json) → allWholeNumbers items = true → n ∈ itemsNumbers items →
      ∃ i : Int, n = .integer i ∧ -9223372036854775808 ≤ i ∧ i ≤ 18446744073709551615
  | v :: rest, h, hn => by
    rw [allWholeNumbers, Bool.and_eq_true] at h
    rcases List.mem_append.1 hn with hn | hn
    · exact exists_integer_of_mem_numbers v h.1 hn
    · exact exists_integer_of_mem_itemsNumbers rest h.2 hn

theorem exists_integer_of_mem_membersNumbers {n : Number} :
    (members : List (String × Json)) → membersWholeNumbers members = true →
      n ∈ membersNumbers members →
      ∃ i : Int, n = .integer i ∧ -9223372036854775808 ≤ i ∧ i ≤ 18446744073709551615
  | (_, v) :: rest, h, hn => by
    rw [membersWholeNumbers, Bool.and_eq_true] at h
    rcases List.mem_append.1 hn with hn | hn
    · exact exists_integer_of_mem_numbers v h.1 hn
    · exact exists_integer_of_mem_membersNumbers rest h.2 hn
end

end Json

namespace JsonText

open Json

/-! ## The printer spells -/

section
variable {f : Number → Number}

mutual
theorem spells_compact :
    (v : Json) → (∀ n ∈ v.numbers, Spells (.number (f n)) n.text.toList) →
      Spells (v.mapNumbers f) v.compactChars
  | .null, _ => .null
  | .bool true, _ => .yes
  | .bool false, _ => .no
  | .number n, h => h n (List.mem_singleton.2 rfl)
  | .string s, _ => .string s
  | .array [], _ => .emptyArray
  | .array (v :: rest), h => by
    have hitems := spellsItems_compact (v :: rest) (List.cons_ne_nil v rest) h
    have hvalue := Spells.array hitems blank_nil blank_nil
    rw [mapNumbers, compactChars]
    simpa using hvalue
  | .object [], _ => .emptyObject
  | .object (m :: rest), h => by
    have hmembers := spellsMembers_compact (m :: rest) (List.cons_ne_nil m rest) h
    have hvalue := Spells.object hmembers blank_nil blank_nil
    rw [mapNumbers, compactChars]
    simpa using hvalue

theorem spellsItems_compact :
    (items : List Json) → items ≠ [] →
      (∀ n ∈ itemsNumbers items, Spells (.number (f n)) n.text.toList) →
      SpellsItems (mapItems f items) (compactItems items)
  | [], hne, _ => absurd rfl hne
  | [v], _, h => by
    rw [itemsNumbers, List.forall_mem_append] at h
    exact .last (spells_compact v h.1)
  | v :: w :: rest, _, h => by
    rw [itemsNumbers, List.forall_mem_append] at h
    have hrest := spellsItems_compact (w :: rest) (List.cons_ne_nil w rest) h.2
    rw [mapItems, compactItems]
    · exact .more (spells_compact v h.1) blank_nil hrest
    · exact List.cons_ne_nil w rest

theorem spellsMembers_compact :
    (members : List (String × Json)) → members ≠ [] →
      (∀ n ∈ membersNumbers members, Spells (.number (f n)) n.text.toList) →
      SpellsMembers (mapMembers f members) (compactMembers members)
  | [], hne, _ => absurd rfl hne
  | [(k, v)], _, h => by
    rw [membersNumbers, List.forall_mem_append] at h
    exact .last blank_nil (spells_compact v h.1)
  | (k, v) :: m :: rest, _, h => by
    rw [membersNumbers, List.forall_mem_append] at h
    have hrest := spellsMembers_compact (m :: rest) (List.cons_ne_nil m rest) h.2
    rw [mapMembers, compactMembers]
    · exact .more blank_nil (spells_compact v h.1) blank_nil hrest
    · exact List.cons_ne_nil m rest
end

/-- The compact text of a value is read as the value with each number as its digits are read. -/
theorem read_compact_mapNumbers {v : Json}
    (h : ∀ n ∈ v.numbers, Spells (.number (f n)) n.text.toList) :
    read v.compact = ⟨.ofJson (v.mapNumbers f), false⟩ :=
  read_of_spells (spells_compact v h)

end

/-- **The compact text of a value is read back.** -/
theorem read_compact {v : Json} (h : v.hasWholeNumbers = true) :
    read v.compact = ⟨.ofJson v, false⟩ := by
  have hspells : ∀ n ∈ v.numbers, Spells (.number (id n)) n.text.toList := by
    intro n hn
    obtain ⟨i, rfl, hlow, hhigh⟩ := exists_integer_of_mem_numbers v h hn
    exact Spells.integer hlow hhigh
  rw [read_compact_mapNumbers hspells, mapNumbers_eq_self (f := id) v fun _ _ => rfl]

theorem decode_compact {α : Type} (read : Document → Decoded α) {v : Json}
    (h : v.hasWholeNumbers = true) : decode read v.compact = read (.ofJson v) :=
  decode_of_read (read_compact h)

end JsonText

end NodeAudit
