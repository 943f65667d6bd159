import NodeAudit.Json.Decode
import NodeAudit.Proofs.Collect
import NodeAudit.Proofs.Json.Spelling

/-!
# Decoding the documents of values

Decoders meet the document of a value where a text was written by the printer (`decode_pretty`). A
canonical value is the value of its document (`value?_ofJson`), and lists and counts are read back
from theirs (`list_ofItems`, `uint64_ofNat`).
-/

namespace NodeAudit

/-! ## Containers of values -/

namespace Json

variable {items : List Json} {members : List (String × Json)} {n : Nat}

theorem allCanonical_iff : allCanonical items = true ↔ ∀ v ∈ items, v.isCanonical = true := by
  induction items with
  | nil => simp [allCanonical]
  | cons v rest ih => simp [allCanonical, ih]

theorem membersCanonical_iff :
    membersCanonical members = true ↔ ∀ m ∈ members, m.2.isCanonical = true := by
  induction members with
  | nil => simp [membersCanonical]
  | cons m rest ih => rw [membersCanonical, Bool.and_eq_true, ih, List.forall_mem_cons]

theorem itemsDepth_le_iff : itemsDepth items ≤ n ↔ ∀ v ∈ items, v.depth ≤ n := by
  induction items with
  | nil => simp [itemsDepth]
  | cons v rest ih => rw [itemsDepth, Nat.max_le, ih, List.forall_mem_cons]

theorem depth_le_itemsDepth {v : Json} (h : v ∈ items) : v.depth ≤ itemsDepth items :=
  itemsDepth_le_iff.1 (Nat.le_refl _) v h

theorem membersDepth_le_iff : membersDepth members ≤ n ↔ ∀ m ∈ members, m.2.depth ≤ n := by
  induction members with
  | nil => simp [membersDepth]
  | cons m rest ih => rw [membersDepth, Nat.max_le, ih, List.forall_mem_cons]

end Json

namespace Document

open Json

/-! ## Values -/

mutual
theorem value?_ofJson (opened : Nat) :
    (v : Json) → v.isCanonical = true → opened + v.depth ≤ maxOpen →
      value? opened (ofJson v) = some v
  | .null, _, _ => rfl
  | .bool _, _, _ => rfl
  | .number _, _, _ => rfl
  | .string _, _, _ => rfl
  | .array items, hc, hd => by
    rw [depth] at hd
    have hitems := items?_ofItems (opened + 1) items hc (by omega)
    rw [ofJson, value?, if_pos (by omega), hitems]
    rfl
  | .object members, hc, hd => by
    rw [depth] at hd
    rw [isCanonical, Bool.and_eq_true] at hc
    have hmembers := members?_ofMembers (opened + 1) members hc.2 (by omega)
    rw [ofJson, value?, if_pos (by omega), hmembers, Option.bind_some, if_pos rfl,
      Entries.sort_eq_self hc.1]

theorem items?_ofItems (opened : Nat) :
    (items : List Json) → allCanonical items = true → opened + itemsDepth items ≤ maxOpen →
      items? opened (ofItems items) = some items
  | [], _, _ => rfl
  | v :: rest, hc, hd => by
    rw [itemsDepth] at hd
    rw [allCanonical, Bool.and_eq_true] at hc
    rw [ofItems, items?, value?_ofJson opened v hc.1 (by omega),
      items?_ofItems opened rest hc.2 (by omega)]
    rfl

theorem members?_ofMembers (opened : Nat) :
    (members : List (String × Json)) → membersCanonical members = true →
      opened + membersDepth members ≤ maxOpen →
      members? opened (ofMembers members) = some members
  | [], _, _ => rfl
  | (k, v) :: rest, hc, hd => by
    rw [membersDepth] at hd
    rw [membersCanonical, Bool.and_eq_true] at hc
    rw [ofMembers, members?, value?_ofJson opened v hc.1 (by omega),
      members?_ofMembers opened rest hc.2 (by omega)]
    rfl
end

mutual
theorem isCanonical_of_value? {opened : Nat} (hopened : opened ≤ maxOpen) :
    (d : Document) → (v : Json) → value? opened d = some v →
      v.isCanonical = true ∧ opened + v.depth ≤ maxOpen
  | .null, v, h => by
    obtain rfl := Option.some.inj h
    exact ⟨rfl, hopened⟩
  | .bool b, v, h => by
    obtain rfl := Option.some.inj h
    exact ⟨rfl, hopened⟩
  | .number n, v, h => by
    obtain ⟨n, -, rfl⟩ := Option.map_eq_some_iff.1 h
    exact ⟨rfl, hopened⟩
  | .string t, v, h => by
    obtain ⟨t, -, rfl⟩ := Option.map_eq_some_iff.1 h
    exact ⟨rfl, hopened⟩
  | .malformed, v, h => nomatch h
  | .array items closed, v, h => by
    rw [value?] at h
    split at h
    · rename_i hlt
      obtain ⟨vs, hvs, hclosed⟩ := Option.bind_eq_some_iff.1 h
      split at hclosed
      · obtain rfl := Option.some.inj hclosed
        have hall := canonical_of_items? hlt items vs hvs
        have hc : allCanonical vs = true := allCanonical_iff.2 fun v hv => (hall v hv).1
        have hd : itemsDepth vs ≤ maxOpen - (opened + 1) := itemsDepth_le_iff.2 fun v hv => by
          have hv := (hall v hv).2
          omega
        rw [isCanonical, hc, depth]
        exact ⟨rfl, by omega⟩
      · cases hclosed
    · cases h
  | .object members closed, v, h => by
    rw [value?] at h
    split at h
    · rename_i hlt
      obtain ⟨ms, hms, hclosed⟩ := Option.bind_eq_some_iff.1 h
      split at hclosed
      · obtain rfl := Option.some.inj hclosed
        have hall := canonical_of_members? hlt members ms hms
        -- sorting keeps values only
        obtain ⟨hsorted, hmem⟩ := Entries.sort_spec ms
        have hc : membersCanonical (Entries.sort ms) = true :=
          membersCanonical_iff.2 fun m hm => (hall m (hmem m hm)).1
        have hd : membersDepth (Entries.sort ms) ≤ maxOpen - (opened + 1) :=
          membersDepth_le_iff.2 fun m hm => by
            have hm := (hall m (hmem m hm)).2
            omega
        rw [isCanonical, hsorted, hc, depth]
        exact ⟨rfl, by omega⟩
      · cases hclosed
    · cases h

theorem canonical_of_items? {opened : Nat} (hopened : opened ≤ maxOpen) :
    (items : List Document) → (vs : List Json) → items? opened items = some vs →
      ∀ v ∈ vs, v.isCanonical = true ∧ opened + v.depth ≤ maxOpen
  | [], vs, h => by
    obtain rfl := Option.some.inj h
    exact List.forall_mem_nil _
  | d :: rest, vs, h => by
    simp only [items?, Option.bind_eq_bind, Option.bind_eq_some_iff] at h
    obtain ⟨v, hv, ws, hws, heq⟩ := h
    obtain rfl := Option.some.inj heq
    exact List.forall_mem_cons.2
      ⟨isCanonical_of_value? hopened d v hv, canonical_of_items? hopened rest ws hws⟩

theorem canonical_of_members? {opened : Nat} (hopened : opened ≤ maxOpen) :
    (members : List (Option String × Document)) → (ms : List (String × Json)) →
      members? opened members = some ms →
      ∀ m ∈ ms, m.2.isCanonical = true ∧ opened + m.2.depth ≤ maxOpen
  | [], ms, h => by
    obtain rfl := Option.some.inj h
    exact List.forall_mem_nil _
  | (key, d) :: rest, ms, h => by
    simp only [members?, Option.bind_eq_bind, Option.bind_eq_some_iff] at h
    obtain ⟨k, -, v, hv, ws, hws, heq⟩ := h
    obtain rfl := Option.some.inj heq
    exact List.forall_mem_cons.2
      ⟨isCanonical_of_value? hopened d v hv, canonical_of_members? hopened rest ws hws⟩
end

theorem any_ofJson {opened : Nat} {v : Json} (hc : v.isCanonical = true)
    (hd : opened + v.depth ≤ maxOpen) : any opened (ofJson v) = .ok v := by
  rw [any, value?_ofJson opened v hc hd]

theorem canonical_of_any {opened : Nat} {d : Document} {v : Json} (hopened : opened ≤ maxOpen)
    (h : any opened d = .ok v) : v.isCanonical = true ∧ opened + v.depth ≤ maxOpen := by
  rw [any] at h
  split at h
  · rename_i hv
    obtain rfl := Except.ok.inj h
    exact isCanonical_of_value? hopened d _ hv
  · cases h

/-! ## Counts -/

theorem int64_ofInt (n : Int64) : int64 (ofJson (.ofInt n.toInt)) = .ok n := by
  have hlow := n.le_toInt
  have hhigh := n.toInt_lt
  have hrange : (-9223372036854775808 : Int) ≤ n.toInt ∧ n.toInt ≤ 9223372036854775807 := by
    omega
  simp [int64, Json.ofInt, ofJson, integer, hrange, bind, Except.bind, pure, Except.pure]

theorem uint64_ofNat (expected : String) (n : UInt64) :
    uint64 expected (ofJson (.ofNat n.toNat)) = .ok n := by
  have hlt := n.toNat_lt
  have hrange : (0 : Int) ≤ n.toNat ∧ (n.toNat : Int) ≤ 18446744073709551615 := by omega
  simp [uint64, Json.ofNat, ofJson, integer, hrange, bind, Except.bind, pure, Except.pure]

/-! ## Containers -/

theorem ofItems_eq_map (items : List Json) : ofItems items = items.map ofJson := by
  induction items with
  | nil => rfl
  | cons v rest ih => rw [ofItems, ih, List.map_cons]

theorem ofMembers_eq_map (members : List (String × Json)) :
    ofMembers members = members.map fun m => (some m.1, ofJson m.2) := by
  induction members with
  | nil => rfl
  | cons m rest ih => rw [ofMembers, ih, List.map_cons]

theorem list_ofItems {α : Type} {read : Document → Decoded α} {toJson : α → Json} {l : List α}
    (h : ∀ a ∈ l, read (ofJson (toJson a)) = .ok a) :
    list read (ofJson (.array (l.map toJson))) = .ok l := by
  have hmapM : (ofItems (l.map toJson)).mapM read = .ok l := by
    rw [mapM_eq_ok_iff, ofItems_eq_map, List.map_map, List.map_map]
    exact List.map_congr_left h
  rw [ofJson, list, hmapM]
  rfl

/-- What a list that was read holds was read from its items. -/
theorem exists_of_mem_list {α : Type} {read : Document → Decoded α} {d : Document} {l : List α}
    {a : α} (h : list read d = .ok l) (ha : a ∈ l) : ∃ d', read d' = .ok a := by
  cases d with
  | array items closed =>
    obtain ⟨l', hmapM, hclosed⟩ := bind_eq_ok_iff.1 h
    split at hclosed
    · obtain rfl := Except.ok.inj hclosed
      have hmem : Except.ok a ∈ items.map read := mapM_eq_ok_iff.1 hmapM ▸ List.mem_map_of_mem ha
      obtain ⟨d', -, hd'⟩ := List.mem_map.1 hmem
      exact ⟨d', hd'⟩
    · cases hclosed
  | null => cases h
  | bool b => cases h
  | number n => cases h
  | string t => cases h
  | object members closed => cases h
  | malformed => cases h

end Document

/-! ## Texts -/

/-- What is decoded of a text with nothing behind its document is what is decoded of that. -/
theorem JsonText.decode_of_read {α : Type} {read : Document → Decoded α} {s : String} {d : Document}
    (h : JsonText.read s = ⟨d, false⟩) : JsonText.decode read s = read d := by
  rw [JsonText.decode, h]
  cases read d <;> rfl

theorem JsonText.decode_pretty {α : Type} (read : Document → Decoded α) {v : Json}
    (h : v.hasWholeNumbers = true) :
    JsonText.decode read v.pretty = read (.ofJson v) :=
  decode_of_read (read_pretty h)

end NodeAudit
