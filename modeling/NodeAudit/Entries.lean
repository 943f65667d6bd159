/-!
# Entries sorted by key

A finite map from texts is a list of entries with strictly increasing keys. `insert` keeps that
order and replaces the entry of an equal key, so that of repeated keys the last counts.
-/

namespace NodeAudit

/-- Entries of a finite map from texts. -/
abbrev Entries (α : Type) := List (String × α)

namespace Entries

variable {α : Type}

/-- Put an entry at its place, replacing one of the same key. -/
def insert (key : String) (value : α) : Entries α → Entries α
  | [] => [(key, value)]
  | (k, v) :: rest =>
    if key < k then (key, value) :: (k, v) :: rest
    else if key = k then (key, value) :: rest
    else (k, v) :: insert key value rest

/-- The entries in increasing order of their keys; of a repeated key the last value stays. -/
def sort (entries : List (String × α)) : Entries α :=
  entries.foldl (fun sorted e => insert e.1 e.2 sorted) []

/-- The value of the first entry with the key. -/
def get? (key : String) (entries : Entries α) : Option α :=
  (entries.find? fun e => e.1 == key).map (·.2)

theorem get?_cons (key k : String) (v : α) (rest : Entries α) :
    get? key ((k, v) :: rest) = if k = key then some v else get? key rest := by
  unfold get?
  rw [List.find?_cons]
  by_cases h : k = key
  · simp [h]
  · rw [if_neg h, beq_eq_false_iff_ne.2 h]

theorem get?_insert_self (key : String) (value : α) (entries : Entries α) :
    get? key (insert key value entries) = some value := by
  induction entries with
  | nil => simp [insert, get?_cons]
  | cons e rest ih =>
    obtain ⟨k, v⟩ := e
    rw [insert]
    split
    · simp [get?_cons]
    · split
      · simp [get?_cons]
      · rename_i hne
        rw [get?_cons, if_neg (Ne.symm hne), ih]

theorem get?_insert_of_ne {key other : String} (h : other ≠ key) (value : α)
    (entries : Entries α) : get? other (insert key value entries) = get? other entries := by
  induction entries with
  | nil => simp [insert, get?_cons, Ne.symm h]
  | cons e rest ih =>
    obtain ⟨k, v⟩ := e
    rw [insert]
    split
    · rw [get?_cons, if_neg (Ne.symm h)]
    · split
      · rename_i heq
        rw [get?_cons, get?_cons, if_neg (Ne.symm h), if_neg (heq ▸ Ne.symm h)]
      · rw [get?_cons, get?_cons, ih]

/-- Keys in strictly increasing order. -/
def increasing : Entries α → Bool
  | [] => true
  | [_] => true
  | (k, _) :: (k', v') :: rest => decide (k < k') && increasing ((k', v') :: rest)

theorem pairwise_of_increasing {entries : Entries α} (h : increasing entries = true) :
    entries.Pairwise fun e e' => e.1 < e'.1 := by
  induction entries with
  | nil => exact .nil
  | cons e rest ih =>
    cases rest with
    | nil => exact List.pairwise_singleton _ e
    | cons e' rest =>
      simp only [increasing, Bool.and_eq_true, decide_eq_true_eq] at h
      have hrest := ih h.2
      refine List.pairwise_cons.2 ⟨?_, hrest⟩
      intro e'' he
      rcases List.mem_cons.1 he with rfl | he
      · exact h.1
      · exact String.lt_trans h.1 ((List.pairwise_cons.1 hrest).1 e'' he)

theorem increasing_of_pairwise {entries : Entries α}
    (h : entries.Pairwise fun e e' => e.1 < e'.1) : increasing entries = true := by
  induction entries with
  | nil => rfl
  | cons e rest ih =>
    obtain ⟨hhead, hrest⟩ := List.pairwise_cons.1 h
    cases rest with
    | nil => rfl
    | cons e' rest => simp [increasing, hhead e' List.mem_cons_self, ih hrest]

theorem mem_of_mem_insert {key : String} {value : α} {e : String × α} {entries : Entries α}
    (h : e ∈ insert key value entries) : e = (key, value) ∨ e ∈ entries := by
  induction entries with
  | nil => exact .inl (List.mem_singleton.1 h)
  | cons e' rest ih =>
    rw [insert] at h
    split at h
    · exact List.mem_cons.1 h
    · split at h
      · exact (List.mem_cons.1 h).imp_right (List.mem_cons_of_mem e')
      · rcases List.mem_cons.1 h with rfl | h
        · exact .inr List.mem_cons_self
        · exact (ih h).imp_right (List.mem_cons_of_mem e')

theorem mem_keys_insert {name key : String} {value : α} {entries : Entries α} :
    name ∈ (insert key value entries).map (·.1) ↔ name = key ∨ name ∈ entries.map (·.1) := by
  induction entries with
  | nil => simp [insert]
  | cons e rest ih =>
    rw [insert]
    split
    · simp
    · split
      · rename_i heq
        simp [heq]
      · rw [List.map_cons, List.mem_cons, ih, List.map_cons, List.mem_cons]
        exact or_left_comm

/-- A new key adds one entry and leaves all others. -/
theorem insert_perm {key : String} {entries : Entries α} (h : key ∉ entries.map (·.1)) (value : α) :
    (insert key value entries).Perm ((key, value) :: entries) := by
  induction entries with
  | nil => exact .refl _
  | cons e rest ih =>
    rw [List.map_cons, List.mem_cons, not_or] at h
    rw [insert, if_neg h.1]
    split
    · exact .refl _
    · exact ((ih h.2).cons e).trans (.swap _ _ _)

theorem pairwise_insert {entries : Entries α} (h : entries.Pairwise fun e e' => e.1 < e'.1)
    (key : String) (value : α) :
    (insert key value entries).Pairwise fun e e' => e.1 < e'.1 := by
  induction entries with
  | nil => exact List.pairwise_singleton _ _
  | cons e rest ih =>
    obtain ⟨hhead, hrest⟩ := List.pairwise_cons.1 h
    rw [insert]
    split
    · rename_i hlt
      refine List.pairwise_cons.2 ⟨fun e' he => ?_, h⟩
      rcases List.mem_cons.1 he with rfl | he
      · exact hlt
      · exact String.lt_trans hlt (hhead e' he)
    · rename_i hnlt
      split
      · rename_i heq
        exact List.pairwise_cons.2 ⟨fun e' he => heq ▸ hhead e' he, hrest⟩
      · rename_i hne
        have hgt : e.1 < key := String.not_le.1 fun hle =>
          hne (String.le_antisymm hle (String.not_lt.1 hnlt))
        refine List.pairwise_cons.2 ⟨fun e' he => ?_, ih hrest⟩
        rcases mem_of_mem_insert he with rfl | he
        · exact hgt
        · exact hhead e' he

/-- Sorting leaves entries in order, each of which was there before. -/
theorem sort_spec (entries : List (String × α)) :
    increasing (sort entries) = true ∧ ∀ e ∈ sort entries, e ∈ entries := by
  have hfold : ∀ after sorted : Entries α, sorted.Pairwise (fun e e' => e.1 < e'.1) →
      (after.foldl (fun sorted e => insert e.1 e.2 sorted) sorted).Pairwise
          (fun e e' => e.1 < e'.1) ∧
        ∀ e ∈ after.foldl (fun sorted e => insert e.1 e.2 sorted) sorted,
          e ∈ sorted ∨ e ∈ after := by
    intro after
    induction after with
    | nil => exact fun sorted h => ⟨h, fun e he => .inl he⟩
    | cons e after ih =>
      intro sorted h
      obtain ⟨hpairwise, hmem⟩ := ih _ (pairwise_insert h e.1 e.2)
      refine ⟨hpairwise, fun e' he => ?_⟩
      rcases hmem e' he with he | he
      · rcases mem_of_mem_insert he with rfl | he
        · exact .inr List.mem_cons_self
        · exact .inl he
      · exact .inr (List.mem_cons_of_mem e he)
  obtain ⟨hpairwise, hmem⟩ := hfold entries [] .nil
  exact ⟨increasing_of_pairwise hpairwise,
    fun e he => (hmem e he).resolve_left List.not_mem_nil⟩

theorem insert_eq_append {key : String} {entries : Entries α} (h : ∀ e ∈ entries, e.1 < key)
    (value : α) : insert key value entries = entries ++ [(key, value)] := by
  induction entries with
  | nil => rfl
  | cons e rest ih =>
    obtain ⟨hlt, hrest⟩ := List.forall_mem_cons.1 h
    have hne : key ≠ e.1 := by
      rintro rfl
      exact String.lt_irrefl _ hlt
    rw [insert, if_neg (String.lt_asymm hlt), if_neg hne, ih hrest]
    rfl

theorem sort_eq_self {entries : Entries α} (h : increasing entries = true) :
    sort entries = entries := by
  have hfold : ∀ before after : Entries α, (before ++ after).Pairwise (fun e e' => e.1 < e'.1) →
      after.foldl (fun sorted e => insert e.1 e.2 sorted) before = before ++ after := by
    intro before after
    induction after generalizing before with
    | nil => simp
    | cons e after ih =>
      intro hp
      have hlast : ∀ e' ∈ before, e'.1 < e.1 := fun e' he =>
        (List.pairwise_append.1 hp).2.2 e' he e List.mem_cons_self
      rw [List.foldl_cons, insert_eq_append hlast, ih, List.append_assoc, List.singleton_append]
      simpa using hp
  exact hfold [] entries (pairwise_of_increasing h)

/-- Without the entries of the key. -/
def erase (key : String) (entries : Entries α) : Entries α :=
  entries.filter fun e => e.1 != key

end Entries

end NodeAudit
