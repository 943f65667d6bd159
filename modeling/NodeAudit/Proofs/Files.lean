import NodeAudit.Files
import NodeAudit.Proofs.Collect

/-!
# Files that were written

When a file has been written, it holds the text (`read_of_write`), whatever stood there before, and
nothing else has changed (`node?_of_write`).
-/

namespace NodeAudit.Files.Tree

variable {t t' : Tree} {path text : String} {place : List String}

/-- What a write that succeeds has done: the path led to a place that is no directory, and the text
is there now. -/
theorem write_eq_ok_iff :
    t.write path text = .ok t' ↔
      ∃ place, t.place path = .ok place ∧ t.node? place ≠ some .directory ∧
        endsInSlash path = false ∧
        t' = { t with nodes := t.nodes.insert (joined place) (.file text) } := by
  unfold write
  rw [bind_eq_ok_iff]
  refine exists_congr fun place => and_congr_right fun _ => ?_
  cases t.node? place with
  | none => cases endsInSlash path <;> simp [bind, Except.bind, pure, Except.pure, eq_comm]
  | some node =>
    cases node <;> cases endsInSlash path <;>
      simp [bind, Except.bind, pure, Except.pure, eq_comm]

theorem node?_cons (t : Tree) (name : String) (rest : List String) :
    t.node? (name :: rest) = t.nodes.get? (joined (name :: rest)) := rfl

/-- A way through directories is there as long as these are. -/
theorem follow_of_directories
    (h : ∀ p, t.node? p = some .directory → t'.node? p = some .directory) {here : List String}
    {names : List String} (hf : t.follow here names = .ok place) :
    t'.follow here names = .ok place := by
  induction names generalizing here with
  | nil => exact hf
  | cons name rest ih =>
    rw [follow] at hf ⊢
    cases hnode : t.node? here with
    | none => simp [hnode] at hf
    | some node =>
      cases node with
      | file text => simp [hnode] at hf
      | binary => simp [hnode] at hf
      | directory =>
        simp only [hnode, h here hnode] at hf ⊢
        by_cases hdot : name = "."
        · rw [if_pos hdot] at hf ⊢
          exact ih hf
        by_cases hup : name = ".."
        · rw [if_neg hdot, if_pos hup] at hf ⊢
          exact ih hf
        rw [if_neg hdot, if_neg hup] at hf ⊢
        by_cases hlong : maxName < name.utf8ByteSize
        · rw [if_pos hlong] at hf
          cases hf
        · rw [if_neg hlong] at hf ⊢
          exact ih hf

theorem place_of_directories
    (h : ∀ p, t.node? p = some .directory → t'.node? p = some .directory) (hhere : t'.here = t.here)
    (hp : t.place path = .ok place) : t'.place path = .ok place := by
  unfold Tree.place at hp ⊢
  rw [hhere]
  by_cases hnul : path.toList.contains '\x00' = true
  · rw [if_pos hnul] at hp
    cases hp
  by_cases hempty : path = ""
  · rw [if_neg hnul, if_pos hempty] at hp
    cases hp
  by_cases hlong : maxPath ≤ path.utf8ByteSize
  · rw [if_neg hnul, if_neg hempty, if_pos hlong] at hp
    cases hp
  rw [if_neg hnul, if_neg hempty, if_neg hlong] at hp ⊢
  exact follow_of_directories h hp

theorem node?_of_write (h : t.write path text = .ok t') (hp : t.place path = .ok place)
    {other : List String} (hne : joined other ≠ joined place) :
    t'.node? other = t.node? other := by
  obtain ⟨place', hp', -, -, rfl⟩ := write_eq_ok_iff.1 h
  obtain rfl := Except.ok.inj (hp.symm.trans hp')
  simp only [node?, Entries.get?_insert_of_ne hne]

theorem directory_of_write (h : t.write path text = .ok t') {other : List String}
    (ho : t.node? other = some .directory) : t'.node? other = some .directory := by
  obtain ⟨place, hp, hdir, -, -⟩ := write_eq_ok_iff.1 h
  rcases other with _ | ⟨name, rest⟩
  · rfl
  · -- the place of the file held no directory, so that `other` is another place
    rw [node?_of_write h hp, ho]
    intro hjoined
    apply hdir
    rcases place with _ | ⟨name', rest'⟩
    · rfl
    · rw [node?_cons] at ho ⊢
      rwa [← hjoined]

theorem read_of_write (h : t.write path text = .ok t') : t'.read path = .ok text := by
  obtain ⟨place, hp, hdir, hslash, ht'⟩ := write_eq_ok_iff.1 h
  have hhere : t'.here = t.here := by rw [ht']
  have hplace : t'.place path = .ok place :=
    place_of_directories (fun other => directory_of_write h) hhere hp
  have hnode : t'.node? place = some (.file text) := by
    rcases place with _ | ⟨name, rest⟩
    · exact absurd rfl hdir
    · rw [ht']
      exact Entries.get?_insert_self _ _ _
  rw [read, hplace]
  simp only [bind, Except.bind, hnode, hslash]
  rfl

end NodeAudit.Files.Tree
