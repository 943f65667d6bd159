import NodeAudit.Entries
import NodeAudit.Text.Blank

/-!
# Environments

An environment gives texts to the names of variables. A variable counts as set only if its value is
not blank, and its value counts without the blanks around it (`nonBlank?`).
-/

namespace NodeAudit

/-- The values of variables. -/
structure Environment where
  entries : Entries String := []
deriving DecidableEq, Repr

namespace Environment

/-- The value of a variable as it is. -/
def get? (env : Environment) (name : String) : Option String := env.entries.get? name

/-- The value of a variable without the blanks around it, unless nothing is left. -/
def nonBlank? (env : Environment) (name : String) : Option String :=
  ((env.get? name).map Text.trim).filter (· != "")

theorem nonBlank?_eq_some_iff {env : Environment} {name value : String} :
    env.nonBlank? name = some value ↔
      ∃ raw, env.get? name = some raw ∧ Text.trim raw = value ∧ value ≠ "" := by
  simp only [nonBlank?, Option.filter_eq_some_iff, Option.map_eq_some_iff, bne_iff_ne]
  constructor
  · rintro ⟨⟨raw, hget, htrim⟩, hne⟩
    exact ⟨raw, hget, htrim, hne⟩
  · rintro ⟨raw, hget, htrim, hne⟩
    exact ⟨⟨raw, hget, htrim⟩, hne⟩

/-- Give a variable a value. -/
def set (env : Environment) (name value : String) : Environment :=
  { entries := env.entries.insert name value }

theorem get?_set_self (env : Environment) (name value : String) :
    (env.set name value).get? name = some value :=
  Entries.get?_insert_self name value env.entries

theorem get?_set_of_ne (env : Environment) {name other : String} (h : other ≠ name)
    (value : String) : (env.set name value).get? other = env.get? other :=
  Entries.get?_insert_of_ne h value env.entries

theorem nonBlank?_set_of_ne (env : Environment) {name other : String} (h : other ≠ name)
    (value : String) : (env.set name value).nonBlank? other = env.nonBlank? other := by
  unfold nonBlank?
  rw [get?_set_of_ne env h]

/-- Take the value of a variable away. -/
def unset (env : Environment) (name : String) : Environment :=
  { entries := env.entries.erase name }

/-- Give a variable a value unless it has one. -/
def setDefault (env : Environment) (name value : String) : Environment :=
  match env.get? name with
  | some _ => env
  | none => env.set name value

end Environment

end NodeAudit
