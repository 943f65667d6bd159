import Mathlib.Data.List.TakeWhile
import NodeAudit.Environment

/-!
# What a variable counts as

A variable is missing if it is not set or its value is blank (`Environment.Missing`), and it then
counts as not set (`nonBlank?_eq_none_iff`). Blanks around a value do not count
(`nonBlank?_of_padded`): what a variable counts as is its value without them (`nonBlank?_eq_iff`),
which stays when blanks are put around it (`trimmed_set_blanks`).
-/

namespace NodeAudit

namespace Text

variable {before cs after : List Char}

theorem trimChars_eq_nil_iff : trimChars cs = [] ↔ ∀ c ∈ cs, isBlank c = true := by
  have hend : trimEnd (cs.dropWhile isBlank) = [] ↔ cs.dropWhile isBlank = [] := by
    constructor
    · intro h
      -- what is left would begin with a character that is not blank
      by_contra hne
      have hall : ∀ c ∈ cs.dropWhile isBlank, isBlank c = true := by
        simpa [trimEnd] using h
      have hhead := List.head_dropWhile_not isBlank hne
      rw [hall _ (List.head_mem hne)] at hhead
      cases hhead
    · intro h
      rw [h]
      rfl
  rw [trimChars, hend, List.dropWhile_eq_nil_iff]

theorem trim_eq_empty_iff {s : String} : trim s = "" ↔ ∀ c ∈ s.toList, isBlank c = true := by
  rw [← trimChars_eq_nil_iff, trim, ← String.ofList_nil, String.ofList_inj]

/-- Blanks around characters are dropped with those that the characters begin and end with. -/
theorem trimChars_append_blanks (hbefore : ∀ c ∈ before, isBlank c = true)
    (hafter : ∀ c ∈ after, isBlank c = true) :
    trimChars (before ++ cs ++ after) = trimChars cs := by
  have hafter_rev : ∀ c ∈ after.reverse, isBlank c = true :=
    fun c hc => hafter c (List.mem_reverse.1 hc)
  rw [trimChars, trimChars, List.append_assoc, List.dropWhile_append_of_pos hbefore,
    List.dropWhile_append]
  split
  · rename_i hnil
    rw [List.isEmpty_iff.1 hnil, List.dropWhile_eq_nil_iff.2 hafter]
  · rw [trimEnd, trimEnd, List.reverse_append, List.dropWhile_append_of_pos hafter_rev]

theorem trimChars_padded (hbefore : ∀ c ∈ before, isBlank c = true)
    (hcs : ∀ c ∈ cs, isBlank c = false) (hafter : ∀ c ∈ after, isBlank c = true) :
    trimChars (before ++ cs ++ after) = cs := by
  have hrev : ∀ c ∈ cs.reverse, isBlank c = false := fun c hc => hcs c (List.mem_reverse.1 hc)
  rw [trimChars_append_blanks hbefore hafter, trimChars, dropWhile_isBlank_eq_self hcs, trimEnd,
    dropWhile_isBlank_eq_self hrev, List.reverse_reverse]

end Text

namespace Environment

variable {env : Environment} {name : String}

/-- The variable is not set, or its value is blank. -/
def Missing (env : Environment) (name : String) : Prop :=
  ∀ raw, env.get? name = some raw → ∀ c ∈ raw.toList, Text.isBlank c = true

theorem nonBlank?_eq_none_iff : env.nonBlank? name = none ↔ env.Missing name := by
  unfold nonBlank? Missing
  cases env.get? name with
  | none => simp
  | some raw => simp [Text.trim_eq_empty_iff]

theorem nonBlank?_of_padded {before text after : String}
    (h : env.get? name = some (before ++ text ++ after)) (htext : text ≠ "")
    (hbefore : ∀ c ∈ before.toList, Text.isBlank c = true)
    (hsolid : ∀ c ∈ text.toList, Text.isBlank c = false)
    (hafter : ∀ c ∈ after.toList, Text.isBlank c = true) : env.nonBlank? name = some text := by
  refine nonBlank?_eq_some_iff.2 ⟨_, h, ?_, htext⟩
  rw [Text.trim, String.toList_append, String.toList_append,
    Text.trimChars_padded hbefore hsolid hafter, String.ofList_toList]

/-! ## Values without the blanks around them -/

/-- The value of a variable without the blanks around it; one that is not set counts as empty. -/
def trimmed (env : Environment) (name : String) : String :=
  Text.trim ((env.get? name).getD "")

theorem nonBlank?_eq (env : Environment) (name : String) :
    env.nonBlank? name = if env.trimmed name = "" then none else some (env.trimmed name) := by
  unfold nonBlank? trimmed
  cases env.get? name with
  | none => rfl
  | some raw => by_cases h : Text.trim raw = "" <;> simp [h]

/-- Variables count as the same exactly if their values are, blanks around them apart. -/
theorem nonBlank?_eq_iff {env' : Environment} :
    env.nonBlank? name = env'.nonBlank? name ↔ env.trimmed name = env'.trimmed name := by
  rw [nonBlank?_eq, nonBlank?_eq]
  constructor
  · intro h
    split at h <;> split at h
    · rename_i hempty hempty'
      rw [hempty, hempty']
    · cases h
    · cases h
    · exact Option.some.inj h
  · intro h
    rw [h]

theorem trimmed_congr {env' : Environment} (h : env.get? name = env'.get? name) :
    env.trimmed name = env'.trimmed name := by
  rw [trimmed, trimmed, h]

theorem get?_unset_of_ne (env : Environment) {name other : String} (h : other ≠ name) :
    (env.unset name).get? other = env.get? other := by
  have hkept : ∀ e : String × String, decide ((e.1 != name) = true ∧ (e.1 == other) = true)
      = (e.1 == other) := by
    intro e
    by_cases heq : e.1 = other
    · simp [heq, h]
    · simp [heq]
  simp only [get?, unset, Entries.get?, Entries.erase, List.find?_filter, hkept]

/-- Blanks that are put around a value change nothing of what it is without them. -/
theorem trimmed_set_blanks (env : Environment) (name : String) {before after : String}
    (hbefore : ∀ c ∈ before.toList, Text.isBlank c = true)
    (hafter : ∀ c ∈ after.toList, Text.isBlank c = true) :
    (env.set name (before ++ (env.get? name).getD "" ++ after)).trimmed name
      = env.trimmed name := by
  rw [trimmed, get?_set_self, Option.getD_some, Text.trim, String.toList_append,
    String.toList_append, Text.trimChars_append_blanks hbefore hafter, trimmed, Text.trim]

end Environment

end NodeAudit
