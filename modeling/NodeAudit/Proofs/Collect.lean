/-!
# Collecting the results of a list

A computation that may fail, done for each element of a list, gives all results (`mapM_eq_ok_iff`)
or the error of the first element that has one (`mapM_eq_error_iff`).
-/

namespace NodeAudit

variable {α β ε : Type} {f : α → Except ε β} {x : α} {l : List α} {e : ε}

@[simp] theorem ok_bind {a : α} {k : α → Except ε β} : (Except.ok a >>= k) = k a := rfl

@[simp] theorem ok_map {a : α} {g : α → β} : g <$> (Except.ok a : Except ε α) = .ok (g a) := rfl

theorem bind_eq_ok_iff {r : Except ε α} {k : α → Except ε β} {b : β} :
    (r >>= k) = .ok b ↔ ∃ a, r = .ok a ∧ k a = .ok b := by
  cases r <;> simp [bind, Except.bind]

theorem map_eq_ok_iff {r : Except ε α} {g : α → β} {b : β} :
    g <$> r = .ok b ↔ ∃ a, r = .ok a ∧ g a = b := by
  cases r <;> simp [Functor.map, Except.map]

theorem bind_eq_error_iff {r : Except ε α} {k : α → Except ε β} :
    (r >>= k) = .error e ↔ r = .error e ∨ ∃ a, r = .ok a ∧ k a = .error e := by
  cases r <;> simp [bind, Except.bind]

theorem mapM_cons_eq_ok_iff {ys : List β} :
    (x :: l).mapM f = .ok ys ↔ ∃ y zs, f x = .ok y ∧ l.mapM f = .ok zs ∧ ys = y :: zs := by
  simp only [List.mapM_cons, bind_eq_ok_iff, pure, Except.pure, Except.ok.injEq]
  constructor
  · rintro ⟨y, hy, zs, hzs, rfl⟩
    exact ⟨y, zs, hy, hzs, rfl⟩
  · rintro ⟨y, zs, hy, hzs, rfl⟩
    exact ⟨y, hy, zs, hzs, rfl⟩

theorem mapM_cons_eq_error_iff :
    (x :: l).mapM f = .error e ↔ f x = .error e ∨ (∃ y, f x = .ok y) ∧ l.mapM f = .error e := by
  simp [List.mapM_cons, bind_eq_error_iff, pure, Except.pure]

theorem mapM_eq_ok_iff {ys : List β} : l.mapM f = .ok ys ↔ l.map f = ys.map .ok := by
  induction l generalizing ys with
  | nil => cases ys <;> simp [pure, Except.pure]
  | cons x l ih =>
    rw [mapM_cons_eq_ok_iff]
    cases ys with
    | nil => simp
    | cons y ys =>
      rw [List.map_cons, List.map_cons, List.cons.injEq, ← ih]
      constructor
      · rintro ⟨_, _, hy, hys, heq⟩
        obtain ⟨rfl, rfl⟩ := List.cons.inj heq
        exact ⟨hy, hys⟩
      · rintro ⟨hy, hys⟩
        exact ⟨y, ys, hy, hys, rfl⟩

theorem mapM_eq_error_iff :
    l.mapM f = .error e ↔
      ∃ before x after, l = before ++ x :: after ∧ (∀ y ∈ before, ∃ v, f y = .ok v) ∧
        f x = .error e := by
  induction l with
  | nil => simp [pure, Except.pure]
  | cons x l ih =>
    rw [mapM_cons_eq_error_iff, ih]
    constructor
    · rintro (hx | ⟨hx, before, y, after, rfl, hb, hy⟩)
      · exact ⟨[], x, l, rfl, by simp, hx⟩
      · refine ⟨x :: before, y, after, rfl, ?_, hy⟩
        simpa only [List.forall_mem_cons] using ⟨hx, hb⟩
    · rintro ⟨before, y, after, hl, hb, hy⟩
      cases before with
      | nil =>
        obtain ⟨rfl, -⟩ := List.cons.inj hl
        exact .inl hy
      | cons z before =>
        obtain ⟨rfl, rfl⟩ := List.cons.inj hl
        obtain ⟨hx, hb⟩ := List.forall_mem_cons.1 hb
        exact .inr ⟨hx, before, y, after, rfl, hb, hy⟩

end NodeAudit
