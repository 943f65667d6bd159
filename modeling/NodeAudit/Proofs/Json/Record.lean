import Mathlib.Data.List.Nodup
import Mathlib.Data.List.Pairwise
import Mathlib.Tactic.MkIffOfInductiveProp
import NodeAudit.Json.Decode
import NodeAudit.Proofs.Collect

/-!
# What a record takes from a document

A field is a part of what a record collects, and how its value is decoded. The fields of a record
are `Lawful` if their names differ, each holds the value that was put there, none has a bearing on
another, and nothing else is collected. `Document.given?` is what a document says of a field: the
member of its name, or the item at its place. When a record has been read, each field holds what the
document says of it, and nothing if it says nothing (`record_field`), in whatever order the members
stand and whatever else stands among them.
-/

namespace NodeAudit.Document

variable {σ : Type}

/-- What a document says of a field: the value of the first member of its name, or the item at its
place. -/
def given? (name : String) (place : Nat) : Document → Option Document
  | .object members _ => (members.find? fun m => m.1 == some name).map (·.2)
  | .array items _ => items[place]?
  | _ => none

/-! ## Lawful fields -/

/-- Two fields have no bearing on each other: what is put into one leaves the other as it was, and
it does not matter which is filled first. -/
@[mk_iff] structure Field.Apart (f g : Field σ) : Prop where
  get_set : ∀ s a, g.get (f.set s a) = g.get s
  get_set_symm : ∀ s a, f.get (g.set s a) = f.get s
  set_comm : ∀ s a b, g.set (f.set s a) b = f.set (g.set s b) a

theorem Field.Apart.symm {f g : Field σ} (h : f.Apart g) : g.Apart f :=
  ⟨h.get_set_symm, h.get_set, fun s a b => (h.set_comm s b a).symm⟩

instance : Std.Symm (Field.Apart (σ := σ)) := ⟨fun _ _ => Field.Apart.symm⟩

/-- The fields have different names, hold what is put there, have no bearing on each other, and are
all that is collected. -/
structure Lawful (fields : List (Field σ)) : Prop where
  nodup : (fields.map (·.name)).Nodup
  get_set : ∀ f ∈ fields, ∀ s a, f.get (f.set s a) = some a
  apart : fields.Pairwise Field.Apart
  ext : ∀ s s', (∀ f ∈ fields, f.get s = f.get s') → s = s'

variable {fields : List (Field σ)} {f g : Field σ} {i : Nat} {s s' : σ}

theorem Field.read_eq_ok_iff {d : Document} :
    f.read s d = .ok s' ↔ ∃ a, f.decode d = .ok a ∧ f.set s a = s' :=
  map_eq_ok_iff

theorem Lawful.apart_of_ne (h : Lawful fields) (hf : f ∈ fields) (hg : g ∈ fields)
    (hne : g.name ≠ f.name) : g.Apart f :=
  h.apart.forall hg hf fun heq => hne (congrArg Field.name heq)

theorem find?_name_eq_some (hnodup : (fields.map (·.name)).Nodup) (hf : f ∈ fields) :
    fields.find? (fun g => g.name == f.name) = some f := by
  cases hfind : fields.find? (fun g => g.name == f.name) with
  | none =>
    have hnot := List.find?_eq_none.1 hfind f hf
    simp at hnot
  | some g =>
    have hname : g.name = f.name := by simpa using List.find?_some hfind
    have hmem := List.mem_of_find?_eq_some hfind
    rw [List.inj_on_of_nodup_map hnodup hmem hf hname]

/-! ## Members -/

/-- What reading one more member does: it is skipped, or a field that is not filled takes it. -/
theorem readMembers_cons_eq_ok {key? : Option String} {d : Document}
    {rest : List (Option String × Document)}
    (h : readMembers fields s ((key?, d) :: rest) = .ok s') :
    ∃ key, key? = some key ∧
      ((fields.find? (fun f => f.name == key) = none ∧ readMembers fields s rest = .ok s') ∨
        ∃ f ∈ fields, ∃ a, f.name = key ∧ f.get s = none ∧ f.decode d = .ok a ∧
          readMembers fields (f.set s a) rest = .ok s') := by
  cases key? with
  | none => cases h
  | some key =>
    refine ⟨key, rfl, ?_⟩
    rw [readMembers] at h
    cases hf : fields.find? (fun f => f.name == key) with
    | none =>
      simp only [hf] at h
      split at h
      · exact .inl ⟨rfl, h⟩
      · cases h
    | some f =>
      simp only [hf] at h
      split at h
      · cases h
      · rename_i hfilled
        obtain ⟨s₁, hread, hrest⟩ := bind_eq_ok_iff.1 h
        obtain ⟨a, hdecode, rfl⟩ := Field.read_eq_ok_iff.1 hread
        have hname : f.name = key := by simpa using List.find?_some hf
        have hempty : f.get s = none := by simpa using hfilled
        exact .inr ⟨f, List.mem_of_find?_eq_some hf, a, hname, hempty, hdecode, hrest⟩

theorem readMembers_append {a b : List (Option String × Document)} :
    readMembers fields s (a ++ b) = readMembers fields s a >>= fun s => readMembers fields s b := by
  induction a generalizing s with
  | nil => rfl
  | cons m rest ih =>
    obtain ⟨key?, d⟩ := m
    cases key? with
    | none => rfl
    | some key =>
      rw [List.cons_append, readMembers, readMembers]
      split
      · split
        · exact ih
        · rfl
      · split
        · rfl
        · simp only [bind_assoc, ih]

section
variable (hfields : Lawful fields) (hf : f ∈ fields) {members : List (Option String × Document)}
include hfields hf

/-- A field that is filled is left alone. -/
theorem get_readMembers_of_isSome (hs : (f.get s).isSome = true)
    (h : readMembers fields s members = .ok s') : f.get s' = f.get s := by
  induction members generalizing s with
  | nil =>
    obtain rfl := Except.ok.inj h
    rfl
  | cons m rest ih =>
    obtain ⟨key, -, ⟨-, hrest⟩ | ⟨g, hg, a, hname, hfree, -, hrest⟩⟩ := readMembers_cons_eq_ok h
    · exact ih hs hrest
    · have hne : g.name ≠ f.name := by
        intro heq
        obtain rfl := List.inj_on_of_nodup_map hfields.nodup hg hf heq
        rw [hfree] at hs
        cases hs
      have hkeep := (hfields.apart_of_ne hf hg hne).get_set s a
      rw [ih (hkeep ▸ hs) hrest, hkeep]

/-- A field that is empty takes the first member of its name. -/
theorem readMembers_field (hs : f.get s = none) (h : readMembers fields s members = .ok s') :
    ((members.find? fun m => m.1 == some f.name).map (·.2)).map f.decode
      = (f.get s').map .ok := by
  induction members generalizing s with
  | nil =>
    obtain rfl := Except.ok.inj h
    rw [hs]
    rfl
  | cons m rest ih =>
    obtain ⟨key?, d⟩ := m
    obtain ⟨key, rfl, hcases⟩ := readMembers_cons_eq_ok h
    obtain ⟨hnone, hrest⟩ | ⟨g, hg, a, hname, -, hdecode, hrest⟩ := hcases
    · -- the field is there, so that the key is not its name
      have hne : key ≠ f.name := by
        rintro rfl
        cases hnone.symm.trans (find?_name_eq_some hfields.nodup hf)
      rw [List.find?_cons_of_neg (by simpa using hne)]
      exact ih hs hrest
    · by_cases heq : g.name = f.name
      · obtain rfl := List.inj_on_of_nodup_map hfields.nodup hg hf heq
        have hget := hfields.get_set g hg s a
        have hkeep := get_readMembers_of_isSome hfields hg (by simp [hget]) hrest
        rw [List.find?_cons_of_pos (by simp [hname]), hkeep, hget]
        exact congrArg some hdecode
      · have hkeep := (hfields.apart_of_ne hf hg heq).get_set s a
        rw [List.find?_cons_of_neg (by simpa [← hname] using heq)]
        exact ih (hkeep.trans hs) hrest

theorem get_readMembers_of_absent (hname : ∀ m ∈ members, m.1 ≠ some f.name)
    (hs : f.get s = none) (h : readMembers fields s members = .ok s') : f.get s' = none := by
  have htaken := readMembers_field hfields hf hs h
  rw [List.find?_eq_none.2 fun m hm => by simpa using hname m hm] at htaken
  simpa using htaken.symm

end

/-! ## Items -/

section
variable {origin : Origin} {length n : Nat} {whole : String} {closed : Bool} {items : List Document}

theorem get_readItems (hkeeps : ∀ g ∈ fields, ∀ s a, f.get (g.set s a) = f.get s)
    (h : readItems origin length whole closed fields n s items = .ok s') :
    f.get s' = f.get s := by
  induction fields generalizing s n items with
  | nil =>
    cases items with
    | nil =>
      rw [readItems] at h
      split at h
      · obtain rfl := Except.ok.inj h
        rfl
      · cases h
    | cons d rest =>
      rw [readItems] at h
      cases origin with
      | text => cases h
      | value => cases h
      | table =>
        obtain rfl := Except.ok.inj h
        rfl
  | cons g fields ih =>
    obtain ⟨hg, hfields⟩ := List.forall_mem_cons.1 hkeeps
    cases items with
    | nil =>
      rw [readItems] at h
      split at h
      · cases h
      · split at h
        · cases h
        · exact ih hfields h
    | cons d rest =>
      rw [readItems] at h
      obtain ⟨s₁, hread, hrest⟩ := bind_eq_ok_iff.1 h
      obtain ⟨a, -, rfl⟩ := Field.read_eq_ok_iff.1 hread
      exact (ih hfields hrest).trans (hg s a)

/-- A field that is empty takes the item at its place. -/
theorem readItems_field (hgets : ∀ f ∈ fields, ∀ s a, f.get (f.set s a) = some a)
    (hapart : fields.Pairwise Field.Apart) (hf : fields[i]? = some f) (hs : f.get s = none)
    (h : readItems origin length whole closed fields n s items = .ok s') :
    (items[i]?).map f.decode = (f.get s').map .ok := by
  induction fields generalizing s n items i with
  | nil => cases hf
  | cons g fields ih =>
    obtain ⟨hgetg, hgets⟩ := List.forall_mem_cons.1 hgets
    obtain ⟨hapart, hrestApart⟩ := List.pairwise_cons.1 hapart
    cases i with
    | zero =>
      obtain rfl : g = f := Option.some.inj hf
      have hkeep : ∀ g' ∈ fields, ∀ s a, g.get (g'.set s a) = g.get s :=
        fun g' hg' => (hapart g' hg').get_set_symm
      cases items with
      | nil =>
        rw [readItems] at h
        split at h
        · cases h
        · split at h
          · cases h
          · rw [get_readItems hkeep h, hs]
            rfl
      | cons d rest =>
        rw [readItems] at h
        obtain ⟨s₁, hread, hrest⟩ := bind_eq_ok_iff.1 h
        obtain ⟨a, hdecode, rfl⟩ := Field.read_eq_ok_iff.1 hread
        rw [get_readItems hkeep hrest, hgetg]
        exact congrArg some hdecode
    | succ i =>
      have hf' : fields[i]? = some f := by simpa using hf
      cases items with
      | nil =>
        rw [readItems] at h
        split at h
        · cases h
        · split at h
          · cases h
          · simpa using ih hgets hrestApart hf' hs h
      | cons d rest =>
        rw [readItems] at h
        obtain ⟨s₁, hread, hrest⟩ := bind_eq_ok_iff.1 h
        obtain ⟨a, -, rfl⟩ := Field.read_eq_ok_iff.1 hread
        have hkeep := (hapart f (List.mem_of_getElem? hf')).get_set s a
        simpa using ih hgets hrestApart hf' (hkeep.trans hs) hrest

end

/-! ## Records -/

/-- An object is read as a record exactly if it is closed and its members are read. -/
theorem record_object_eq_ok_iff {origin : Origin} {title : String} {empty : σ}
    {members : List (Option String × Document)} {closed : Bool} :
    (Document.object members closed).record origin title fields empty = .ok s ↔
      closed = true ∧ readMembers fields empty members = .ok s := by
  rw [record, bind_eq_ok_iff]
  cases closed with
  | false => simp
  | true => simp [pure, Except.pure]

section
variable (hfields : Lawful fields) (hf : fields[i]? = some f) {origin : Origin}
  {title : String} {empty : σ} (hempty : f.get empty = none) {d : Document}
  (h : d.record origin title fields empty = .ok s)
include hfields hf hempty h

/-- When a record has been read, a field holds what the document says of it. -/
theorem record_field : (d.given? f.name i).map f.decode = (f.get s).map .ok := by
  cases d with
  | object members closed =>
    exact readMembers_field hfields (List.mem_of_getElem? hf) hempty
      (record_object_eq_ok_iff.1 h).2
  | array items closed => exact readItems_field hfields.get_set hfields.apart hf hempty h
  | null => cases h
  | bool b => cases h
  | number n => cases h
  | string t => cases h
  | malformed => cases h

theorem exists_of_record {a : f.Value} (ha : f.get s = some a) : ∃ d', f.decode d' = .ok a := by
  have hmap := record_field hfields hf hempty h
  rw [ha] at hmap
  obtain ⟨d', -, hd'⟩ := Option.map_eq_some_iff.1 hmap
  exact ⟨d', hd'⟩

theorem record_get :
    f.get s = (d.given? f.name i).bind fun d => (f.decode d).toOption := by
  have hmap := congrArg (·.bind Except.toOption) (record_field hfields hf hempty h)
  rw [Option.bind_map, Option.bind_map] at hmap
  exact (hmap.trans (Option.bind_fun_some (f.get s))).symm

end

/-! ## One more member -/

section
variable (hfields : Lawful fields) (hf : f ∈ fields) {a : f.Value}
include hfields hf

/-- A field may be filled before the members of other names are read. -/
theorem readMembers_set {members : List (Option String × Document)}
    (hname : ∀ m ∈ members, m.1 ≠ some f.name) :
    readMembers fields (f.set s a) members = (f.set · a) <$> readMembers fields s members := by
  induction members generalizing s with
  | nil => rfl
  | cons m rest ih =>
    obtain ⟨key?, d⟩ := m
    obtain ⟨hkey, hrest⟩ := List.forall_mem_cons.1 hname
    cases key? with
    | none => rfl
    | some key =>
      rw [readMembers, readMembers]
      cases hg : fields.find? (fun g => g.name == key) with
      | none =>
        dsimp only
        split
        · exact ih hrest
        · rfl
      | some g =>
        have hgname : g.name = key := by simpa using List.find?_some hg
        have hne : g.name ≠ f.name := fun heq => hkey (congrArg some (hgname.symm.trans heq))
        have hapart := hfields.apart_of_ne hf (List.mem_of_find?_eq_some hg) hne
        dsimp only
        rw [hapart.get_set_symm, Field.read, Field.read]
        split
        · rfl
        · cases g.decode d with
          | error e => rfl
          | ok b =>
            simp only [ok_bind, pure, Except.pure, ← hapart.set_comm, ih hrest]

/-- A member of a name that no other has may stand anywhere, if it can be decoded. -/
theorem readMembers_insert {before after : List (Option String × Document)} {d : Document}
    (hname : ∀ m ∈ before ++ after, m.1 ≠ some f.name) (hs : f.get s = none)
    (hdecode : f.decode d = .ok a) (h : readMembers fields s (before ++ after) = .ok s') :
    readMembers fields s (before ++ (some f.name, d) :: after) = .ok (f.set s' a) := by
  rw [List.forall_mem_append] at hname
  rw [readMembers_append] at h ⊢
  obtain ⟨s₁, hbefore, hafter⟩ := bind_eq_ok_iff.1 h
  have hfree : f.get s₁ = none := get_readMembers_of_absent hfields hf hname.1 hs hbefore
  have hread : f.read s₁ d = .ok (f.set s₁ a) := Field.read_eq_ok_iff.2 ⟨a, hdecode, rfl⟩
  rw [hbefore, ok_bind, readMembers, find?_name_eq_some hfields.nodup hf]
  simp only [hfree, hread, ok_bind, readMembers_set hfields hf hname.2, hafter]
  rfl

end

end NodeAudit.Document
