import Mathlib.Data.List.Forall2
import NodeAudit.Proofs.Json.Decode
import NodeAudit.Proofs.Json.Record

/-!
# Objects of given members

`IsObjectOf given d` says that a document is an object of given members: it has a member for each
name that comes with a document, in any order, and others of unknown names among them. What such an
object says of a name is what is given (`IsObjectOf.given?_eq`). It is read as the record whose
fields have those names and hold what is decoded of what is given (`IsObjectOf.record_eq`).
-/

namespace NodeAudit.Document

variable {σ : Type} {given : List (String × Option Document)} {d : Document}

/-- The members of the names that come with a document. -/
def givenMembers (given : List (String × Option Document)) : List (Option String × Document) :=
  given.filterMap fun entry => entry.2.map (some entry.1, ·)

/-- The document is an object with a member for each of the names that comes with a document. The
members stand in any order, and among others that have unknown names and are well formed. -/
def IsObjectOf (given : List (String × Option Document)) (d : Document) : Prop :=
  ∃ members unknown, d = .object members true ∧
    members.Perm (givenMembers given ++ unknown) ∧
    ∀ m ∈ unknown, (∃ key, m.1 = some key ∧ key ∉ given.map (·.1)) ∧ m.2.isWellFormed = true

theorem isObjectOf_givenMembers (given : List (String × Option Document)) :
    IsObjectOf given (.object (givenMembers given) true) :=
  ⟨_, [], rfl, by rw [List.append_nil], List.forall_mem_nil _⟩

theorem mem_givenMembers {m : Option String × Document} :
    m ∈ givenMembers given ↔ ∃ name d, (name, some d) ∈ given ∧ m = (some name, d) := by
  simp only [givenMembers, List.mem_filterMap, Option.map_eq_some_iff]
  constructor
  · rintro ⟨⟨name, _⟩, hmem, d, rfl, rfl⟩
    exact ⟨name, d, hmem, rfl⟩
  · rintro ⟨name, d, hmem, rfl⟩
    exact ⟨(name, some d), hmem, d, rfl, rfl⟩

theorem eq_of_mem_given (hnodup : (given.map (·.1)).Nodup) {name : String} {a b : Option Document}
    (ha : (name, a) ∈ given) (hb : (name, b) ∈ given) : a = b :=
  congrArg Prod.snd (List.inj_on_of_nodup_map hnodup ha hb rfl)

/-! ## What is given of a name -/

theorem IsObjectOf.given?_eq (h : IsObjectOf given d) (hnodup : (given.map (·.1)).Nodup)
    {name : String} {d? : Option Document} (hmem : (name, d?) ∈ given) (place : Nat) :
    d.given? name place = d? := by
  obtain ⟨members, unknown, rfl, hperm, hunknown⟩ := h
  -- a member of the name is not among the unknown ones
  have hof : ∀ m ∈ members, m.1 = some name → d? = some m.2 := by
    intro m hm hname
    obtain hgiven | hother := List.mem_append.1 (hperm.mem_iff.1 hm)
    · obtain ⟨name', d', hentry, rfl⟩ := mem_givenMembers.1 hgiven
      obtain rfl := Option.some.inj hname
      exact eq_of_mem_given hnodup hmem hentry
    · obtain ⟨⟨key, hkey, hnot⟩, -⟩ := hunknown m hother
      obtain rfl := Option.some.inj (hkey.symm.trans hname)
      exact absurd (List.mem_map_of_mem hmem) hnot
  rw [given?]
  cases hfind : members.find? fun m => m.1 == some name with
  | some m =>
    have hname : m.1 = some name := by simpa using List.find?_some hfind
    rw [hof m (List.mem_of_find?_eq_some hfind) hname]
    rfl
  | none =>
    cases d? with
    | none => rfl
    | some d =>
      have hm : (some name, d) ∈ members :=
        hperm.mem_iff.2 (List.mem_append_left _ (mem_givenMembers.2 ⟨name, d, hmem, rfl⟩))
      exact absurd (beq_self_eq_true _) (List.find?_eq_none.1 hfind _ hm)

/-! ## Reading a record -/

/-- What a record takes of a member: it is skipped, or a field decodes it. -/
inductive Takes (fields : List (Field σ)) : Option String × Document → Prop
  | skipped {key : String} {d : Document} (hkey : ∀ f ∈ fields, f.name ≠ key)
      (hd : d.isWellFormed = true) : Takes fields (some key, d)
  | taken {f : Field σ} {d : Document} (hf : f ∈ fields) {a : f.Value} (ha : f.decode d = .ok a) :
      Takes fields (some f.name, d)

variable {fields : List (Field σ)} {s : σ}

/-- Members can be read one after the other if each can be taken, no field has two of them, and the
fields that have one are not filled yet. -/
theorem exists_readMembers (hfields : Lawful fields) {members : List (Option String × Document)}
    (htakes : ∀ m ∈ members, Takes fields m)
    (hunique : members.Pairwise fun m m' => m.1 = m'.1 → ∀ f ∈ fields, m.1 ≠ some f.name)
    (hfree : ∀ f ∈ fields, ∀ m ∈ members, m.1 = some f.name → f.get s = none) :
    ∃ s', readMembers fields s members = .ok s' := by
  -- what is carried along: no field of a member that is left has been filled
  induction members generalizing s with
  | nil => exact ⟨s, rfl⟩
  | cons m rest ih =>
    obtain ⟨hm, hrest⟩ := List.forall_mem_cons.1 htakes
    obtain ⟨hother, hrestUnique⟩ := List.pairwise_cons.1 hunique
    cases hm with
    | @skipped key d hkey hd =>
      have hfind : fields.find? (fun f => f.name == key) = none :=
        List.find?_eq_none.2 fun f hf => by simpa using hkey f hf
      have hrestFree : ∀ f ∈ fields, ∀ m ∈ rest, m.1 = some f.name → f.get s = none :=
        fun f hf m hm => hfree f hf m (List.mem_cons_of_mem _ hm)
      obtain ⟨s', hs'⟩ := ih hrest hrestUnique hrestFree
      refine ⟨s', ?_⟩
      rw [readMembers, hfind]
      exact (if_pos hd).trans hs'
    | @taken f d hf a ha =>
      have hrestFree : ∀ g ∈ fields, ∀ m ∈ rest, m.1 = some g.name → g.get (f.set s a) = none := by
        intro g hg m hm hname
        have hne : f.name ≠ g.name := by
          intro heq
          rw [← heq] at hname
          exact hother m hm hname.symm f hf rfl
        rw [(hfields.apart_of_ne hg hf hne).get_set]
        exact hfree g hg m (List.mem_cons_of_mem _ hm) hname
      obtain ⟨s', hs'⟩ := ih hrest hrestUnique hrestFree
      have hempty : f.get s = none := hfree f hf _ List.mem_cons_self rfl
      have hread : f.read s d = .ok (f.set s a) := Field.read_eq_ok_iff.2 ⟨a, ha, rfl⟩
      refine ⟨s', ?_⟩
      rw [readMembers, find?_name_eq_some hfields.nodup hf]
      simp only [hempty, hread, ok_bind, hs']
      rfl

/-- The field has the name of the entry, and the record holds there what is decoded of what is
given. -/
def Holds (s : σ) (f : Field σ) (entry : String × Option Document) : Prop :=
  f.name = entry.1 ∧ Option.Rel (f.decode · = .ok ·) entry.2 (f.get s)

theorem Holds.exists_decode {f : Field σ} {name : String} (h : Holds s f (name, some d)) :
    ∃ a, f.decode d = .ok a := by
  obtain ⟨-, hrel⟩ := h
  generalize f.get s = a? at hrel
  cases hrel with
  | @some _ a hdecode => exact ⟨a, hdecode⟩

theorem Holds.get_eq {f : Field σ} {entry : String × Option Document} (h : Holds s f entry) :
    f.get s = entry.2.bind fun d => (f.decode d).toOption := by
  obtain ⟨-, hrel⟩ := h
  obtain ⟨name, d?⟩ := entry
  generalize f.get s = a? at hrel ⊢
  cases hrel with
  | none => rfl
  | some hdecode =>
    rw [Option.bind_some, hdecode]
    rfl

theorem map_name_eq (h : List.Forall₂ (Holds s) fields given) :
    fields.map (·.name) = given.map (·.1) := by
  induction h with
  | nil => rfl
  | cons hholds _ ih => rw [List.map_cons, List.map_cons, hholds.1, ih]

theorem exists_field (h : List.Forall₂ (Holds s) fields given)
    {entry : String × Option Document} (hmem : entry ∈ given) : ∃ f ∈ fields, Holds s f entry := by
  obtain ⟨i, hi, rfl⟩ := List.mem_iff_getElem.1 hmem
  have hi' : i < fields.length := h.length_eq ▸ hi
  exact ⟨fields[i], List.getElem_mem hi', h.get hi' hi⟩

theorem pairwise_of_perm {members unknown : List (Option String × Document)}
    (hnodup : (given.map (·.1)).Nodup) (hnames : fields.map (·.name) = given.map (·.1))
    (hperm : members.Perm (givenMembers given ++ unknown))
    (hunknown : ∀ m ∈ unknown, ∃ key, m.1 = some key ∧ key ∉ given.map (·.1)) :
    members.Pairwise fun m m' => m.1 = m'.1 → ∀ f ∈ fields, m.1 ≠ some f.name := by
  have hother : ∀ m ∈ unknown, ∀ f ∈ fields, m.1 ≠ some f.name := by
    intro m hm f hf hname
    obtain ⟨key, hkey, hnot⟩ := hunknown m hm
    obtain rfl := Option.some.inj (hkey.symm.trans hname)
    exact hnot (hnames ▸ List.mem_map_of_mem hf)
  have hgiven : (givenMembers given).Pairwise fun m m' => m.1 ≠ m'.1 := by
    rw [givenMembers, List.pairwise_filterMap]
    refine (List.pairwise_map.1 hnodup).imp fun hne m hm m' hm' hkey => ?_
    obtain ⟨d, -, rfl⟩ := Option.map_eq_some_iff.1 hm
    obtain ⟨d', -, rfl⟩ := Option.map_eq_some_iff.1 hm'
    exact hne (Option.some.inj hkey)
  refine hperm.symm.pairwise ?_ fun h hkey f hf => ?_
  · refine List.pairwise_append.2 ⟨hgiven.imp fun hne hkey => absurd hkey hne, ?_, ?_⟩
    · exact List.pairwise_of_forall_mem_list fun m hm m' hm' _ => hother m hm
    · intro m hm m' hm' hkey f hf
      rw [hkey]
      exact hother m' hm' f hf
  · rw [hkey]
    exact h hkey.symm f hf

theorem IsObjectOf.exists_record (h : IsObjectOf given d) (hfields : Lawful fields)
    (hholds : List.Forall₂ (Holds s) fields given) {empty : σ}
    (hempty : ∀ f ∈ fields, f.get empty = none) (origin : Origin) (title : String) :
    ∃ s', d.record origin title fields empty = .ok s' := by
  have hnames := map_name_eq hholds
  obtain ⟨members, unknown, rfl, hperm, hunknown⟩ := h
  have htakes : ∀ m ∈ members, Takes fields m := by
    intro m hm
    obtain hgiven | hother := List.mem_append.1 (hperm.mem_iff.1 hm)
    · obtain ⟨name, d, hentry, rfl⟩ := mem_givenMembers.1 hgiven
      obtain ⟨f, hf, hfield⟩ := exists_field hholds hentry
      obtain ⟨a, ha⟩ := hfield.exists_decode
      obtain rfl : f.name = name := hfield.1
      exact .taken hf ha
    · obtain ⟨⟨key, hkey, hnot⟩, hd⟩ := hunknown m hother
      obtain ⟨key?, d⟩ := m
      obtain rfl : key? = some key := hkey
      exact .skipped (fun f hf hname => hnot (hnames ▸ hname ▸ List.mem_map_of_mem hf)) hd
  have hunique := pairwise_of_perm (hnames ▸ hfields.nodup) hnames hperm fun m hm =>
    (hunknown m hm).1
  obtain ⟨s', hs'⟩ := exists_readMembers hfields htakes hunique fun f hf _ _ _ => hempty f hf
  exact ⟨s', record_object_eq_ok_iff.2 ⟨rfl, hs'⟩⟩

/-- An object of given members is read as the record that holds them. -/
theorem IsObjectOf.record_eq (h : IsObjectOf given d) (hfields : Lawful fields)
    (hholds : List.Forall₂ (Holds s) fields given) {empty : σ}
    (hempty : ∀ f ∈ fields, f.get empty = none) (origin : Origin) (title : String) :
    d.record origin title fields empty = .ok s := by
  obtain ⟨s', hs'⟩ := h.exists_record hfields hholds hempty origin title
  have hnodup : (given.map (·.1)).Nodup := map_name_eq hholds ▸ hfields.nodup
  refine hs'.trans (congrArg Except.ok (hfields.ext _ _ fun f hf => ?_))
  obtain ⟨i, hi, rfl⟩ := List.mem_iff_getElem.1 hf
  have hi' : i < given.length := hholds.length_eq ▸ hi
  have hentry : Holds s fields[i] given[i] := hholds.get hi hi'
  have hgiven : d.given? fields[i].name i = given[i].2 :=
    h.given?_eq hnodup (hentry.1 ▸ List.getElem_mem hi') i
  rw [record_get hfields (List.getElem?_eq_getElem hi) (hempty _ hf) hs', hgiven, hentry.get_eq]

/-! ## Values and their documents -/

section
variable {α β γ : Type} {R : α → β → Prop} {S : α → γ → Prop} {a? : Option α} {b? : Option β}

theorem rel_map_right (h : Option.Rel R a? b?) {f : β → γ} (hf : ∀ a b, R a b → S a (f b)) :
    Option.Rel S a? (b?.map f) := by
  cases h with
  | none => exact .none
  | some hab => exact .some (hf _ _ hab)

theorem rel_map_const {b : β} (h : ∀ a ∈ a?, R a b) : Option.Rel R a? (a?.map fun _ => b) := by
  cases a? with
  | none => exact .none
  | some a => exact .some (h a rfl)

theorem rel_map_left {f : β → α} (h : ∀ b, R (f b) b) (b? : Option β) :
    Option.Rel R (b?.map f) b? := by
  cases b? with
  | none => exact .none
  | some b => exact .some (h b)

end

theorem rel_text (s? : Option String) :
    Option.Rel (text · = .ok ·) (s?.map fun s => .string (some s)) s? := by
  refine rel_map_left (fun s => ?_) s?
  rfl

theorem rel_flag (b? : Option Bool) : Option.Rel (flag · = .ok ·) (b?.map .bool) b? := by
  refine rel_map_left (fun b => ?_) b?
  rfl

/-- The document `null` stands for no text. -/
theorem rel_optional_text (s? : Option (Option String)) :
    Option.Rel (optional text · = .ok ·)
      (s?.map fun s? => s?.elim .null fun s => .string (some s)) s? :=
  rel_map_left (fun s? => by cases s? <;> rfl) s?

theorem rel_uint64 (expected : String) (n? : Option UInt64) :
    Option.Rel (uint64 expected · = .ok ·)
      (n?.map fun n => .number (some (.integer n.toNat))) n? :=
  rel_map_left (uint64_ofNat expected) n?

end NodeAudit.Document
