import NodeAudit.Proofs.Cli.Endpoint
import NodeAudit.Proofs.Json.Compact
import NodeAudit.Proofs.Json.Members

/-!
# Settings that are given in part

`Harness.Fields` and `Bench.Fields` hold a value for some of the fields of a section. `Gives` says
that a document gives these and no others, in any order and among members of unknown names. What is
decoded of it is the default with what is given in its place (`decode_of_gives`), whether a field is
missing or its section.

Main statement: `decode_partial`. The encoding of settings gives all of their fields, so that they
are read back, and what gives nothing is the default.
-/

namespace NodeAudit.Config

open Document

variable {origin : Origin} {d : Document}

/-! ## Sections -/

namespace Harness

/-- The values of the fields as documents. The outer option tells whether a field is given. -/
def Fields.given (g : Fields) : List (String × Option Document) :=
  [("net_url", g.netUrl.map fun s => .string (some s)),
    ("address", g.address.map fun a? => a?.elim .null fun s => .string (some s)),
    ("request_timeout_secs", g.requestTimeoutSecs.map fun n => .number (some (.integer n.toNat))),
    ("report_path", g.reportPath.map fun s => .string (some s)),
    ("strict_envelope", g.strictEnvelope.map .bool)]

/-- The section with the given values in place of its own. An address that is `null` is none. -/
def replace (h : Harness) (g : Fields) : Harness where
  netUrl := g.netUrl.getD h.netUrl
  address := g.address.join <|> h.address
  requestTimeoutSecs := g.requestTimeoutSecs.getD h.requestTimeoutSecs
  reportPath := g.reportPath.getD h.reportPath
  strictEnvelope := g.strictEnvelope.getD h.strictEnvelope

theorem holds_given (g : Fields) : List.Forall₂ (Holds g) fields g.given :=
  .cons ⟨rfl, rel_text _⟩ <| .cons ⟨rfl, rel_optional_text _⟩ <| .cons ⟨rfl, rel_uint64 _ _⟩ <|
    .cons ⟨rfl, rel_text _⟩ <| .cons ⟨rfl, rel_flag _⟩ .nil

theorem Fields.complete_eq (g : Fields) : g.complete = ({} : Harness).replace g := by
  have hjoin : (g.address.join <|> none) = g.address.join := by cases g.address.join <;> rfl
  rw [complete, replace, hjoin]

/-- A section that gives some of its fields is the default with these in their place. -/
theorem decode_of_isObjectOf {g : Fields} (h : IsObjectOf g.given d) (origin : Origin) :
    decode origin d = .ok (({} : Harness).replace g) := by
  rw [decode, h.record_eq lawful_fields (holds_given g) (by simp [fields]), ← Fields.complete_eq]
  rfl

end Harness

namespace Bench

/-- The values of the fields as documents. -/
def Fields.given (g : Fields) : List (String × Option Document) :=
  [("method", g.method.map fun s => .string (some s)),
    ("requests", g.requests.map fun n => .number (some (.integer n.toNat))),
    ("max_concurrent", g.maxConcurrent.map fun n => .number (some (.integer n.toNat)))]

/-- The section with the given values in place of its own. -/
def replace (b : Bench) (g : Fields) : Bench where
  method := g.method.getD b.method
  requests := g.requests.getD b.requests
  maxConcurrent := g.maxConcurrent.getD b.maxConcurrent

theorem lawful_fields : Lawful fields where
  nodup := by decide
  get_set := by simp [fields]
  apart := by simp [fields, Field.apart_iff]
  ext := by
    rintro ⟨⟩ ⟨⟩ h
    simpa [fields] using h

theorem holds_given (g : Fields) : List.Forall₂ (Holds g) fields g.given :=
  .cons ⟨rfl, rel_text _⟩ <| .cons ⟨rfl, rel_uint64 _ _⟩ <| .cons ⟨rfl, rel_uint64 _ _⟩ .nil

theorem Fields.complete_eq (g : Fields) : g.complete = ({} : Bench).replace g := rfl

theorem decode_of_isObjectOf {g : Fields} (h : IsObjectOf g.given d) (origin : Origin) :
    decode origin d = .ok (({} : Bench).replace g) := by
  rw [decode, h.record_eq lawful_fields (holds_given g) (by simp [fields]), ← Fields.complete_eq]
  rfl

end Bench

/-! ## Settings -/

/-- The document gives some fields of some sections. -/
def Gives (d : Document) (harness? : Option Harness.Fields) (bench? : Option Bench.Fields) : Prop :=
  ∃ harnessDocument? benchDocument?,
    IsObjectOf [("harness", harnessDocument?), ("bench", benchDocument?)] d ∧
    Option.Rel (fun d g => IsObjectOf g.given d) harnessDocument? harness? ∧
    Option.Rel (fun d g => IsObjectOf g.given d) benchDocument? bench?

/-- The settings with the given values in place of their own. -/
def replace (c : Config) (harness? : Option Harness.Fields) (bench? : Option Bench.Fields) :
    Config where
  harness := harness?.elim c.harness c.harness.replace
  bench := bench?.elim c.bench c.bench.replace

variable {harness? : Option Harness.Fields} {bench? : Option Bench.Fields}

/-- What is decoded of a document that gives some fields is the default with these in their
place. -/
theorem decode_of_gives (h : Gives d harness? bench?) (origin : Origin) :
    decode origin d = .ok (({} : Config).replace harness? bench?) := by
  obtain ⟨harnessDocument?, benchDocument?, hobject, hharness, hbench⟩ := h
  have hharnessRel : Option.Rel (Harness.decode origin · = .ok ·) harnessDocument?
      (harness?.map ({} : Harness).replace) :=
    rel_map_right hharness fun _ _ hgiven => Harness.decode_of_isObjectOf hgiven origin
  have hbenchRel : Option.Rel (Bench.decode origin · = .ok ·) benchDocument?
      (bench?.map ({} : Bench).replace) :=
    rel_map_right hbench fun _ _ hgiven => Bench.decode_of_isObjectOf hgiven origin
  have hholds : List.Forall₂ (Holds ⟨harness?.map ({} : Harness).replace,
      bench?.map ({} : Bench).replace⟩) (fields origin)
      [("harness", harnessDocument?), ("bench", benchDocument?)] :=
    .cons ⟨rfl, hharnessRel⟩ <| .cons ⟨rfl, hbenchRel⟩ .nil
  rw [decode, hobject.record_eq lawful_fields hholds (by simp [fields])]
  simp only [ok_bind, replace]
  cases harness? <;> cases bench? <;> rfl

/-! ## Encoded settings -/

/-- All fields of the section. -/
def Harness.whole (h : Harness) : Harness.Fields :=
  ⟨some h.netUrl, some h.address, some h.requestTimeoutSecs, some h.reportPath,
    some h.strictEnvelope⟩

/-- All fields of the section. -/
def Bench.whole (b : Bench) : Bench.Fields := ⟨some b.method, some b.requests, some b.maxConcurrent⟩

theorem Harness.isObjectOf_toJson (h : Harness) : IsObjectOf h.whole.given (.ofJson h.toJson) := by
  have hmembers : Document.ofJson h.toJson = .object (givenMembers h.whole.given) true := by
    obtain ⟨netUrl, address, requestTimeoutSecs, reportPath, strictEnvelope⟩ := h
    cases address <;> rfl
  rw [hmembers]
  exact isObjectOf_givenMembers _

theorem Bench.isObjectOf_toJson (b : Bench) : IsObjectOf b.whole.given (.ofJson b.toJson) :=
  isObjectOf_givenMembers b.whole.given

theorem gives_toJson (c : Config) :
    Gives (.ofJson c.toJson) (some c.harness.whole) (some c.bench.whole) :=
  ⟨some (.ofJson c.harness.toJson), some (.ofJson c.bench.toJson), isObjectOf_givenMembers _,
    .some c.harness.isObjectOf_toJson, .some c.bench.isObjectOf_toJson⟩

/-- Nothing is left of the default where all fields are given. -/
theorem replace_whole (c : Config) :
    ({} : Config).replace (some c.harness.whole) (some c.bench.whole) = c := by
  obtain ⟨⟨netUrl, address, requestTimeoutSecs, reportPath, strictEnvelope⟩, bench⟩ := c
  cases address <;> rfl

theorem hasWholeNumbers_toJson (c : Config) : c.toJson.hasWholeNumbers = true := by
  cases haddress : c.harness.address <;>
    simp [toJson, Harness.toJson, Bench.toJson, haddress, Json.hasWholeNumbers,
      Json.membersWholeNumbers, Json.hasWholeNumbers_ofNat (UInt64.toNat_lt _)]

/-! ## Empty settings -/

theorem Harness.isObjectOf_empty : IsObjectOf ({} : Harness.Fields).given (.object [] true) :=
  isObjectOf_givenMembers _

theorem Bench.isObjectOf_empty : IsObjectOf ({} : Bench.Fields).given (.object [] true) :=
  isObjectOf_givenMembers _

/-- Settings with empty sections or none are the default. -/
theorem decode_of_empty {harnessDocument? benchDocument? : Option Document}
    (h : IsObjectOf [("harness", harnessDocument?), ("bench", benchDocument?)] d)
    (hharness : ∀ d ∈ harnessDocument?, d = .object [] true)
    (hbench : ∀ d ∈ benchDocument?, d = .object [] true) (origin : Origin) :
    decode origin d = .ok {} := by
  have hharnessRel : Option.Rel (fun d g => IsObjectOf g.given d) harnessDocument?
      (harnessDocument?.map fun _ => ({} : Harness.Fields)) :=
    rel_map_const fun d hd => hharness d hd ▸ Harness.isObjectOf_empty
  have hbenchRel : Option.Rel (fun d g => IsObjectOf g.given d) benchDocument?
      (benchDocument?.map fun _ => ({} : Bench.Fields)) :=
    rel_map_const fun d hd => hbench d hd ▸ Bench.isObjectOf_empty
  rw [decode_of_gives ⟨_, _, h, hharnessRel, hbenchRel⟩]
  cases harnessDocument? <;> cases benchDocument? <;> rfl

/-- **Settings that are given in part fall back field by field.** A document may give any fields of
any sections, in any order and among members of unknown names. What is decoded of it is the default
with the given values in place of its own; so it is for the text of such a document in JSON, and for
a file of such a document in TOML. Hence settings are decoded from what encodes them, as a document
or as a text, and what has empty sections or none is the default. -/
theorem decode_partial :
    (∀ origin d harness? bench?, Gives d harness? bench? →
      decode origin d = .ok (({} : Config).replace harness? bench?)) ∧
    (∀ text d harness? bench?, JsonText.read text = ⟨d, false⟩ → Gives d harness? bench? →
      JsonText.decode (decode .text) text = .ok (({} : Config).replace harness? bench?)) ∧
    (∀ text d harness? bench?, Toml.read text = some d → Gives d harness? bench? →
      parse text = .ok (({} : Config).replace harness? bench?)) ∧
    (∀ origin (c : Config), decode origin (.ofJson c.toJson) = .ok c ∧
      JsonText.decode (decode .text) c.toJson.pretty = .ok c ∧
      JsonText.decode (decode .text) c.toJson.compact = .ok c) ∧
    ∀ origin d harnessDocument? benchDocument?,
      IsObjectOf [("harness", harnessDocument?), ("bench", benchDocument?)] d →
      (∀ d ∈ harnessDocument?, d = .object [] true) →
      (∀ d ∈ benchDocument?, d = .object [] true) → decode origin d = .ok {} := by
  have hback : ∀ origin (c : Config), decode origin (.ofJson c.toJson) = .ok c :=
    fun origin c => (decode_of_gives (gives_toJson c) origin).trans (congrArg _ (replace_whole c))
  refine ⟨fun origin d harness? bench? h => decode_of_gives h origin,
    fun text d harness? bench? hread h => ?_, fun text d harness? bench? hread h => ?_,
    fun origin c => ⟨hback origin c, ?_, ?_⟩,
    fun origin d harness? bench? h hharness hbench => decode_of_empty h hharness hbench origin⟩
  · rw [JsonText.decode_of_read hread, decode_of_gives h]
  · exact parse_eq_ok_iff.2 ⟨d, hread, decode_of_gives h .table⟩
  · rw [JsonText.decode_pretty _ c.hasWholeNumbers_toJson, hback]
  · rw [JsonText.decode_compact _ c.hasWholeNumbers_toJson, hback]

/-- A section with its fields in another order, and an address that is `null`. -/
def shuffledHarness : Json := .object [("strict_envelope", .bool true), ("address", .null)]

/-- A section with a member of an unknown name. -/
def shuffledBench : Json := .object [("extra", .bool true), ("requests", .ofNat 7)]

/-- Settings with their sections in another order, and a member of an unknown name. -/
def shuffledSettings : Json :=
  .object [("note", .null), ("bench", shuffledBench), ("harness", shuffledHarness)]

/-- What the settings give is kept, all else is the default, and so are empty settings. -/
theorem decode_partial_shuffled :
    JsonText.decode (decode .text) shuffledSettings.pretty
        = .ok { harness := { strictEnvelope := true }, bench := { requests := 7 } } ∧
      decode .value (.ofJson shuffledSettings)
        = .ok { harness := { strictEnvelope := true }, bench := { requests := 7 } } ∧
      parse "" = .ok {} ∧ decode .text (.object [] true) = .ok {} := by
  have hharness : IsObjectOf
      ({ address := some none, strictEnvelope := some true } : Harness.Fields).given
      (.ofJson shuffledHarness) :=
    ⟨_, [], rfl, .swap .., List.forall_mem_nil _⟩
  have hbench : IsObjectOf ({ requests := some 7 } : Bench.Fields).given
      (.ofJson shuffledBench) :=
    ⟨_, [(some "extra", .bool true)], rfl, .swap .., by simp [Bench.Fields.given, isWellFormed]⟩
  have hsettings : IsObjectOf [("harness", some (.ofJson shuffledHarness)),
      ("bench", some (.ofJson shuffledBench))] (.ofJson shuffledSettings) :=
    ⟨_, [(some "note", .null)], rfl,
      List.reverse_perm [(some "harness", Document.ofJson shuffledHarness),
        (some "bench", Document.ofJson shuffledBench), (some "note", Document.null)],
      by simp [isWellFormed]⟩
  have hgives := (⟨_, _, hsettings, .some hharness, .some hbench⟩ :
    Gives (.ofJson shuffledSettings) (some _) (some _))
  have hempty : IsObjectOf [("harness", none), ("bench", none)] (.object [] true) :=
    isObjectOf_givenMembers _
  have hread : JsonText.read shuffledSettings.pretty = ⟨.ofJson shuffledSettings, false⟩ :=
    JsonText.read_pretty (by decide)
  obtain ⟨hdecode, htext, htoml, -, hdefault⟩ := decode_partial
  exact ⟨htext _ _ _ _ hread hgives, hdecode _ _ _ _ hgives,
    htoml "" _ none none rfl ⟨none, none, hempty, .none, .none⟩,
    hdefault _ _ none none hempty nofun nofun⟩

end NodeAudit.Config
