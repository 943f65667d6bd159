import NodeAudit.Bench.Stress
import NodeAudit.Proofs.Files
import NodeAudit.Proofs.Json.Decode
import NodeAudit.Suite.Report

/-!
# Written reports

A report that was written is read back as it was. Its text is that of a value whose document the
decoders of the report take apart again: figures (`Figures.decode_ofJson`) and metrics
(`Metric.decode_ofJson`), whose parameters must be canonical and must not nest too deep, and from
these the reports of a stress run and of a suite.

Main statement: `written_reports_read_back`.
-/

namespace NodeAudit

open Document

variable {origin : Origin}

/-! ## Reports of a stress run -/

namespace Bench

theorem Figures.decode_ofJson (f : Figures) :
    Figures.decode origin (ofJson f.toJson) = .ok f := by
  have hresponses := uint64_ofNat "usize" f.responses
  have hfailures := uint64_ofNat "usize" f.failures
  simp [Figures.decode, Figures.toJson, ofJson, ofMembers, record, readMembers, Figures.fields,
    text, require, hresponses, hfailures]

theorem Figures.hasWholeNumbers_toJson (f : Figures) : f.toJson.hasWholeNumbers = true := by
  have hresponses := Json.hasWholeNumbers_ofNat f.responses.toNat_lt_size
  have hfailures := Json.hasWholeNumbers_ofNat f.failures.toNat_lt_size
  simp [toJson, Json.hasWholeNumbers, Json.membersWholeNumbers, hresponses, hfailures]

namespace StressReport

theorem decodeMethods_ofJson {methods : Entries Figures}
    (h : Entries.increasing methods = true) :
    decodeMethods origin (ofJson (.object (methods.map fun m => (m.1, m.2.toJson))))
      = .ok methods := by
  rw [ofJson, ofMembers_eq_map, List.map_map]
  refine bind_eq_ok_iff.2 ⟨methods, ?_, ?_⟩
  · rw [mapM_eq_ok_iff, List.map_map]
    refine List.map_congr_left fun m _ => ?_
    simp [Figures.decode_ofJson]
  · rw [if_pos rfl, Entries.sort_eq_self h]
    rfl

theorem decode_ofJson {r : StressReport} (h : Entries.increasing r.methods = true) :
    decode origin (ofJson r.toJson) = .ok r := by
  have hmethods : decodeMethods origin _ = _ := decodeMethods_ofJson h
  rw [ofJson] at hmethods
  simp [decode, toJson, ofJson, ofMembers, record, readMembers, fields, text, require, hmethods]

theorem hasWholeNumbers_toJson (r : StressReport) : r.toJson.hasWholeNumbers = true := by
  have hmethods : Json.membersWholeNumbers (r.methods.map fun m => (m.1, m.2.toJson)) = true := by
    rw [Json.membersWholeNumbers_iff]
    intro m hm
    obtain ⟨e, -, rfl⟩ := List.mem_map.1 hm
    exact e.2.hasWholeNumbers_toJson
  simp [toJson, Json.hasWholeNumbers, Json.membersWholeNumbers, hmethods]

theorem decode_pretty {r : StressReport} (h : Entries.increasing r.methods = true) :
    JsonText.decode (decode origin) r.pretty = .ok r :=
  (JsonText.decode_pretty _ r.hasWholeNumbers_toJson).trans (decode_ofJson h)

end StressReport

end Bench

/-! ## Reports of a suite -/

namespace Suite

/-- What the parameters of a call must be to be read back: the keys of objects are in order, and
numbers are integers of at most 64 bits. -/
def Metric.HasPlainParams (m : Metric) : Prop :=
  ∀ v ∈ m.params, v.isCanonical = true ∧ v.hasWholeNumbers = true

namespace Metric

theorem depth_toJson (m : Metric) {v : Json} (h : v ∈ m.params) : 2 + v.depth ≤ m.toJson.depth := by
  have hdepth := Json.depth_le_itemsDepth h
  have hne : m.params.isEmpty = false := by
    cases hp : m.params with
    | nil => simp [hp] at h
    | cons w rest => rfl
  cases herror : m.error <;>
    simp [toJson, herror, hne, Json.depth, Json.membersDepth] <;> omega

theorem decode_ofJson {m : Metric} {opened : Nat} (h : m.HasPlainParams)
    (hd : opened + m.toJson.depth ≤ maxOpen) : decode origin opened (ofJson m.toJson) = .ok m := by
  have hparams : list (any (opened + 2)) (ofJson (.array (m.params.map id))) = .ok m.params := by
    refine list_ofItems fun v hv => ?_
    have hdepth := m.depth_toJson hv
    exact any_ofJson (v := v) (h v hv).1 (by omega)
  rw [List.map_id, ofJson] at hparams
  -- an absent error and an empty list of parameters are not written, which makes four shapes
  obtain ⟨method, test, pass, duration, error, params⟩ := m
  cases error <;> cases params <;>
    simp [decode, toJson, ofJson, ofMembers, record, readMembers, fields, text, flag,
      Document.optional, require, hparams, Except.map]

theorem hasWholeNumbers_toJson {m : Metric} (h : m.HasPlainParams) :
    m.toJson.hasWholeNumbers = true := by
  have hparams : Json.allWholeNumbers m.params = true :=
    Json.allWholeNumbers_iff.2 fun v hv => (h v hv).2
  cases herror : m.error <;> cases hempty : m.params.isEmpty <;>
    simp [toJson, herror, hempty, Json.hasWholeNumbers, Json.membersWholeNumbers, hparams]

end Metric

namespace Report

variable {r : Report}

theorem depth_toJson {m : Metric} (h : m ∈ r.metrics) : 2 + m.toJson.depth ≤ r.toJson.depth := by
  have hdepth := Json.depth_le_itemsDepth (List.mem_map_of_mem (f := Metric.toJson) h)
  simp only [toJson, Json.depth, Json.membersDepth]
  omega

theorem decode_ofJson {opened : Nat} (h : ∀ m ∈ r.metrics, m.HasPlainParams)
    (hd : opened + r.toJson.depth ≤ maxOpen) : decode origin opened (ofJson r.toJson) = .ok r := by
  have hmetrics : list (Metric.decode origin (opened + 2))
      (ofJson (.array (r.metrics.map Metric.toJson))) = .ok r.metrics := by
    refine list_ofItems fun m hm => ?_
    have hdepth := depth_toJson hm
    exact Metric.decode_ofJson (h m hm) (by omega)
  rw [ofJson] at hmetrics
  simp [decode, toJson, ofJson, ofMembers, record, readMembers, fields, text, require, hmetrics]

theorem hasWholeNumbers_toJson (h : ∀ m ∈ r.metrics, m.HasPlainParams) :
    r.toJson.hasWholeNumbers = true := by
  have hmetrics : Json.allWholeNumbers (r.metrics.map Metric.toJson) = true := by
    rw [Json.allWholeNumbers_iff]
    intro v hv
    obtain ⟨m, hm, rfl⟩ := List.mem_map.1 hv
    exact Metric.hasWholeNumbers_toJson (h m hm)
  simp [toJson, Json.hasWholeNumbers, Json.membersWholeNumbers, hmetrics]

theorem decode_pretty {opened : Nat} (h : ∀ m ∈ r.metrics, m.HasPlainParams)
    (hd : opened + r.toJson.depth ≤ maxOpen) :
    JsonText.decode (decode origin opened) r.pretty = .ok r :=
  (JsonText.decode_pretty _ (hasWholeNumbers_toJson h)).trans (decode_ofJson h hd)

end Report

end Suite

/-! ## Reports in files -/

/-- **Written reports are read back.** Whatever the texts, the names of the methods and the counts,
and whatever the parameters whose numbers are integers of at most 64 bits and that do not nest too
deep: the text of a report is decoded as the report, so that the report that was decoded has the
same text. A file that it was written to holds just that text, whatever it held before. -/
theorem written_reports_read_back :
    (∀ r : Bench.StressReport,
      (Entries.increasing r.methods = true →
        JsonText.decode (Bench.StressReport.decode .text) r.pretty = .ok r ∧
        (JsonText.decode (Bench.StressReport.decode .text) r.pretty).map (·.pretty)
          = .ok r.pretty) ∧
      ∀ (t t' : Files.Tree) (path : String), t.write path r.pretty = .ok t' →
        t'.read path = .ok r.pretty) ∧
    ∀ r : Suite.Report,
      ((∀ m ∈ r.metrics, m.HasPlainParams) → r.toJson.depth ≤ 127 →
        JsonText.decode (Suite.Report.decode .text 0) r.pretty = .ok r ∧
        (JsonText.decode (Suite.Report.decode .text 0) r.pretty).map (·.pretty) = .ok r.pretty) ∧
      ∀ (t t' : Files.Tree) (path : String), t.write path r.pretty = .ok t' →
        t'.read path = .ok r.pretty := by
  refine ⟨fun r => ⟨fun h => ?_, fun t t' path hw => Files.Tree.read_of_write hw⟩,
    fun r => ⟨fun h hd => ?_, fun t t' path hw => Files.Tree.read_of_write hw⟩⟩
  · have hr : JsonText.decode (Bench.StressReport.decode .text) r.pretty = .ok r :=
      Bench.StressReport.decode_pretty h
    refine ⟨hr, ?_⟩
    rw [hr]
    rfl
  · have hdepth : 0 + r.toJson.depth ≤ maxOpen := (Nat.zero_add _).symm ▸ hd
    have hr : JsonText.decode (Suite.Report.decode .text 0) r.pretty = .ok r :=
      Suite.Report.decode_pretty h hdepth
    refine ⟨hr, ?_⟩
    rw [hr]
    rfl

/-- A report with the greatest counts and with a method whose name must be escaped. -/
def edgeStressReport : Bench.StressReport where
  addressUsed := "one1\n\"\\\u0001"
  network := "http://\u007f\ud7ff😀"
  methods := [("", ⟨"", 0, 18446744073709551615⟩), ("\u0000/é", ⟨"1ms\r", 18446744073709551615, 0⟩)]

/-- A report with nested parameters and the greatest and the least integers. -/
def edgeReport : Suite.Report where
  addressUsed := "one1"
  network := "[REDACTED_URL]"
  generatedAt := "\t"
  metrics :=
    [{ method := "m", test := "absent error, no parameters", pass := true, duration := "0ms" },
      { method := "m", test := "", pass := false, duration := "", error := some "\u001f",
        params := [.null, .array [.array [], .object []],
          .object [("", .ofInt (-9223372036854775808)), ("a", .ofInt 18446744073709551615)]] }]

/-- Both come back from a file that held a longer text before. -/
theorem written_reports_read_back_edge :
    let t := Files.Tree.ofList ["home"] [("r.json", .file (String.ofList (List.replicate 40 'x')))]
    JsonText.decode (Bench.StressReport.decode .text) edgeStressReport.pretty
        = .ok edgeStressReport ∧
      JsonText.decode (Suite.Report.decode .text 0) edgeReport.pretty = .ok edgeReport ∧
      ∃ t', t.write "r.json" edgeReport.pretty = .ok t' ∧
        t'.read "r.json" = .ok edgeReport.pretty := by
  intro t
  have hplain : ∀ m ∈ edgeReport.metrics, m.HasPlainParams := by
    unfold Suite.Metric.HasPlainParams
    decide
  have hwrite : ∃ t', t.write "r.json" edgeReport.pretty = .ok t' := by
    rw [Files.Tree.write]
    exact ⟨_, rfl⟩
  obtain ⟨hstress, hsuite⟩ := written_reports_read_back
  obtain ⟨t', ht'⟩ := hwrite
  refine ⟨((hstress edgeStressReport).1 (by decide)).1,
    ((hsuite edgeReport).1 hplain (by decide)).1, t', ht', ?_⟩
  exact (hsuite edgeReport).2 t t' "r.json" ht'

end NodeAudit
