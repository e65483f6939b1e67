import PlatformAudit.Document.Report
import PlatformAudit.Proofs.Json.Real
import PlatformAudit.Proofs.Json.Record
import PlatformAudit.Proofs.Time.Timestamp

/-!
# Documents of reports

A report that is written as a document and read again is the same report, but for the
part of its duration that a document does not keep
(`PlatformAudit.report_document_readBack`). Writing it once more gives the same document.

Of the numbers in a report this asks no more than that a document can hold them: counts
have 64 bits (`PlatformAudit.Report.CountsFit`), and the instant is one that there is.
The effort is another matter. A double is read by scaling its digits in one floating-point
operation, which may be off by a unit in the last place, so that this one double is read
back is an assumption (`PlatformAudit.ReadBack`).
-/

namespace PlatformAudit

open Json

/-! ### Names -/

theorem Severity.named?_name (s : Severity) : Decoder.named? known s.name = some s := by
  cases s <;> rfl

theorem Severity.reads_encode (room : Nat) (s : Severity) : decoder.Reads room s.encode s := by
  rw [decoder, encode]
  exact Decoder.variant_reads room _ s.named?_name

theorem Category.named?_name (c : Category) : Decoder.named? known c.name = some c := by
  cases c <;> rfl

theorem Category.reads_encode (room : Nat) (c : Category) : decoder.Reads room c.encode c := by
  rw [decoder, encode]
  exact Decoder.variant_reads room _ c.named?_name

theorem Stage.named?_name (s : Stage) : Decoder.named? known s.name = some s := by
  cases s <;> rfl

theorem Stage.reads_encode (room : Nat) (s : Stage) : decoder.Reads room s.encode s := by
  rw [decoder, encode]
  exact Decoder.variant_reads room _ s.named?_name

/-! ### The parts of a report -/

theorem Finding.reads_encode (room : Nat) (f : Finding) : Finding.decoder.Reads room f.encode f :=
  (Record.Reads.build Finding.mk).required "file" (Decoder.text_reads (room - 1) f.file)
    |>.required "line" (Decoder.word32_reads _ f.line)
    |>.required "message" (Decoder.text_reads _ f.message)
    |>.required "recommendation" (Decoder.text_reads _ f.recommendation)
    |>.required "severity" (f.severity.reads_encode _)
    |>.required "category" (f.category.reads_encode _)
    |>.required "ruleId" (Decoder.text_reads _ f.ruleId)
    |>.decoder "Finding" (by decide)

theorem RuleFailure.reads_encode (room : Nat) (f : RuleFailure) :
    RuleFailure.decoder.Reads room f.encode f :=
  (Record.Reads.build RuleFailure.mk).required "rule_id" (Decoder.text_reads (room - 1) f.ruleId)
    |>.fieldIf "unit" f.unit (Decoder.text_reads _) Value.text_ne_null
    |>.required "message" (Decoder.text_reads _ f.message)
    |>.decoder "RuleFailure" (by decide)

theorem SkippedUnit.reads_encode (room : Nat) (u : SkippedUnit) :
    SkippedUnit.decoder.Reads room u.encode u :=
  (Record.Reads.build SkippedUnit.mk).required "path" (Decoder.text_reads (room - 1) u.path)
    |>.required "reason" (Decoder.text_reads _ u.reason)
    |>.decoder "SkippedUnit" (by decide)

theorem Tool.reads_encode (room : Nat) (t : Tool) : Tool.decoder.Reads room t.encode t :=
  (Record.Reads.build Tool.mk).required "name" (Decoder.text_reads (room - 1) t.name)
    |>.required "version" (Decoder.text_reads _ t.version)
    |>.required "rule_catalog_version" (Decoder.text_reads _ t.catalogVersion)
    |>.decoder "ToolInfo" (by decide)

theorem Finding.levels_encode_le (f : Finding) : f.encode.levels ≤ 1 :=
  Value.levels_record_le_iff.mpr (by simp [Severity.encode, Category.encode])

theorem RuleFailure.levels_encode_le (f : RuleFailure) : f.encode.levels ≤ 1 := by
  refine Value.levels_record_le_iff.mpr ?_
  cases f.unit <;> simp [Value.fieldIf]

theorem SkippedUnit.levels_encode_le (u : SkippedUnit) : u.encode.levels ≤ 1 :=
  Value.levels_record_le_iff.mpr (by simp)

theorem Tool.levels_encode_le (t : Tool) : t.encode.levels ≤ 1 :=
  Value.levels_record_le_iff.mpr (by simp)

/-! ### Instants and figures -/

theorem Time.Timestamp.reads_encode (room : Nat) {t : Timestamp} (h : t.Valid) :
    decoder.Reads room t.encode t where
  written := Literal.written_ofString t.toText
  read := by
    have hlevels : t.encode.levels = 0 := rfl
    rw [hlevels, within_zero, encode, Value.text, decoder, Literal.text_ofString]
    simp only [bind, Except.bind, parse_toText h]
    rfl

/-- A double whose document is read as the double itself. -/
def ReadBack (x : Float) : Prop :=
  ∀ room, Decoder.real room (.real x) = .ok x

theorem ReadBack.reads {x : Float} (h : ReadBack x) (room : Nat) :
    Decoder.real.Reads room (.real x) x where
  written := Value.written_real x
  read := by rw [Value.levels_real, within_zero, h]

/-- The counts of these figures are numbers of 64 bits. -/
structure Summary.CountsFit (s : Summary) : Prop where
  bySeverity : ∀ e ∈ s.bySeverity.entries, e.2 < UInt64.size
  byCategory : ∀ e ∈ s.byCategory.entries, e.2 < UInt64.size

/-- The counts of a report are numbers of 64 bits. -/
structure Report.CountsFit (r : Report) : Prop where
  unitsScanned : r.unitsScanned < UInt64.size
  inventory : ∀ e ∈ r.dependencyInventory.entries, e.2 < UInt64.size
  summary : r.summary.CountsFit

theorem Summary.reads_encode (room : Nat) {s : Summary} (hcounts : s.CountsFit)
    (hreal : ReadBack s.totalEffort) : Summary.decoder.Reads room s.encode s := by
  have hseverity := Decoder.table_reads (room - 1) s.bySeverity
    (fun severity => Key.named_ofString severity.named?_name)
    fun severity n hn => Decoder.count_reads _ (hcounts.bySeverity (severity, n) hn)
  have hcategory := Decoder.table_reads (room - 1) s.byCategory
    (fun category => Key.named_ofString category.named?_name)
    fun category n hn => Decoder.count_reads _ (hcounts.byCategory (category, n) hn)
  exact (Record.Reads.build Summary.mk).required "by_severity" hseverity
    |>.required "by_category" hcategory
    |>.required "total_effort_days" (hreal.reads _)
    |>.required "findings_digest" (Decoder.text_reads _ s.findingsDigest)
    |>.decoder "ResultSummary" (by decide)

theorem Summary.levels_encode_le (s : Summary) : s.encode.levels ≤ 2 := by
  refine Value.levels_record_le_iff.mpr ?_
  simp only [List.forall_mem_cons]
  refine ⟨?_, ?_, ?_, Nat.zero_le 1, List.forall_mem_nil _⟩
  · exact Value.levels_table_le_iff.mpr fun e _ => Nat.le_refl 0
  · exact Value.levels_table_le_iff.mpr fun e _ => Nat.le_refl 0
  · exact Nat.le_succ_of_le (Nat.le_of_eq (Value.levels_real s.totalEffort))

/-! ### Reports -/

namespace Report

theorem durationDecoder_reads (room nanos : Nat) :
    durationDecoder.Reads room (.nat (wholeMillis nanos)) (wholeMillis nanos * nanosPerMilli) := by
  have hlt : wholeMillis nanos < UInt64.size :=
    Nat.lt_of_le_of_lt (Nat.min_le_right _ _) (by decide)
  exact (Decoder.natural64_reads room hlt).map (· * nanosPerMilli)

/-- A report with its duration cut down to the whole milliseconds that a document keeps. -/
def inWholeMillis (r : Report) : Report :=
  { r with durationNanos := wholeMillis r.durationNanos * nanosPerMilli }

theorem reads_encode (room : Nat) {r : Report} (hcounts : r.CountsFit)
    (htime : r.timestamp.Valid) (hreal : ReadBack r.summary.totalEffort) :
    Report.decoder.Reads room r.encode r.inWholeMillis := by
  have hinventory := Decoder.table_reads (room - 1) r.dependencyInventory Literal.text_ofString
    fun name n hn => Decoder.count_reads _ (hcounts.inventory (name, n) hn)
  have hfindings := Decoder.list_reads (room - 1) r.findings fun f _ => f.reads_encode _
  have hfailures := Decoder.list_reads (room - 1) r.ruleFailures fun f _ => f.reads_encode _
  have hskipped := Decoder.list_reads (room - 1) r.skippedUnits fun u _ => u.reads_encode _
  exact (Record.Reads.build Report.mk).required "schema_version"
      (Decoder.text_reads _ r.schemaVersion)
    |>.required "tool" (r.tool.reads_encode _)
    |>.required "timestamp" (Time.Timestamp.reads_encode _ htime)
    |>.required "source_id" (Decoder.text_reads _ r.sourceId)
    |>.required "status" (r.status.reads_encode _)
    |>.required "duration_ms" (durationDecoder_reads _ r.durationNanos)
    |>.required "units_scanned" (Decoder.count_reads _ hcounts.unitsScanned)
    |>.required "dependency_inventory" hinventory
    |>.required "findings" hfindings
    |>.required "rule_failures" hfailures
    |>.required "skipped_units" hskipped
    |>.required "summary" (r.summary.reads_encode _ hcounts.summary hreal)
    |>.decoder "AnalysisResult" (by decide)

/-- A report has three levels: itself, its lists and tables, and what they hold. -/
theorem levels_encode_le (r : Report) : r.encode.levels ≤ 3 := by
  refine Value.levels_record_le_iff.mpr ?_
  simp only [List.forall_mem_cons]
  refine ⟨Nat.zero_le 2, ?_, Nat.zero_le 2, Nat.zero_le 2, Nat.zero_le 2, Nat.zero_le 2,
    Nat.zero_le 2, ?_, ?_, ?_, ?_, ?_, List.forall_mem_nil _⟩
  · exact Nat.le_succ_of_le r.tool.levels_encode_le
  · exact Value.levels_table_le_iff.mpr fun e _ => Nat.zero_le 1
  · exact Value.levels_list_map_le Finding.levels_encode_le r.findings
  · exact Value.levels_list_map_le RuleFailure.levels_encode_le r.ruleFailures
  · exact Value.levels_list_map_le SkippedUnit.levels_encode_le r.skippedUnits
  · exact r.summary.levels_encode_le

/-- A document has nothing of a duration but its whole milliseconds. -/
theorem encode_inWholeMillis (r : Report) : r.inWholeMillis.encode = r.encode := by
  have hmillis : wholeMillis (wholeMillis r.durationNanos * nanosPerMilli) =
      wholeMillis r.durationNanos := by
    rw [wholeMillis, Nat.mul_div_cancel _ (by decide)]
    exact Nat.min_eq_left (Nat.min_le_right _ _)
  rw [encode, encode, inWholeMillis, hmillis]

end Report

/-- **A report is read back from its document** with nothing lost but the part of its duration
that is less than a millisecond or does not fit 64 bits; and what is read back has the same
document. -/
theorem report_document_readBack {r : Report} (hcounts : r.CountsFit)
    (htime : r.timestamp.Valid) (hreal : ReadBack r.summary.totalEffort) :
    (Document.read r.encode.toText).decode Report.decoder =
        .ok { r with durationNanos := min (r.durationNanos / 1000000) (2 ^ 64 - 1) * 1000000 } ∧
      ∀ s, (Document.read r.encode.toText).decode Report.decoder = .ok s →
        s.encode.toText = r.encode.toText := by
  have hlevels : r.encode.levels ≤ nestingLimit := Nat.le_trans r.levels_encode_le (by decide)
  have hread : (Document.read r.encode.toText).decode Report.decoder = .ok r.inWholeMillis := by
    rw [(Report.reads_encode nestingLimit hcounts htime hreal).decode_toText,
      within_of_le hlevels]
  refine ⟨hread, fun s hs => ?_⟩
  obtain rfl : r.inWholeMillis = s := Except.ok.inj (hread.symm.trans hs)
  rw [r.encode_inWholeMillis]

/-- A report of a run that began in a leap second and took almost two milliseconds. -/
def leapSecondReport : Report where
  timestamp := ⟨1483228799, 1250000000⟩
  sourceId := "legacy"
  status := .complete
  durationNanos := 1999999
  unitsScanned := 2
  dependencyInventory := Table.empty.insert "log4net" 1
  findings := [⟨"a.cs", 7, "reads \"HKLM\"\n", "", .high, .platformApi, "WIN001"⟩]
  ruleFailures := [⟨"FS001", none, "cancelled"⟩, ⟨"FS001", some "b.cs", "no tree"⟩]
  skippedUnits := [⟨"c.cs", "locked"⟩]
  summary :=
    { bySeverity := Table.empty.insert .high 1
      byCategory := Table.empty.insert .platformApi 1
      totalEffort := 3.5
      findingsDigest := "00" }

theorem report_document_readBack_leapSecond :
    (leapSecondReport.CountsFit ∧ leapSecondReport.timestamp.Valid ∧
        ReadBack leapSecondReport.summary.totalEffort) ∧
      (Document.read leapSecondReport.encode.toText).decode Report.decoder =
        .ok { leapSecondReport with durationNanos := 1000000 } := by
  have hcounts : leapSecondReport.CountsFit :=
    ⟨by decide, by decide, ⟨by decide, by decide⟩⟩
  have hreal : ReadBack leapSecondReport.summary.totalEffort := fun _ => rfl
  have htime : leapSecondReport.timestamp.Valid :=
    ⟨by decide, by decide, by decide, by decide⟩
  exact ⟨⟨hcounts, htime, hreal⟩, (report_document_readBack hcounts htime hreal).1⟩

end PlatformAudit
