import PlatformAudit.Proofs.Report.Registration
import PlatformAudit.Proofs.Risk.Fingerprint
import PlatformAudit.Proofs.Table

/-!
# What a report makes of findings in any order

A report sorts its findings by their identity, and its digest goes through the
fingerprints of the sorted list. Findings with the same identity may differ in
severity, category and recommendation, so the sorted lists of two permutations need
not be equal. But they show the same identities in the same order, and a fingerprint
looks at nothing else: the digest is a function of the identities, each counted as
often as it occurs (`PlatformAudit.Finding.listDigest_congr`).

The figures by severity and by category are counts, which do not look at the order at
all.
-/

namespace PlatformAudit

/-! ### Sorting -/

namespace Finding

/-- Findings tie exactly when they have the same identity. -/
theorem order_eq_iff_identity (a b : Finding) :
    order a b = .eq ↔ a.identity = b.identity :=
  order_eq_iff.trans identity_eq_iff.symm

theorem sort_perm (fs : List Finding) : (sort fs).Perm fs :=
  sortBy_perm order fs

/-- **Sorted findings show their identities in one order**, whatever order they came in. -/
theorem map_identity_sort {fs gs : List Finding}
    (h : (fs.map identity).Perm (gs.map identity)) :
    (sort fs).map identity = (sort gs).map identity :=
  map_sortBy_of_perm order_eq_iff_identity h

/-- Two findings that tie stay as they are. -/
theorem sort_pair {a b : Finding} (h : a.identity = b.identity) : sort [a, b] = [a, b] := by
  refine List.mergeSort_of_pairwise (List.pairwise_pair.mpr ?_)
  rw [(order_eq_iff_identity a b).mpr h]
  rfl

end Finding

/-! ### Figures -/

section Figures

variable {fs gs : List Finding}

theorem countBySeverity_perm (h : fs.Perm gs) : countBySeverity fs = countBySeverity gs :=
  Table.countOn_perm _ (h.map _)

theorem countByCategory_perm (h : fs.Perm gs) : countByCategory fs = countByCategory gs :=
  Table.tally_perm (h.map _)

end Figures

/-- **The digest of a report is a function of the identities of its findings**, and so is the
order in which it shows them; the figures do not depend on the order of the findings either. Only
findings with the same identity may stand in another order in the reports of two permutations:
two of them stay in the order they came in. -/
theorem report_of_perm (run : RunOutput) :
    (∀ fs gs : List Finding, fs.Perm gs →
      (run.report fs).summary.findingsDigest = (run.report gs).summary.findingsDigest ∧
        (run.report fs).summary.bySeverity = (run.report gs).summary.bySeverity ∧
        (run.report fs).summary.byCategory = (run.report gs).summary.byCategory ∧
        (run.report fs).findings.map Finding.identity =
          (run.report gs).findings.map Finding.identity) ∧
    (∀ fs gs : List Finding, (fs.map Finding.identity).Perm (gs.map Finding.identity) →
      (run.report fs).summary.findingsDigest = (run.report gs).summary.findingsDigest ∧
        (run.report fs).findings.map Finding.identity =
          (run.report gs).findings.map Finding.identity) ∧
    ∀ a b : Finding, a.identity = b.identity → a ≠ b →
      (run.report [a, b]).findings = [a, b] ∧ (run.report [b, a]).findings = [b, a] ∧
        (run.report [a, b]).findings ≠ (run.report [b, a]).findings := by
  have hidentities : ∀ fs gs : List Finding,
      (fs.map Finding.identity).Perm (gs.map Finding.identity) →
      (run.report fs).summary.findingsDigest = (run.report gs).summary.findingsDigest ∧
        (run.report fs).findings.map Finding.identity =
          (run.report gs).findings.map Finding.identity := by
    intro fs gs h
    have hsorted := Finding.map_identity_sort h
    exact ⟨Finding.listDigest_congr hsorted, hsorted⟩
  refine ⟨fun fs gs h => ?_, hidentities, fun a b hident hne => ?_⟩
  · obtain ⟨hdigest, hshown⟩ := hidentities fs gs (h.map _)
    have hperm : (Finding.sort fs).Perm (Finding.sort gs) :=
      ((Finding.sort_perm fs).trans h).trans (Finding.sort_perm gs).symm
    exact ⟨hdigest, countBySeverity_perm hperm, countByCategory_perm hperm, hshown⟩
  · have hab : (run.report [a, b]).findings = [a, b] := Finding.sort_pair hident
    have hba : (run.report [b, a]).findings = [b, a] := Finding.sort_pair hident.symm
    refine ⟨hab, hba, ?_⟩
    rw [hab, hba]
    exact fun heq => hne (List.cons.inj heq).1

/-- One finding twice, once grave and once not, and another one. -/
theorem report_of_perm_tie :
    let run : RunOutput :=
      { sourceId := "tie", clock := epoch, unitsScanned := 1, packages := [], findings := []
        ruleFailures := [], skippedUnits := [] }
    let grave := Finding.create "T1" .general .high "a.cs" 1 "found" ""
    let slight := Finding.create "T1" .security .low "a.cs" 1 "found" "see to it"
    let other := Finding.create "T1" .general .low "a.cs" 2 "found" ""
    [grave, slight, other].Perm [other, slight, grave] ∧
      grave.identity = slight.identity ∧ grave ≠ slight ∧
      (run.report [grave, slight, other]).summary.findingsDigest =
        (run.report [other, slight, grave]).summary.findingsDigest ∧
      (run.report [grave, slight]).findings ≠ (run.report [slight, grave]).findings := by
  intro run grave slight other
  have hperm : [grave, slight, other].Perm [other, slight, grave] :=
    (List.reverse_perm [other, slight, grave])
  have hident : grave.identity = slight.identity := rfl
  have hne : grave ≠ slight := by decide
  obtain ⟨hany, -, htie⟩ := report_of_perm run
  exact ⟨hperm, hident, hne, (hany _ _ hperm).1, (htie grave slight hident hne).2.2⟩

end PlatformAudit
