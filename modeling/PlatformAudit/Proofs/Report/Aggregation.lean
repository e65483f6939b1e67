import Mathlib.Algebra.BigOperators.Group.Finset.Basic
import Mathlib.Algebra.GroupWithZero.Nat
import Mathlib.Data.Prod.Lex
import Mathlib.Order.WithBot
import PlatformAudit.Proofs.Report.StableSort
import PlatformAudit.Proofs.Table
import PlatformAudit.Proofs.Text.ByteOrder

/-!
# What a report makes of a run

A report sorts three lists and counts three kinds of things. That nothing gets lost on the
way, and nothing is added, is said of each list by its relation to the list it was made of
(`PlatformAudit.StablySorted`) and of each table by its relation to the list that was
counted (`PlatformAudit.Table.Counts`).

The three lists are sorted by different keys, and no key takes in all of an entry. The
keys are given here as values of ordered types, with texts as sequences of bytes, and it is
shown that the comparisons of a report go by them (`PlatformAudit.GoesBy`). Everything else
about sorting was said of any comparison.
-/

namespace PlatformAudit

open Text

/-! ### Sorting by a key -/

section Keys

variable {α κ ι : Type} [LinearOrder κ] [LinearOrder ι]

/-- **A list is sorted by a key, and stably**: it is a permutation of the list it was made of, its
keys ascend, and entries with the same key stand in the order in which they came. -/
structure StablySorted (key : α → κ) (given sorted : List α) : Prop where
  perm : sorted.Perm given
  inOrder : sorted.Pairwise fun a b => key a ≤ key b
  tiesKept : ∀ k, (sorted.filter fun a => key a = k) = given.filter fun a => key a = k

/-- A comparison goes by a key. -/
structure GoesBy (cmp : α → α → Ordering) (key : α → κ) : Prop where
  lt_iff : ∀ a b, cmp a b = .lt ↔ key a < key b
  eq_iff : ∀ a b, cmp a b = .eq ↔ key a = key b

variable {cmp cmp' : α → α → Ordering} {key : α → κ} {key' : α → ι}

theorem GoesBy.isLE_iff (h : GoesBy cmp key) (a b : α) :
    (cmp a b).isLE = true ↔ key a ≤ key b := by
  rw [Ordering.isLE_iff_eq_lt_or_eq_eq, h.lt_iff, h.eq_iff, le_iff_lt_or_eq]

/-- One comparison after the other goes by both keys, the first one first. -/
theorem GoesBy.lex (h : GoesBy cmp key) (h' : GoesBy cmp' key') :
    GoesBy (compareLex cmp cmp') fun a => toLex (key a, key' a) where
  lt_iff a b := by
    rw [compareLex, Ordering.then_eq_lt, h.lt_iff, h.eq_iff, h'.lt_iff, Prod.Lex.toLex_lt_toLex]
  eq_iff a b := by
    rw [compareLex_eq_eq, h.eq_iff, h'.eq_iff, toLex_inj, Prod.mk.injEq]

/-- **Sorting by a comparison is sorting by the key that it goes by.** -/
theorem GoesBy.stablySorted [Std.TransCmp cmp] (h : GoesBy cmp key) (given : List α) :
    StablySorted key given (sortBy cmp given) where
  perm := sortBy_perm cmp given
  inOrder := (pairwise_sortBy given).imp fun hle => (h.isLE_iff _ _).mp hle
  tiesKept k := by
    have hclass (a : α) (xs : List α) :
        (xs.filter fun b => key b = key a) = classOf cmp a xs := by
      refine List.filter_congr fun b _ => ?_
      rw [Bool.eq_iff_iff, decide_eq_true_iff, beq_iff_eq, h.eq_iff, eq_comm]
    by_cases hk : ∃ a ∈ given, key a = k
    · obtain ⟨a, -, rfl⟩ := hk
      rw [hclass, hclass, classOf_sortBy]
    · -- no entry has the key, before or after
      have hnone (xs : List α) (hxs : xs.Perm given) : (xs.filter fun b => key b = k) = [] := by
        refine List.filter_eq_nil_iff.mpr fun b hb hkey => hk ⟨b, hxs.mem_iff.mp hb, ?_⟩
        exact of_decide_eq_true hkey
      rw [hnone _ (sortBy_perm cmp given), hnone _ (List.Perm.refl given)]

/-- Texts are compared by their bytes. -/
theorem goesBy_text (text : α → String) : GoesBy (compareOn text) fun a => byteValues (text a) where
  lt_iff _ _ := compare_eq_lt_iff_byteValues
  eq_iff _ _ := Std.LawfulEqOrd.compare_eq_iff_eq.trans byteValues_strictMono.injective.eq_iff.symm

theorem goesBy_word (word : α → UInt32) : GoesBy (compareOn word) fun a => (word a).toNat where
  lt_iff a b := by
    rw [compareOn, UInt32.compare_eq_toNat_compare_toNat, Nat.compare_eq_lt]
  eq_iff a b := by
    rw [compareOn, Std.LawfulEqOrd.compare_eq_iff_eq, UInt32.toNat_inj]

/-- A text that may be missing as a key; one that is missing comes first. -/
def optionalKey : Option String → WithBot (List ℕ)
  | none => ⊥
  | some s => byteValues s

theorem goesBy_optional (text : α → Option String) :
    GoesBy (compareOn text) fun a => optionalKey (text a) where
  lt_iff a b := by
    rw [compareOn]
    rcases text a with _ | s <;> rcases text b with _ | t
    · exact iff_of_false (nofun : Ordering.eq ≠ .lt) (lt_irrefl _)
    · exact iff_of_true rfl (WithBot.bot_lt_coe _)
    · exact iff_of_false (nofun : Ordering.gt ≠ .lt) not_lt_bot
    · exact compare_eq_lt_iff_byteValues.trans WithBot.coe_lt_coe.symm
  eq_iff a b := by
    rw [compareOn, Std.LawfulEqOrd.compare_eq_iff_eq]
    cases text a <;> cases text b <;>
      simp [optionalKey, byteValues_strictMono.injective.eq_iff]

end Keys

/-! ### The keys of a report -/

/-- Findings are sorted by file, line, rule and message. -/
def Finding.sortKey (f : Finding) : List ℕ ×ₗ ℕ ×ₗ List ℕ ×ₗ List ℕ :=
  toLex (byteValues f.file, toLex (f.line.toNat,
    toLex (byteValues f.ruleId, byteValues f.message)))

/-- Failures are sorted by rule and unit; those on no unit come first. -/
def RuleFailure.sortKey (f : RuleFailure) : List ℕ ×ₗ WithBot (List ℕ) :=
  toLex (byteValues f.ruleId, optionalKey f.unit)

/-- Skipped units are sorted by path. -/
def SkippedUnit.sortKey (u : SkippedUnit) : List ℕ :=
  byteValues u.path

theorem Finding.stablySorted_sort (fs : List Finding) : StablySorted sortKey fs (sort fs) :=
  ((goesBy_text file).lex ((goesBy_word line).lex
    ((goesBy_text ruleId).lex (goesBy_text message)))).stablySorted fs

theorem RuleFailure.stablySorted_sort (fs : List RuleFailure) :
    StablySorted sortKey fs (sort fs) :=
  ((goesBy_text ruleId).lex (goesBy_optional RuleFailure.unit)).stablySorted fs

theorem SkippedUnit.stablySorted_sort (us : List SkippedUnit) :
    StablySorted sortKey us (sort us) :=
  (goesBy_text path).stablySorted us

/-! ### Counting -/

namespace Table

variable {α κ : Type} [Ord κ] [DecidableEq κ]

/-- **A table counts items by a key**: it has one entry for each key that is counted, with the
number of items that have this key, and altogether it counts as many items as there are. -/
structure Counts (t : Table κ ℕ) (Counted : κ → Prop) (key : α → κ) (items : List α) : Prop where
  mem_iff : ∀ k n, (k, n) ∈ t.entries ↔ Counted k ∧ n = items.countP fun a => key a = k
  nodup : (t.entries.map Prod.fst).Nodup
  sum_eq : (t.entries.map Prod.snd).sum = items.length

/-- **A table counts items by the keys that occur**, so all of its numbers are positive. -/
structure Tallies (t : Table κ ℕ) (key : α → κ) (items : List α) : Prop extends
    t.Counts (fun k => ∃ a ∈ items, key a = k) key items where
  pos : ∀ e ∈ t.entries, 0 < e.2

variable [Std.LawfulEqOrd κ] {t : Table κ ℕ} {Counted : κ → Prop} {key : α → κ} {items : List α}

/-- A table with the right number at each key that is counted counts the items, if all of their
keys are counted. -/
theorem counts_of_find?
    (hfind : ∀ k n, t.find? k = some n ↔ Counted k ∧ n = (items.map key).count k)
    (hall : ∀ a ∈ items, Counted (key a)) : t.Counts Counted key items where
  mem_iff k n := by
    have hcount : (items.map key).count k = items.countP fun a => key a = k := List.countP_map
    rw [← find?_eq_some_iff, hfind, hcount]
  nodup := t.nodup_keys
  sum_eq := by
    have hvalues : t.entries.map Prod.snd = (t.entries.map Prod.fst).map (items.map key).count := by
      rw [List.map_map]
      refine List.map_congr_left fun e he => ?_
      exact ((hfind e.1 e.2).mp (find?_eq_some_iff.mpr he)).2
    have hkeys : ∀ k ∈ (items.map key : Multiset κ), k ∈ (t.entries.map Prod.fst).toFinset := by
      intro k hk
      obtain ⟨a, ha, rfl⟩ := List.mem_map.mp (Multiset.mem_coe.mp hk)
      have hfound := (hfind (key a) _).mpr ⟨hall a ha, rfl⟩
      exact List.mem_toFinset.mpr (List.mem_map.mpr ⟨_, find?_eq_some_iff.mp hfound, rfl⟩)
    have hsum := Multiset.sum_count_eq_card hkeys
    simp only [Multiset.coe_count, Multiset.coe_card, List.length_map] at hsum
    rw [hvalues, ← List.sum_toFinset _ t.nodup_keys, hsum]

/-- **A tally of the keys of items counts the items.** -/
theorem tallies_tally [Std.TransOrd κ] (key : α → κ) (items : List α) :
    (tally (items.map key)).Tallies key items := by
  have hcounts : (tally (items.map key)).Counts (fun k => ∃ a ∈ items, key a = k) key items := by
    refine counts_of_find? (fun k n => ?_) fun a ha => ⟨a, ha, rfl⟩
    rw [find?_tally, ← List.mem_map]
    split
    next hk => rw [Option.some.injEq, and_iff_right hk, eq_comm]
    next hk => simp [hk]
  refine ⟨hcounts, fun e he => ?_⟩
  obtain ⟨⟨a, ha, hkey⟩, hn⟩ := (hcounts.mem_iff e.1 e.2).mp he
  rw [hn]
  exact List.countP_pos_iff.mpr ⟨a, ha, decide_eq_true hkey⟩

end Table

theorem Severity.mem_all (s : Severity) : s ∈ all := by
  cases s <;> decide

theorem Severity.ascending_all : all.Pairwise fun s s' => compare s s' = .lt := by
  decide

/-- **The counts by severity take in all severities**, also those of no finding. -/
theorem counts_countBySeverity (fs : List Finding) :
    (countBySeverity fs).Counts (fun _ => True) Finding.severity fs := by
  have hzero (s : Severity) :
      (Table.ofList (Severity.all.map fun s => (s, 0))).find? s = some 0 := by
    rw [Table.find?_eq_some_iff,
      Table.entries_ofList (List.pairwise_map.mpr Severity.ascending_all)]
    exact List.mem_map.mpr ⟨s, s.mem_all, rfl⟩
  refine Table.counts_of_find? (fun s n => ?_) fun _ _ => trivial
  rw [countBySeverity, Table.find?_countOn, hzero, Option.getD_some, Nat.zero_add, true_and]
  split
  next => rw [Option.some.injEq, eq_comm]
  next hs => rw [List.count_eq_zero_of_not_mem hs, Option.some.injEq, eq_comm]

/-- The counts by severity have the five severities as keys, in their order. -/
theorem keys_countBySeverity (fs : List Finding) :
    (countBySeverity fs).entries.map Prod.fst = Severity.all := by
  have hcounts := counts_countBySeverity fs
  have hperm : ((countBySeverity fs).entries.map Prod.fst).Perm Severity.all := by
    refine (List.perm_ext_iff_of_nodup hcounts.nodup (by decide)).mpr fun s => ?_
    have hentry := (hcounts.mem_iff s _).mpr ⟨trivial, rfl⟩
    exact iff_of_true (List.mem_map.mpr ⟨_, hentry, rfl⟩) s.mem_all
  have hascending : ((countBySeverity fs).entries.map Prod.fst).Pairwise
      fun s s' => compare s s' = .lt :=
    List.pairwise_map.mpr (countBySeverity fs).ascending
  refine hperm.eq_of_pairwise (fun s s' _ _ hlt hgt => ?_) hascending Severity.ascending_all
  exact absurd rfl (ne_of_compare_eq_lt (Std.TransCmp.lt_trans hlt hgt))

/-! ### Reports -/

/-- **A report neither loses nor invents anything.** Its findings are those that were kept, sorted
by file, line, rule and message, and its failures and skipped units are those of the run, sorted
by rule and unit and by path. It counts its findings by severity, with an entry for each of the
five, and by category, with an entry for each that occurs, and it counts the packages of the run
by name. -/
theorem report_exact (run : RunOutput) (kept : List Finding) :
    StablySorted Finding.sortKey kept (run.report kept).findings ∧
      StablySorted RuleFailure.sortKey run.ruleFailures (run.report kept).ruleFailures ∧
      StablySorted SkippedUnit.sortKey run.skippedUnits (run.report kept).skippedUnits ∧
      ((run.report kept).summary.bySeverity.entries.map Prod.fst =
          [.info, .low, .medium, .high, .critical] ∧
        (run.report kept).summary.bySeverity.Counts (fun _ => True) Finding.severity kept) ∧
      (run.report kept).summary.byCategory.Tallies Finding.category kept ∧
      (run.report kept).dependencyInventory.Tallies Code.Package.name run.packages := by
  have hsorted := Finding.stablySorted_sort kept
  -- the figures are those of the sorted findings, and counting does not look at the order
  have hseverity : (run.report kept).summary.bySeverity = countBySeverity kept :=
    Table.countOn_perm _ (hsorted.perm.map _)
  have hcategory : (run.report kept).summary.byCategory = countByCategory kept :=
    Table.tally_perm (hsorted.perm.map _)
  rw [hseverity, hcategory]
  exact ⟨hsorted, RuleFailure.stablySorted_sort _, SkippedUnit.stablySorted_sort _,
    ⟨keys_countBySeverity kept, counts_countBySeverity kept⟩, Table.tallies_tally _ kept,
    Table.tallies_tally _ run.packages⟩

end PlatformAudit
