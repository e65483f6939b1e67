import Mathlib.Data.List.Pairwise
import PlatformAudit.Report.Basic

/-!
# Sorting by a part of what is there

Reports are sorted by keys that leave something out, so two entries may compare
equal and still differ, and the sorted list of two permutations need not be the
same. What decides it is the order *within a tie*. Call the entries that compare
equal to `a` the **class** of `a`. A stable sort keeps every class as it is
(`PlatformAudit.classOf_sortBy`), and a sorted list is determined by its classes
(`PlatformAudit.eq_of_classes`). So lists with the same classes, each in the same
order, have the same sorted list (`PlatformAudit.sortBy_congr`); everything about
the order of a report is derived from this.

For the same reason it does not matter whether entries are left out before or after
sorting (`PlatformAudit.filter_sortBy`): what is left out takes no part in the order
of the rest. And where the key of an entry is all that is compared, the keys of a
sorted list do not depend on the order either (`PlatformAudit.map_sortBy_of_perm`).

The second half of the file is about entries that are gathered from several owners
and bear the names of their owners. It says when gathering them gives the same
classes whatever the order of the owners: when every entry of a class has the same
owner (`PlatformAudit.filter_flatMap_perm`). And leaving out entries by the name
they bear is leaving out owners (`PlatformAudit.filter_flatMap_of_label`).
-/

namespace PlatformAudit

section Classes

variable {α : Type} (cmp : α → α → Ordering)

/-- A list sorted by a comparison; entries that compare equal keep their order. -/
def sortBy (xs : List α) : List α :=
  xs.mergeSort fun a b => (cmp a b).isLE

/-- The entries that compare equal to one. -/
def classOf (a : α) (xs : List α) : List α :=
  xs.filter fun b => cmp a b == .eq

variable {cmp} {a b : α} {xs ys : List α}

theorem mem_classOf : b ∈ classOf cmp a xs ↔ b ∈ xs ∧ cmp a b = .eq := by
  rw [classOf, List.mem_filter, beq_iff_eq]

theorem sortBy_perm (cmp : α → α → Ordering) (xs : List α) : (sortBy cmp xs).Perm xs :=
  List.mergeSort_perm _ _

theorem classOf_filter (p : α → Bool) (a : α) (xs : List α) :
    classOf cmp a (xs.filter p) = (classOf cmp a xs).filter p := by
  simp only [classOf, List.filter_filter, Bool.and_comm]

variable [Std.TransCmp cmp]

theorem isLE_total (a b : α) : ((cmp a b).isLE || (cmp b a).isLE) = true := by
  have hswap : (cmp b a).isLE = (cmp a b).isGE :=
    Bool.eq_iff_iff.mpr Std.OrientedCmp.isGE_iff_isLE.symm
  rw [hswap]
  cases cmp a b <;> rfl

theorem pairwise_sortBy (xs : List α) :
    (sortBy cmp xs).Pairwise fun a b => (cmp a b).isLE = true :=
  List.pairwise_mergeSort (fun _ _ _ => Std.TransCmp.isLE_trans) isLE_total xs

/-- The entries of a class are in order whatever their order is. -/
theorem pairwise_classOf (a : α) (xs : List α) :
    (classOf cmp a xs).Pairwise fun b c => (cmp b c).isLE = true := by
  refine List.pairwise_of_forall_mem_list fun b hb c hc => ?_
  have hba : cmp b a = .eq := Std.OrientedCmp.eq_symm (mem_classOf.mp hb).2
  exact Ordering.isLE_of_eq_eq (Std.TransCmp.eq_trans hba (mem_classOf.mp hc).2)

/-- **A stable sort keeps every class as it is.** -/
theorem classOf_sortBy (a : α) (xs : List α) :
    classOf cmp a (sortBy cmp xs) = classOf cmp a xs := by
  have hsub : (classOf cmp a xs).Sublist (sortBy cmp xs) :=
    List.sublist_mergeSort (fun _ _ _ => Std.TransCmp.isLE_trans) isLE_total
      (pairwise_classOf a xs) List.filter_sublist
  have hfilter := hsub.filter fun b => cmp a b == .eq
  rw [classOf, List.filter_filter] at hfilter
  simp only [Bool.and_self] at hfilter
  refine (hfilter.eq_of_length ?_).symm
  exact ((sortBy_perm cmp xs).filter _).length_eq.symm

/-- Every entry is in its own class, so lists with the same classes have the same entries. -/
theorem mem_iff_of_classes (h : ∀ a, classOf cmp a xs = classOf cmp a ys) (a : α) :
    a ∈ xs ↔ a ∈ ys := by
  have hclass : a ∈ classOf cmp a xs ↔ a ∈ classOf cmp a ys := by rw [h a]
  simpa only [mem_classOf, Std.ReflCmp.compare_self, and_true] using hclass

/-- The first of a sorted list is below every entry of it. -/
theorem isLE_head {x : α} (hxs : (x :: xs).Pairwise fun a b => (cmp a b).isLE = true)
    (hb : b ∈ x :: xs) : (cmp x b).isLE = true := by
  rcases List.mem_cons.mp hb with rfl | hb
  · exact Ordering.isLE_of_eq_eq Std.ReflCmp.compare_self
  · exact (List.pairwise_cons.mp hxs).1 b hb

/-- **A sorted list is determined by its classes.** -/
theorem eq_of_classes (hxs : xs.Pairwise fun a b => (cmp a b).isLE = true)
    (hys : ys.Pairwise fun a b => (cmp a b).isLE = true)
    (h : ∀ a, classOf cmp a xs = classOf cmp a ys) : xs = ys := by
  induction xs generalizing ys with
  | nil =>
    refine (List.eq_nil_iff_forall_not_mem.mpr fun a ha => ?_).symm
    exact List.not_mem_nil ((mem_iff_of_classes h a).mpr ha)
  | cons x xs ih =>
    cases ys with
    | nil => exact absurd ((mem_iff_of_classes h x).mp List.mem_cons_self) List.not_mem_nil
    | cons y ys =>
      -- each of the two heads is below the other, so they head the same class
      have hyx := isLE_head hys ((mem_iff_of_classes h x).mp List.mem_cons_self)
      have hxy := isLE_head hxs ((mem_iff_of_classes h y).mpr List.mem_cons_self)
      have heq : cmp x y = .eq := Std.OrientedCmp.isLE_antisymm hxy hyx
      have hhead := h x
      simp only [classOf, List.filter_cons, Std.ReflCmp.compare_self, heq, beq_self_eq_true,
        if_true, List.cons.injEq] at hhead
      obtain ⟨rfl, -⟩ := hhead
      refine congrArg (x :: ·) (ih hxs.of_cons hys.of_cons fun a => ?_)
      have htail := h a
      simp only [classOf, List.filter_cons] at htail
      split at htail
      · exact (List.cons.inj htail).2
      · exact htail

/-- Entries that can be put in order without a tie are sorted in this order. -/
theorem sortBy_eq_of_perm (h : xs.Perm ys) (hys : ys.Pairwise fun a b => cmp a b = .lt) :
    sortBy cmp xs = ys := by
  have hperm : (sortBy cmp xs).Perm ys := (sortBy_perm cmp xs).trans h
  have hle : ys.Pairwise fun a b => (cmp a b).isLE = true := by
    refine hys.imp fun hlt => ?_
    rw [hlt]
    rfl
  have hsymm : Std.Symm fun a b => cmp a b = .eq → a = b :=
    ⟨fun _ _ h heq => (h (Std.OrientedCmp.eq_symm heq)).symm⟩
  have hties : ys.Pairwise fun a b => cmp a b = .eq → a = b := by
    refine hys.imp fun hlt heq => ?_
    rw [hlt] at heq
    cases heq
  refine hperm.eq_of_pairwise (fun a b ha hb hab hba => ?_) (pairwise_sortBy xs) hle
  exact hties.forall_of_forall (fun _ _ _ => rfl) (hperm.mem_iff.mp ha) hb
    (Std.OrientedCmp.isLE_antisymm hab hba)

/-- **Lists with the same classes have the same sorted list.** -/
theorem sortBy_congr (h : ∀ a, classOf cmp a xs = classOf cmp a ys) :
    sortBy cmp xs = sortBy cmp ys :=
  eq_of_classes (pairwise_sortBy xs) (pairwise_sortBy ys) fun a => by
    rw [classOf_sortBy, classOf_sortBy, h a]

/-- **Sorting and leaving out commute.** -/
theorem filter_sortBy (p : α → Bool) (xs : List α) :
    (sortBy cmp xs).filter p = sortBy cmp (xs.filter p) := by
  refine eq_of_classes ((pairwise_sortBy xs).filter p) (pairwise_sortBy _) fun a => ?_
  calc classOf cmp a ((sortBy cmp xs).filter p)
      = (classOf cmp a (sortBy cmp xs)).filter p := classOf_filter p a _
    _ = (classOf cmp a xs).filter p := by rw [classOf_sortBy]
    _ = classOf cmp a (xs.filter p) := (classOf_filter p a xs).symm
    _ = classOf cmp a (sortBy cmp (xs.filter p)) := (classOf_sortBy a _).symm

/-- **The keys of a sorted list depend only on which keys there are**, although the list itself
may not: entries that tie have the same key. -/
theorem map_sortBy_of_perm {κ : Type} {key : α → κ} (hkey : ∀ a b, cmp a b = .eq ↔ key a = key b)
    (hperm : (xs.map key).Perm (ys.map key)) :
    (sortBy cmp xs).map key = (sortBy cmp ys).map key := by
  -- the order of entries as an order of keys: whichever entries have them
  let below : κ → κ → Prop := fun k l => ∀ a b, key a = k → key b = l → (cmp a b).isLE = true
  have hsorted : ∀ zs, ((sortBy cmp zs).map key).Pairwise below := by
    intro zs
    refine List.pairwise_map.mpr ((pairwise_sortBy zs).imp ?_)
    intro a b hab a' b' ha hb
    have haa' : cmp a' a = .eq := (hkey a' a).mpr ha
    have hbb' : cmp b b' = .eq := (hkey b b').mpr hb.symm
    rw [Std.TransCmp.congr_left haa', ← Std.TransCmp.congr_right hbb']
    exact hab
  refine List.Perm.eq_of_pairwise ?_ (hsorted xs) (hsorted ys) ?_
  · rintro k l hk hl hkl hlk
    obtain ⟨a, -, rfl⟩ := List.mem_map.mp hk
    obtain ⟨b, -, rfl⟩ := List.mem_map.mp hl
    exact (hkey a b).mp (Std.OrientedCmp.isLE_antisymm (hkl a b rfl rfl) (hlk b a rfl rfl))
  · exact ((sortBy_perm cmp xs).map key).trans (hperm.trans ((sortBy_perm cmp ys).map key).symm)

end Classes

/-! ### Entries of several owners -/

section Owners

variable {β γ : Type} {owners owners' : List β} {entries : β → List γ}

/-- **Gathering by owner does not depend on the order of the owners**, as far as
entries are concerned that have an owner in common: different owners have different
names, and an entry bears the name of its owner. -/
theorem filter_flatMap_perm {κ : Type} {name : β → κ} {label : γ → κ} {p : γ → Bool}
    (hperm : owners.Perm owners') (hnames : (owners.map name).Nodup)
    (hlabel : ∀ o ∈ owners, ∀ x ∈ entries o, label x = name o)
    (hp : ∀ x y, p x = true → p y = true → label x = label y) :
    (owners.flatMap entries).filter p = (owners'.flatMap entries).filter p := by
  induction hperm with
  | nil => rfl
  | cons o _ ih =>
    rw [List.flatMap_cons, List.flatMap_cons, List.filter_append, List.filter_append]
    refine congrArg _ (ih (List.nodup_cons.mp hnames).2 fun o' ho' => ?_)
    exact hlabel o' (List.mem_cons_of_mem o ho')
  | swap o o' owners =>
    simp only [List.flatMap_cons, List.filter_append, ← List.append_assoc]
    refine congrArg (· ++ _) ?_
    -- the two owners have different names, so one of them has no entry here
    rcases hx : (entries o').filter p with _ | ⟨x, xs⟩
    · rw [List.nil_append, List.append_nil]
    rcases hy : (entries o).filter p with _ | ⟨y, ys⟩
    · rw [List.nil_append, List.append_nil]
    obtain ⟨hxmem, hpx⟩ := List.mem_filter.mp (hx ▸ List.mem_cons_self : x ∈ (entries o').filter p)
    obtain ⟨hymem, hpy⟩ := List.mem_filter.mp (hy ▸ List.mem_cons_self : y ∈ (entries o).filter p)
    have hsame : name o' = name o := by
      rw [← hlabel o' (by simp) x hxmem, ← hlabel o (by simp) y hymem, hp x y hpx hpy]
    simp [hsame] at hnames
  | trans hperm₁ _ ih₁ ih₂ =>
    refine (ih₁ hnames hlabel).trans (ih₂ ?_ ?_)
    · exact (hperm₁.map name).nodup_iff.mp hnames
    · exact fun o ho => hlabel o (hperm₁.mem_iff.mpr ho)

/-- **Leaving out entries by the name they bear is leaving out owners.** -/
theorem filter_flatMap_of_label {κ : Type} {name : β → κ} {label : γ → κ} (q : κ → Bool)
    (hlabel : ∀ o ∈ owners, ∀ x ∈ entries o, label x = name o) :
    (owners.flatMap entries).filter (fun x => q (label x)) =
      (owners.filter fun o => q (name o)).flatMap entries := by
  induction owners with
  | nil => rfl
  | cons o owners ih =>
    obtain ⟨hfirst, hrest⟩ := List.forall_mem_cons.mp hlabel
    rw [List.flatMap_cons, List.filter_append, ih hrest, List.filter_cons]
    -- the entries of one owner stay or go together
    cases hq : q (name o) with
    | true =>
      have hall : (entries o).filter (fun x => q (label x)) = entries o :=
        List.filter_eq_self.mpr fun x hx => by rw [hfirst x hx, hq]
      rw [hall, if_pos rfl, List.flatMap_cons]
    | false =>
      have hnone : (entries o).filter (fun x => q (label x)) = [] :=
        List.filter_eq_nil_iff.mpr fun x hx => by rw [hfirst x hx, hq]; exact Bool.false_ne_true
      rw [hnone, if_neg Bool.false_ne_true, List.nil_append]

end Owners

/-! ### The lists of a report -/

instance : Std.TransCmp Finding.order :=
  inferInstanceAs (Std.TransCmp (compareLex (compareOn Finding.file) (compareLex
    (compareOn Finding.line) (compareLex (compareOn Finding.ruleId) (compareOn Finding.message)))))

instance : Std.TransCmp RuleFailure.order :=
  inferInstanceAs (Std.TransCmp (compareLex (compareOn RuleFailure.ruleId)
    (compareOn RuleFailure.unit)))

instance : Std.TransCmp fun a b : SkippedUnit => compare a.path b.path :=
  inferInstanceAs (Std.TransCmp (compareOn SkippedUnit.path))

theorem Finding.filter_sort (p : Finding → Bool) (fs : List Finding) :
    (Finding.sort fs).filter p = Finding.sort (fs.filter p) :=
  filter_sortBy p fs

theorem RuleFailure.filter_sort (p : RuleFailure → Bool) (fs : List RuleFailure) :
    (RuleFailure.sort fs).filter p = RuleFailure.sort (fs.filter p) :=
  filter_sortBy p fs

theorem SkippedUnit.filter_sort (p : SkippedUnit → Bool) (us : List SkippedUnit) :
    (SkippedUnit.sort us).filter p = SkippedUnit.sort (us.filter p) :=
  filter_sortBy p us

end PlatformAudit
