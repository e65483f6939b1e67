import Mathlib.Data.List.Induction
import Mathlib.Data.List.Nodup
import Mathlib.Data.List.Pairwise
import PlatformAudit.Table

/-!
# What a table holds

A table keeps its entries in ascending order, no key twice. So its entries are what
looking up finds (`PlatformAudit.Table.find?_eq_some_iff`), and two tables in which
looking up finds the same are equal (`PlatformAudit.Table.ext_find?`). An insertion
is described by what it does to looking up, and everything else goes through these:

* counting on adds how often each key occurs (`PlatformAudit.Table.find?_countOn`), so
  neither it nor a tally depends on the order of the keys
  (`PlatformAudit.Table.countOn_perm`);
* the table of a table's own entries is that table
  (`PlatformAudit.Table.ofList_entries`).
-/

namespace PlatformAudit

section Entries

variable {κ ν : Type} [Ord κ] {es : List (κ × ν)} {k : κ} {v : ν}

/-- An entry whose key is above all others goes to the end. -/
theorem insertEntry_of_above [Std.OrientedOrd κ] (h : ∀ e ∈ es, compare e.1 k = .lt) :
    insertEntry k v es = es ++ [(k, v)] := by
  induction es with
  | nil => rfl
  | cons e es ih =>
    obtain ⟨hhead, htail⟩ := List.forall_mem_cons.mp h
    have hgt : compare k e.1 = .gt := Std.OrientedCmp.gt_of_lt hhead
    rw [insertEntry, hgt, ih htail]
    rfl

theorem ne_of_compare_eq_lt [Std.ReflOrd κ] {a b : κ} (h : compare a b = .lt) : a ≠ b := by
  rintro rfl
  rw [Std.ReflOrd.compare_self] at h
  exact absurd h (by decide)

/-- In ascending entries no key stands twice. -/
theorem Ascending.eq_of_key_eq [Std.ReflOrd κ] {e f : κ × ν} (h : Ascending es) (he : e ∈ es) (hf : f ∈ es)
    (hkey : e.1 = f.1) : e = f := by
  have hkeys : es.Pairwise fun a b => a.1 = b.1 → a = b :=
    h.imp fun hlt heq => absurd heq (ne_of_compare_eq_lt hlt)
  have hsymm : Std.Symm fun a b : κ × ν => a.1 = b.1 → a = b :=
    ⟨fun a b hab hba => (hab hba.symm).symm⟩
  exact hkeys.forall_of_forall (fun _ _ _ => rfl) he hf hkey

variable [Std.TransOrd κ] [Std.LawfulEqOrd κ]

/-- **What an insertion leaves**: the new entry, and the others with another key. -/
theorem mem_insertEntry_iff (h : Ascending es) {e : κ × ν} :
    e ∈ insertEntry k v es ↔ e = (k, v) ∨ e ∈ es ∧ e.1 ≠ k := by
  induction es with
  | nil => simp [insertEntry]
  | cons f es ih =>
    obtain ⟨l, w⟩ := f
    obtain ⟨hl, hes⟩ := List.pairwise_cons.mp h
    have habove : ∀ f ∈ es, compare k l ≠ .gt → f.1 ≠ k := by
      intro f hf hk
      refine (ne_of_compare_eq_lt ?_).symm
      exact Std.TransCmp.lt_of_isLE_of_lt (Ordering.isLE_iff_ne_gt.mpr hk) (hl f hf)
    rw [insertEntry]
    split
    next hlt =>
      -- no entry has the key of the new one
      have hkeys : ∀ f ∈ (l, w) :: es, f.1 ≠ k := by
        refine List.forall_mem_cons.mpr ⟨(ne_of_compare_eq_lt hlt).symm, fun f hf => habove f hf ?_⟩
        rw [hlt]
        decide
      rw [List.mem_cons]
      exact or_congr_right ⟨fun he => ⟨he, hkeys e he⟩, And.left⟩
    next heq =>
      -- the new entry takes the place of the first
      obtain rfl := Std.LawfulEqOrd.eq_of_compare heq
      have hkeys : ∀ f ∈ es, f.1 ≠ k := fun f hf => habove f hf (by rw [heq]; decide)
      rw [List.mem_cons, List.mem_cons]
      refine or_congr_right ⟨fun he => ⟨.inr he, hkeys e he⟩, ?_⟩
      rintro ⟨rfl | he, hk⟩
      · exact absurd rfl hk
      · exact he
    next hgt =>
      have hne : l ≠ k := ne_of_compare_eq_lt (Std.OrientedCmp.lt_of_gt hgt)
      rw [List.mem_cons, ih hes, List.mem_cons]
      constructor
      · rintro (rfl | rfl | ⟨he, hk⟩)
        · exact .inr ⟨.inl rfl, hne⟩
        · exact .inl rfl
        · exact .inr ⟨.inr he, hk⟩
      · rintro (rfl | ⟨rfl | he, hk⟩)
        · exact .inr (.inl rfl)
        · exact .inl rfl
        · exact .inr (.inr ⟨he, hk⟩)

end Entries

namespace Table

variable {κ ν : Type} [Ord κ] [Std.TransOrd κ] [Std.LawfulEqOrd κ] {t t' : Table κ ν}

/-! ### Looking up -/

omit [Std.TransOrd κ] in
/-- **Looking up finds the entries of a table**, and nothing else. -/
theorem find?_eq_some_iff {k : κ} {v : ν} : t.find? k = some v ↔ (k, v) ∈ t.entries := by
  rw [find?, Option.map_eq_some_iff]
  constructor
  · rintro ⟨e, hfind, rfl⟩
    have hkey : e.1 = k := by
      simpa [Std.LawfulEqOrd.compare_eq_iff_eq] using List.find?_some hfind
    have hmem := List.mem_of_find?_eq_some hfind
    rwa [← hkey]
  · intro hmem
    -- some entry has the key, and it can only be this one
    cases hfind : t.entries.find? fun e => compare e.1 k == .eq with
    | none =>
      have hno := List.find?_eq_none.mp hfind (k, v) hmem
      simp [Std.ReflOrd.compare_self] at hno
    | some e =>
      have hkey : e.1 = k := by
        simpa [Std.LawfulEqOrd.compare_eq_iff_eq] using List.find?_some hfind
      exact ⟨e, rfl, congrArg Prod.snd
        (t.ascending.eq_of_key_eq (List.mem_of_find?_eq_some hfind) hmem hkey)⟩

omit [Std.TransOrd κ] in
theorem nodup_keys (t : Table κ ν) : (t.entries.map Prod.fst).Nodup :=
  List.pairwise_map.mpr (t.ascending.imp ne_of_compare_eq_lt)

/-- **Tables in which looking up finds the same are equal.** -/
theorem ext_find? (h : ∀ k, t.find? k = t'.find? k) : t = t' := by
  have hmem : ∀ e, e ∈ t.entries ↔ e ∈ t'.entries := fun e => by
    rw [← find?_eq_some_iff, ← find?_eq_some_iff, h]
  have hnodup (s : Table κ ν) : s.entries.Nodup := List.Nodup.of_map _ s.nodup_keys
  have hperm : t.entries.Perm t'.entries :=
    (List.perm_ext_iff_of_nodup (hnodup t) (hnodup t')).mpr hmem
  have hentries : t.entries = t'.entries := by
    refine hperm.eq_of_pairwise (fun a b _ _ hab hba => ?_) t.ascending t'.ascending
    exact absurd rfl (ne_of_compare_eq_lt (Std.TransCmp.lt_trans hab hba))
  cases t
  cases t'
  cases hentries
  rfl

/-- **An insertion changes what is found at its key**, and nowhere else. -/
theorem find?_insert [DecidableEq κ] (t : Table κ ν) (k : κ) (v : ν) (l : κ) :
    (t.insert k v).find? l = if l = k then some v else t.find? l := by
  refine Option.ext fun w => ?_
  rw [find?_eq_some_iff]
  change (l, w) ∈ insertEntry k v t.entries ↔ _
  rw [mem_insertEntry_iff t.ascending, Prod.mk.injEq]
  by_cases hl : l = k
  · simp [hl, eq_comm]
  · simp [hl, find?_eq_some_iff]

/-! ### Tallies -/

theorem countOn_concat (t : Table κ Nat) (ks : List κ) (k : κ) :
    t.countOn (ks ++ [k]) =
      (t.countOn ks).insert k (((t.countOn ks).find? k).getD 0 + 1) := by
  rw [countOn, List.foldl_append]
  rfl

/-- **Counting on adds how often each key occurs**, and only to the values at keys that do. -/
theorem find?_countOn [DecidableEq κ] (t : Table κ Nat) (ks : List κ) (k : κ) :
    (t.countOn ks).find? k =
      if k ∈ ks then some ((t.find? k).getD 0 + ks.count k) else t.find? k := by
  -- keys are counted from left to right, so the induction adds one at the end
  induction ks using List.reverseRecOn with
  | nil => rfl
  | append_singleton ks l ih =>
    rw [countOn_concat, find?_insert]
    by_cases hkl : k = l
    · subst hkl
      rw [if_pos rfl, ih]
      by_cases hmem : k ∈ ks
      · simp [hmem, Nat.add_assoc]
      · simp [hmem, List.count_eq_zero_of_not_mem hmem]
    · rw [if_neg hkl, ih]
      have hnone : List.count k [l] = 0 :=
        List.count_eq_zero_of_not_mem fun hmem => hkl (List.mem_singleton.mp hmem)
      simp [hkl, List.count_append, hnone]

/-- **Counting on does not depend on the order of the keys.** -/
theorem countOn_perm [DecidableEq κ] (t : Table κ Nat) {ks ks' : List κ} (h : ks.Perm ks') :
    t.countOn ks = t.countOn ks' := by
  refine ext_find? fun k => ?_
  simp only [find?_countOn, h.count_eq, h.mem_iff]

/-- **A tally holds how often each key occurs**, and only keys that do. -/
theorem find?_tally [DecidableEq κ] (ks : List κ) (k : κ) :
    (tally ks).find? k = if k ∈ ks then some (ks.count k) else none := by
  have hempty : (empty : Table κ Nat).find? k = none := rfl
  rw [tally, find?_countOn, hempty, Option.getD_none, Nat.zero_add]

/-- **A tally does not depend on the order of the keys.** -/
theorem tally_perm [DecidableEq κ] {ks ks' : List κ} (h : ks.Perm ks') : tally ks = tally ks' :=
  countOn_perm empty h

/-! ### Tables of their own entries -/

theorem entries_ofList {es : List (κ × ν)} (h : Ascending es) : (ofList es).entries = es := by
  induction es using List.reverseRecOn with
  | nil => rfl
  | append_singleton es e ih =>
    obtain ⟨hes, -, habove⟩ := List.pairwise_append.mp h
    have hlast : ∀ f ∈ es, compare f.1 e.1 = .lt := fun f hf =>
      habove f hf e (List.mem_singleton_self e)
    rw [ofList, List.foldl_append]
    change insertEntry e.1 e.2 (ofList es).entries = _
    rw [ih hes, insertEntry_of_above hlast]

/-- **A table is the table of its own entries.** -/
theorem ofList_entries (t : Table κ ν) : ofList t.entries = t := by
  have h := entries_ofList t.ascending
  cases ht : ofList t.entries
  cases t
  rw [ht] at h
  cases h
  rfl

end Table

end PlatformAudit
