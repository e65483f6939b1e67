/-!
# Tables

A finite map kept as the list of its entries in ascending order of their keys, no
key twice. So two tables with the same entries are equal, and writing a table
lists its entries in order whatever the order in which they came in.
-/

namespace PlatformAudit

/-- Entries in strictly ascending order of their keys. -/
def Ascending [Ord κ] (es : List (κ × ν)) : Prop :=
  es.Pairwise fun a b => compare a.1 b.1 = .lt

/-- Puts an entry in its place; an entry with the same key gives way. -/
def insertEntry [Ord κ] (k : κ) (v : ν) : List (κ × ν) → List (κ × ν)
  | [] => [(k, v)]
  | (l, w) :: es =>
    match compare k l with
    | .lt => (k, v) :: (l, w) :: es
    | .eq => (k, v) :: es
    | .gt => (l, w) :: insertEntry k v es

/-- A key of the entries after an insertion is the new one or was there before. -/
theorem mem_insertEntry [Ord κ] {k : κ} {v : ν} {es : List (κ × ν)} {e : κ × ν}
    (h : e ∈ insertEntry k v es) : e = (k, v) ∨ e ∈ es := by
  induction es with
  | nil => exact .inl (List.mem_singleton.mp h)
  | cons f es ih =>
    obtain ⟨l, w⟩ := f
    rw [insertEntry] at h
    split at h
    · rcases List.mem_cons.mp h with rfl | h
      · exact .inl rfl
      · exact .inr h
    · rcases List.mem_cons.mp h with rfl | h
      · exact .inl rfl
      · exact .inr (List.mem_cons_of_mem _ h)
    · rcases List.mem_cons.mp h with rfl | h
      · exact .inr (List.mem_cons_self ..)
      · exact (ih h).imp id (List.mem_cons_of_mem _)

/-- An insertion keeps the order. -/
theorem ascending_insertEntry [Ord κ] [Std.TransOrd κ] [Std.LawfulEqOrd κ] {k : κ} {v : ν}
    {es : List (κ × ν)} (h : Ascending es) : Ascending (insertEntry k v es) := by
  induction es with
  | nil => exact List.pairwise_singleton ..
  | cons f es ih =>
    obtain ⟨l, w⟩ := f
    obtain ⟨hl, hes⟩ := List.pairwise_cons.mp h
    rw [insertEntry]
    split
    next hlt =>
      -- The new key is below the least one, so below all.
      refine List.pairwise_cons.mpr ⟨fun e he => ?_, h⟩
      rcases List.mem_cons.mp he with rfl | he
      · exact hlt
      · exact Std.TransCmp.lt_trans hlt (hl e he)
    next heq =>
      obtain rfl := Std.LawfulEqOrd.eq_of_compare heq
      exact List.pairwise_cons.mpr ⟨hl, hes⟩
    next hgt =>
      refine List.pairwise_cons.mpr ⟨fun e he => ?_, ih hes⟩
      rcases mem_insertEntry he with rfl | he
      · exact Std.OrientedCmp.lt_of_gt hgt
      · exact hl e he

/-- A finite map with its entries in order. -/
structure Table (κ ν : Type) [Ord κ] where
  entries : List (κ × ν)
  ascending : Ascending entries

namespace Table

variable {κ ν : Type} [Ord κ]

/-- The table without entries. -/
def empty : Table κ ν :=
  ⟨[], List.Pairwise.nil⟩

/-- The value at a key. -/
def find? (t : Table κ ν) (k : κ) : Option ν :=
  (t.entries.find? fun e => compare e.1 k == .eq).map (·.2)

variable [Std.TransOrd κ] [Std.LawfulEqOrd κ]

/-- Puts a value at a key. -/
def insert (t : Table κ ν) (k : κ) (v : ν) : Table κ ν :=
  ⟨insertEntry k v t.entries, ascending_insertEntry t.ascending⟩

/-- The table of a list of entries; of two with the same key the later one counts. -/
def ofList (es : List (κ × ν)) : Table κ ν :=
  es.foldl (fun t e => t.insert e.1 e.2) empty

/-- Counts keys on: each adds one to the value at it, or to zero if there is none. -/
def countOn (t : Table κ Nat) (ks : List κ) : Table κ Nat :=
  ks.foldl (fun t k => t.insert k ((t.find? k).getD 0 + 1)) t

/-- The number of times each key occurs in a list. -/
def tally (ks : List κ) : Table κ Nat :=
  empty.countOn ks

end Table

end PlatformAudit
