import PlatformAudit.Json.Key
import PlatformAudit.Proofs.Json.Text
import PlatformAudit.Proofs.Table

/-!
# Decoders of what was written

A decoder that is given the document of a value either gives the value back or finds
the document malformed, and which of the two depends on one number alone: how many
**levels** of arrays and objects the document has (`PlatformAudit.Json.Value.levels`).
`PlatformAudit.Json.Decoder.Reads` says this of a decoder, a document and a value. It is
proved for each kind of decoder from the same statement about its parts, so that the
statement for a type of documents is put together as its decoder is. The decoders of
records have a module of their own, `PlatformAudit.Proofs.Json.Record`.
-/

namespace PlatformAudit.Json

open Decimal

/-! ### Levels -/

mutual

/-- The number of arrays and objects that stand inside one another, at most. -/
def Value.levels : Value → Nat
  | .null | .bool _ | .number _ | .string _ | .gap _ => 0
  | .array items _ => itemsLevels items + 1
  | .object fields _ => fieldsLevels fields + 1

/-- The levels of the items of an array, at most. -/
def itemsLevels : List Value → Nat
  | [] => 0
  | v :: vs => max v.levels (itemsLevels vs)

/-- The levels of the fields of an object, at most. -/
def fieldsLevels : List (Literal × Value) → Nat
  | [] => 0
  | (_, v) :: fs => max v.levels (fieldsLevels fs)

end

theorem itemsLevels_le_iff {vs : List Value} {n : Nat} :
    itemsLevels vs ≤ n ↔ ∀ v ∈ vs, v.levels ≤ n := by
  induction vs with
  | nil => simp [itemsLevels]
  | cons v vs ih => rw [itemsLevels, Nat.max_le, ih, List.forall_mem_cons]

theorem fieldsLevels_le_iff {fs : List (Literal × Value)} {n : Nat} :
    fieldsLevels fs ≤ n ↔ ∀ f ∈ fs, f.2.levels ≤ n := by
  induction fs with
  | nil => simp [fieldsLevels]
  | cons f fs ih => rw [fieldsLevels, Nat.max_le, ih, List.forall_mem_cons]

theorem fieldsLevels_append (fs gs : List (Literal × Value)) :
    fieldsLevels (fs ++ gs) = max (fieldsLevels fs) (fieldsLevels gs) := by
  induction fs with
  | nil => simp [fieldsLevels]
  | cons f fs ih => simp [fieldsLevels, ih, Nat.max_assoc]

namespace Value

@[simp]
theorem levels_text (s : String) : (text s).levels = 0 :=
  rfl

@[simp]
theorem levels_nat (n : Nat) : (nat n).levels = 0 :=
  rfl

theorem text_ne_null (s : String) : text s ≠ .null := by
  intro h
  cases h

theorem nat_ne_null (n : Nat) : nat n ≠ .null := by
  intro h
  cases h

theorem record_ne_null (fields : List (String × Value)) : record fields ≠ .null := by
  intro h
  cases h

theorem levels_list_le_iff {vs : List Value} {n : Nat} :
    (list vs).levels ≤ n + 1 ↔ ∀ v ∈ vs, v.levels ≤ n := by
  rw [list, levels, Nat.add_le_add_iff_right, itemsLevels_le_iff]

theorem levels_list_map_le {encode : α → Value} {n : Nat} (h : ∀ a, (encode a).levels ≤ n)
    (as : List α) : (list (as.map encode)).levels ≤ n + 1 :=
  levels_list_le_iff.mpr (List.forall_mem_map.mpr fun a _ => h a)

theorem levels_record_le_iff {fields : List (String × Value)} {n : Nat} :
    (record fields).levels ≤ n + 1 ↔ ∀ f ∈ fields, f.2.levels ≤ n := by
  rw [record, levels, Nat.add_le_add_iff_right, fieldsLevels_le_iff, List.forall_mem_map]

theorem levels_table_le_iff [Ord κ] {key : κ → String} {encode : α → Value} {t : Table κ α}
    {n : Nat} :
    (table key encode t).levels ≤ n + 1 ↔ ∀ e ∈ t.entries, (encode e.2).levels ≤ n := by
  rw [table, levels_record_le_iff, List.forall_mem_map]

theorem levels_fieldIf_le_iff {name : String} {encode : α → Value} {o : Option α} {n : Nat} :
    (∀ f ∈ fieldIf name encode o, f.2.levels ≤ n) ↔ ∀ a ∈ o, (encode a).levels ≤ n := by
  cases o <;> simp [fieldIf]

end Value

/-- What comes of reading a document with this many levels: its meaning if there is room for
them, otherwise it is malformed. -/
def within (levels room : Nat) (a : α) : Checked α :=
  if levels ≤ room then .ok a else malformed

@[simp]
theorem within_zero (room : Nat) (a : α) : within 0 room a = .ok a :=
  if_pos (Nat.zero_le room)

theorem within_of_le {levels room : Nat} (h : levels ≤ room) (a : α) :
    within levels room a = .ok a :=
  if_pos h

theorem within_succ_succ (levels room : Nat) (a : α) :
    within (levels + 1) (room + 1) a = within levels room a := by
  simp [within]

theorem map_within (f : α → β) (levels room : Nat) (a : α) :
    f <$> within levels room a = within levels room (f a) := by
  rw [within, within]
  split <;> rfl

theorem within_bind_ok (f : α → β) (levels room : Nat) (a : α) :
    (within levels room a >>= fun x => .ok (f x)) = within levels room (f a) :=
  map_within f levels room a

/-- Two parts that are read one after the other need as much room as the deeper one. -/
theorem within_bind_within (f : α → β) (m n room : Nat) (a : α) :
    (within m room a >>= fun x => within n room (f x)) = within (max m n) room (f a) := by
  by_cases hm : m ≤ room
  · have hmax : max m n ≤ room ↔ n ≤ room := by omega
    rw [within_of_le hm]
    simp only [within, hmax]
    rfl
  · have hmax : ¬max m n ≤ room := by omega
    rw [within, within, if_neg hm, if_neg hmax]
    rfl

/-- **A decoder reads a document as `a`**: the document is one that is read back from its text,
and the decoder gives `a` as soon as there is room for its levels. -/
structure Decoder.Reads (d : Decoder α) (room : Nat) (v : Value) (a : α) : Prop where
  written : v.Written
  read : d room v = within v.levels room a

theorem Decoder.Reads.map {d : Decoder α} {room : Nat} {v : Value} {a : α}
    (h : d.Reads room v a) (f : α → β) : Reads (fun room v => f <$> d room v) room v (f a) where
  written := h.written
  read := by rw [h.read, map_within]

/-- A whole text is read as the document it was made of is. -/
theorem Decoder.Reads.decode_toText {d : Decoder α} {v : Value} {a : α}
    (h : d.Reads nestingLimit v a) :
    (Document.read v.toText).decode d = within v.levels nestingLimit a := by
  rw [Document.read_toText h.written, Document.decode, h.read]
  exact within_bind_ok id v.levels nestingLimit a

/-! ### Texts, numbers and names -/

/-- A unit that is no half of a surrogate pair stands for itself, whatever follows. -/
theorem piecesText_unit {code : UInt16} (htrailing : isTrailing code = false)
    (hleading : isLeading code = false) (ps : List Piece) :
    piecesText none (.unit code :: ps) = (Char.ofNat code.toNat :: ·) <$> piecesText none ps := by
  rcases ps with _ | ⟨_ | _ | _, ps⟩ <;> simp [piecesText, htrailing, hleading, noFault]

/-- Control characters are written as units, and none of them is half of a surrogate pair. -/
theorem control_unit {n : Nat} (h : n < 0x20) :
    isTrailing n.toUInt16 = false ∧ isLeading n.toUInt16 = false ∧ n.toUInt16.toNat = n := by
  have hall : ∀ n < 0x20, isTrailing n.toUInt16 = false ∧ isLeading n.toUInt16 = false ∧
      n.toUInt16.toNat = n := by
    decide
  exact hall n h

theorem piecesText_pieceOf (c : Char) (ps : List Piece) :
    piecesText none (Literal.pieceOf c :: ps) = (c :: ·) <$> piecesText none ps := by
  rw [Literal.pieceOf]
  split
  next => rw [piecesText]; rfl
  next =>
    split
    next hcontrol =>
      obtain ⟨htrailing, hleading, hcode⟩ := control_unit hcontrol
      rw [piecesText_unit htrailing hleading, hcode, Char.ofNat_toNat]
    next => rw [piecesText]; rfl

/-- **A text is what its string stands for.** -/
@[simp]
theorem Literal.text_ofString (s : String) : (ofString s).text = .ok s := by
  have hpieces : ∀ cs : List Char, piecesText none (cs.map pieceOf) = .ok cs := by
    intro cs
    induction cs with
    | nil => rfl
    | cons c cs ih =>
      rw [List.map_cons, piecesText_pieceOf, ih]
      rfl
  change String.ofList <$> piecesText none (s.toList.map pieceOf) = .ok s
  rw [hpieces]
  change Except.ok (String.ofList s.toList) = _
  rw [String.ofList_toList]

theorem Decoder.text_reads (room : Nat) (s : String) : Decoder.text.Reads room (.text s) s where
  written := Literal.written_ofString s
  read := by
    change (Literal.ofString s).text = within 0 room s
    rw [Literal.text_ofString, within_zero]

theorem readNumber_ofNat {n : Nat} (h : n ≤ maxSignificand) :
    readNumber (Numeral.ofNat n) = .ok (.natural n) := by
  have hvalue : (Numeral.ofNat n).value? = some (.natural n) := by
    simp [Numeral.value?, Numeral.ofNat, h]
  rw [readNumber, hvalue]

theorem Decoder.naturalUpTo_reads (room : Nat) {n bound : Nat} (h : n ≤ bound)
    (hbound : bound ≤ maxSignificand) (expected : String) :
    (naturalUpTo bound expected).Reads room (.nat n) n where
  written := Numeral.written_ofNat n
  read := by
    have hnumber := readNumber_ofNat (Nat.le_trans h hbound)
    change (readNumber (Numeral.ofNat n) >>= _) = within 0 room n
    rw [hnumber, within_zero]
    change (if n ≤ bound then _ else _) = _
    rw [if_pos h]
    rfl

theorem Decoder.count_reads (room : Nat) {n : Nat} (h : n < UInt64.size) :
    count.Reads room (.nat n) n :=
  naturalUpTo_reads room (Nat.le_sub_one_of_lt h) (Nat.le_refl _) "usize"

theorem Decoder.natural64_reads (room : Nat) {n : Nat} (h : n < UInt64.size) :
    natural64.Reads room (.nat n) n :=
  naturalUpTo_reads room (Nat.le_sub_one_of_lt h) (Nat.le_refl _) "u64"

theorem Decoder.word32_reads (room : Nat) (w : UInt32) : word32.Reads room (.nat w.toNat) w := by
  have hle : w.toNat ≤ UInt32.size - 1 := Nat.le_sub_one_of_lt w.toNat_lt_size
  have hmap := (naturalUpTo_reads room hle (by decide) "u32").map Nat.toUInt32
  rwa [Nat.toUInt32_eq, UInt32.ofNat_toNat] at hmap

theorem Decoder.variant_reads (room : Nat) {known : List (String × α)} (other : Option α)
    {name : String} {a : α} (h : named? known name = some a) :
    (variant known other).Reads room (.text name) a where
  written := Literal.written_ofString name
  read := by
    change ((Literal.ofString name).text >>= lookupVariant known other) = within 0 room a
    rw [Literal.text_ofString, within_zero]
    change lookupVariant known other name = .ok a
    simp only [lookupVariant, h]

/-! ### Values that may be missing -/

theorem Decoder.Reads.optional {d : Decoder α} {room : Nat} {v : Value} {a : α}
    (h : d.Reads room v a) (hv : v ≠ .null) : d.optional.Reads room v (some a) where
  written := h.written
  read := by
    rw [Decoder.optional]
    · rw [h.read, map_within]
    · exact hv

theorem Decoder.optional_reads_null (d : Decoder α) (room : Nat) :
    d.optional.Reads room .null none where
  written := trivial
  read := by rw [Decoder.optional]; rfl

/-! ### Arrays and tables -/

theorem Decoder.items_of_reads {d : Decoder α} {room : Nat} {encode : α → Value} {as : List α}
    (h : ∀ a ∈ as, d.Reads room (encode a) a) :
    items d room (as.map encode) = within (itemsLevels (as.map encode)) room as := by
  induction as with
  | nil => rfl
  | cons a as ih =>
    obtain ⟨ha, has⟩ := List.forall_mem_cons.mp h
    have htail : ∀ x : α, (items d room (as.map encode) >>= fun xs => .ok (x :: xs)) =
        within (itemsLevels (as.map encode)) room (x :: as) := by
      intro x
      rw [ih has, within_bind_ok]
    rw [List.map_cons, items, ha.read, itemsLevels, ← within_bind_within (fun x => x :: as)]
    exact congrArg _ (funext htail)

/-- A decoder of lists reads an array of documents that the decoder of items reads. -/
theorem Decoder.list_reads {d : Decoder α} (room : Nat) {encode : α → Value} (as : List α)
    (h : ∀ a ∈ as, d.Reads (room - 1) (encode a) a) :
    d.list.Reads room (.list (as.map encode)) as where
  written := by
    refine ⟨itemsWritten_iff.mpr fun v hv => ?_, rfl⟩
    obtain ⟨a, ha, rfl⟩ := List.mem_map.mp hv
    exact (h a ha).written
  read := by
    cases room with
    | zero => rfl
    | succ room =>
      have hitems := items_of_reads h
      rw [Nat.add_sub_cancel] at hitems
      rw [Value.list, Decoder.list, hitems, Value.levels, within_succ_succ]
      exact within_bind_ok id _ room as

section Tables

variable {readKey : Literal → Checked κ} {d : Decoder α} {key : κ → String} {encode : α → Value}

/-- An entry of a table as a field of an object. -/
def entryField (key : κ → String) (encode : α → Value) (e : κ × α) : Literal × Value :=
  (Literal.ofString (key e.1), encode e.2)

theorem Decoder.entries_of_reads {room : Nat} {es : List (κ × α)}
    (hkey : ∀ k, readKey (Literal.ofString (key k)) = .ok k)
    (h : ∀ e ∈ es, d.Reads room (encode e.2) e.2) :
    entries readKey d room (es.map (entryField key encode)) =
      within (fieldsLevels (es.map (entryField key encode))) room es := by
  induction es with
  | nil => rfl
  | cons e es ih =>
    obtain ⟨he, hes⟩ := List.forall_mem_cons.mp h
    have htail : ∀ x : α, (entries readKey d room (es.map (entryField key encode)) >>=
        fun xs => .ok ((e.1, x) :: xs)) =
          within (fieldsLevels (es.map (entryField key encode))) room ((e.1, x) :: es) := by
      intro x
      rw [ih hes, within_bind_ok]
    rw [List.map_cons, entryField, entries, hkey, he.read, fieldsLevels,
      ← within_bind_within (fun x => (e.1, x) :: es)]
    exact congrArg _ (funext htail)

theorem Value.table_eq [Ord κ] (t : Table κ α) :
    Value.table key encode t = .object (t.entries.map (entryField key encode)) none := by
  rw [Value.table, Value.record, List.map_map]
  rfl

/-- A decoder of tables reads a table whose keys and values are read. -/
theorem Decoder.table_reads [Ord κ] [Std.TransOrd κ] [Std.LawfulEqOrd κ] (room : Nat)
    (t : Table κ α)
    (hkey : ∀ k, readKey (Literal.ofString (key k)) = .ok k)
    (h : ∀ k a, (k, a) ∈ t.entries → d.Reads (room - 1) (encode a) a) :
    (Decoder.table readKey d).Reads room (.table key encode t) t where
  written := by
    rw [Value.table_eq]
    refine ⟨fieldsWritten_iff.mpr fun f hf => ?_, rfl⟩
    obtain ⟨e, he, rfl⟩ := List.mem_map.mp hf
    exact ⟨Literal.written_ofString _, (h e.1 e.2 he).written⟩
  read := by
    rw [Value.table_eq, Decoder.table]
    cases room with
    | zero => rfl
    | succ room =>
      have hentries := entries_of_reads hkey fun e he => h e.1 e.2 he
      rw [Nat.add_sub_cancel] at hentries
      have hmap : Decoder.map readKey d (room + 1)
          (.object (t.entries.map (entryField key encode)) none) =
            within (fieldsLevels (t.entries.map (entryField key encode))) room t.entries := by
        rw [Decoder.map, hentries]
        exact within_bind_ok id _ room t.entries
      rw [hmap, map_within, Value.levels, within_succ_succ, Table.ofList_entries]

end Tables

/-! ### Keys -/

theorem Key.named_ofString {known : List (String × α)} {name : String} {a : α}
    (h : Decoder.named? known name = some a) :
    named known (Literal.ofString name) = .ok a := by
  rw [named, Literal.text_ofString]
  change Decoder.lookupVariant known none name = .ok a
  simp only [Decoder.lookupVariant, h]

theorem signs_ofDigits (ds : List Digit) :
    (Literal.ofString (String.ofList (ds.map Digit.char))).signs = ds.map Digit.char ++ ['"'] := by
  have hsign : ∀ d : Digit, (Literal.pieceOf d.char).sign = d.char := by decide
  have hpieces : (ds.map Digit.char).map (fun c => (Literal.pieceOf c).sign) =
      ds.map Digit.char := by
    rw [List.map_map]
    exact List.map_congr_left fun d _ => hsign d
  rw [Literal.signs, Literal.ofString, String.toList_ofList, List.map_map]
  exact congrArg (· ++ ['"']) hpieces

/-- **A number as a key is read back.** -/
theorem Key.word32_ofString (w : UInt32) :
    word32 (Literal.ofString (String.ofList (Decimal.text w.toNat))) = .ok w := by
  have hsigns : (Literal.ofString (String.ofList (Decimal.text w.toNat))).signs =
      (Numeral.ofNat w.toNat).text ++ ['"'] := by
    rw [Decimal.text, signs_ofDigits]
    simp [Numeral.text, Numeral.ofNat]
  have hwritten := Numeral.written_ofNat w.toNat
  have hends : EndsNumber ['"'] := endsNumber_cons (by decide)
  have hread := Numeral.readNumeral_append hwritten hends
  have hword : Decoder.word32 0 (.number (Numeral.ofNat w.toNat)) = .ok w := by
    have h := (Decoder.word32_reads 0 w).read
    rwa [Value.nat, Value.levels, within_zero] at h
  -- the first sign is that of a number, so the key is read as one
  obtain ⟨c, cs, htext, hc⟩ := hwritten.text_eq_cons
  have hbegins : beginsNumber c = true := by
    rw [beginsNumber, Bool.or_eq_true, decide_eq_true_eq]
    exact hc
  rw [Key.word32, hsigns, hread, htext]
  simp only [List.cons_append, List.head?_cons, Option.any_some, hbegins, if_true, hword]
  rfl

end PlatformAudit.Json
