import Mathlib.Data.List.Forall2
import PlatformAudit.Json.Record
import PlatformAudit.Proofs.Json.Codec

/-!
# Records read what was written

A record reads an object field by field into slots, and each field goes into the slot of
its name. If the names are distinct, reading the fields before the last one leaves the
slot of the last one as it is (`PlatformAudit.Json.Record.foldlM_readField_and`). So an
object that has the fields in the order of declaration fills the slots one after the
other (`PlatformAudit.Json.Record.Reads.exists_slots`), and the slots of fields that were
left out give their defaults.

What a record reads as which value is put together field by field, in the order of its
description (`PlatformAudit.Json.Record.Reads`), and
`PlatformAudit.Json.Record.Reads.decoder` makes it a statement about the decoder.
-/

namespace PlatformAudit.Json

namespace Record

/-- The names of the fields. -/
def names : {α : Type} → Record α → List String
  | _, .build _ => []
  | _, .and init last => last.name :: init.names

/-- **The fields of an object that a record reads as `a`**: they stand in the order of
declaration, each is read by its own decoder, and a field that is left out has its value as
default. -/
inductive Reads (room : Nat) : {α : Type} → Record α → List (String × Value) → α → Prop where
  | build {α : Type} (a : α) : Reads room (.build a) [] a
  | field {α β : Type} {init : Record (α → β)} {last : Field α} {fields : List (String × Value)}
      {f : α → β} {v : Value} {a : α} (h : Reads room init fields f)
      (hv : last.decoder.Reads room v a) :
      Reads room (init.and last) (fields ++ [(last.name, v)]) (f a)
  | leftOut {α β : Type} {init : Record (α → β)} {last : Field α} {fields : List (String × Value)}
      {f : α → β} {a : α} (h : Reads room init fields f) (ha : last.default = some a) :
      Reads room (init.and last) fields (f a)

variable {α β : Type} {room : Nat}

/-- The names that an object has are names of the record. -/
theorem Reads.mem_names {r : Record α} {fields : List (String × Value)} {a : α}
    (h : r.Reads room fields a) : ∀ f ∈ fields, f.1 ∈ r.names := by
  induction h with
  | build a => exact List.forall_mem_nil _
  | field h hv ih =>
    refine List.forall_mem_append.mpr ⟨fun f hf => List.mem_cons_of_mem _ (ih f hf), ?_⟩
    exact List.forall_mem_singleton.mpr List.mem_cons_self
  | leftOut h ha ih => exact fun f hf => List.mem_cons_of_mem _ (ih f hf)

theorem Reads.written {r : Record α} {fields : List (String × Value)} {a : α}
    (h : r.Reads room fields a) : ∀ f ∈ fields, f.2.Written := by
  induction h with
  | build a => exact List.forall_mem_nil _
  | field h hv ih =>
    exact List.forall_mem_append.mpr ⟨ih, List.forall_mem_singleton.mpr hv.written⟩
  | leftOut h ha ih => exact ih

/-- The fields of an object as they are written. -/
def literals (fields : List (String × Value)) : List (Literal × Value) :=
  fields.map fun f => (Literal.ofString f.1, f.2)

/-- Reads one field of an object. -/
def readField (r : Record α) (room : Nat) (slots : r.Slots) (f : String × Value) :
    Checked r.Slots :=
  match r.readNamed f.1 room f.2 slots with
  | some read => read
  | none => do
    f.2.skip
    return slots

/-- An object is read field by field, whatever way its keys are written. -/
theorem readFields_eq_foldlM (r : Record α) {fs : List (Literal × Value)}
    {fields : List (String × Value)}
    (h : List.Forall₂ (fun raw f => raw.1.text = .ok f.1 ∧ raw.2 = f.2) fs fields)
    (slots : r.Slots) :
    r.readFields room fs slots = fields.foldlM (r.readField room) slots := by
  induction h generalizing slots with
  | nil => rfl
  | @cons raw f fs fields hraw _ ih =>
    obtain ⟨key, v⟩ := raw
    obtain ⟨hkey, rfl⟩ := hraw
    rw [readFields, hkey, List.foldlM_cons, readField]
    change (match r.readNamed f.1 room f.2 slots with
      | some read => read >>= r.readFields room fs
      | none => f.2.skip >>= fun _ => r.readFields room fs slots) = _
    cases r.readNamed f.1 room f.2 slots with
    | some read => exact congrArg _ (funext ih)
    | none =>
      simp only [bind_assoc, pure_bind, ih]

theorem readFields_literals (r : Record α) (fields : List (String × Value)) (slots : r.Slots) :
    r.readFields room (literals fields) slots = fields.foldlM (r.readField room) slots := by
  refine readFields_eq_foldlM r (List.forall₂_map_left_iff.mpr ?_) slots
  exact List.forall₂_same.mpr fun f _ => ⟨Literal.text_ofString f.1, rfl⟩

/-- A field with another name leaves the slot of the last field as it is. -/
theorem readField_and (init : Record (α → β)) (last : Field α) {f : String × Value}
    (h : f.1 ≠ last.name) (slots : init.Slots) (latest : Option α) :
    (init.and last).readField room (Slots.join slots latest) f =
      (Slots.join · latest) <$> init.readField room slots f := by
  have hnamed : (init.and last).readNamed f.1 room f.2 (Slots.join slots latest) =
      (init.readNamed f.1 room f.2 slots).map ((Slots.join · latest) <$> ·) := by
    rw [readNamed, if_neg (Ne.symm h)]
    rfl
  rw [readField, readField, hnamed]
  cases init.readNamed f.1 room f.2 slots with
  | some read => rfl
  | none =>
    simp only [Option.map_none, map_bind, map_pure]

/-- **Fields with other names leave the slot of the last field as it is.** -/
theorem foldlM_readField_and (init : Record (α → β)) (last : Field α)
    {fields : List (String × Value)} (h : ∀ f ∈ fields, f.1 ≠ last.name) (slots : init.Slots)
    (latest : Option α) :
    fields.foldlM ((init.and last).readField room) (Slots.join slots latest) =
      (Slots.join · latest) <$> fields.foldlM (init.readField room) slots := by
  induction fields generalizing slots with
  | nil => rfl
  | cons f fields ih =>
    obtain ⟨hf, hfields⟩ := List.forall_mem_cons.mp h
    rw [List.foldlM_cons, List.foldlM_cons, readField_and init last hf, map_bind, bind_map_left]
    exact congrArg _ (funext (ih hfields))

theorem readField_last (init : Record (α → β)) (last : Field α) (slots : init.Slots) (v : Value) :
    (init.and last).readField room (Slots.join slots none) (last.name, v) =
      (fun a => Slots.join slots (some a)) <$> last.decoder room v := by
  rw [readField, readNamed, if_pos rfl]
  rfl

theorem finishObject_and {init : Record (α → β)} {last : Field α} {slots : init.Slots}
    {f : α → β} (h : init.finishObject slots = .ok f) {latest : Option α} {a : α}
    (ha : (latest <|> last.default) = some a) :
    (init.and last).finishObject (Slots.join slots latest) = .ok (f a) := by
  have hearlier : (Slots.join slots latest : (init.and last).Slots).earlier = slots := rfl
  have hlatest : (Slots.join slots latest : (init.and last).Slots).latest = latest := rfl
  rw [finishObject, hearlier, hlatest, h, ha]
  rfl

/-- The fields before the last one do not have its name. -/
theorem Reads.ne_last {init : Record (α → β)} {last : Field α} {fields : List (String × Value)}
    {f : α → β} (h : init.Reads room fields f) (hnames : (init.and last).names.Nodup) :
    ∀ g ∈ fields, g.1 ≠ last.name := by
  obtain ⟨hlast, -⟩ := List.nodup_cons.mp hnames
  intro g hg hname
  exact hlast (hname ▸ h.mem_names g hg)

/-- An object that a record reads as `a` fills the slots that `a` is built from. -/
theorem Reads.exists_slots {r : Record α} {fields : List (String × Value)} {a : α}
    (h : r.Reads room fields a) (hnames : r.names.Nodup) :
    ∃ slots, fields.foldlM (r.readField room) r.empty =
        within (fieldsLevels (literals fields)) room slots ∧ r.finishObject slots = .ok a := by
  induction h with
  | build a => exact ⟨(), rfl, rfl⟩
  | @field α β init last fields f v a h hv ih =>
    obtain ⟨slots, hread, hfinish⟩ := ih (List.nodup_cons.mp hnames).2
    refine ⟨Slots.join slots (some a), ?_, finishObject_and hfinish rfl⟩
    have hlevels : fieldsLevels (literals (fields ++ [(last.name, v)])) =
        max (fieldsLevels (literals fields)) v.levels := by
      rw [literals, List.map_append, fieldsLevels_append]
      simp [fieldsLevels, literals]
    have hstep : ∀ s : init.Slots,
        [(last.name, v)].foldlM ((init.and last).readField room) (Slots.join s none) =
          within v.levels room (Slots.join s (some a)) := by
      intro s
      rw [List.foldlM_cons, readField_last, hv.read, map_within]
      exact within_bind_ok id _ room _
    rw [List.foldlM_append, empty, foldlM_readField_and init last (h.ne_last hnames), hread,
      hlevels, ← within_bind_within fun s => Slots.join s (some a), bind_map_left]
    exact congrArg _ (funext hstep)
  | @leftOut α β init last fields f a h ha ih =>
    obtain ⟨slots, hread, hfinish⟩ := ih (List.nodup_cons.mp hnames).2
    refine ⟨Slots.join slots none, ?_, finishObject_and hfinish ha⟩
    rw [empty, foldlM_readField_and init last (h.ne_last hnames), hread, map_within]

/-- **A record reads the object of its fields.** -/
theorem Reads.decoder {r : Record α} {fields : List (String × Value)} {a : α}
    (h : r.Reads (room - 1) fields a) (name : String) (hnames : r.names.Nodup) :
    (r.decoder name).Reads room (.record fields) a where
  written := by
    refine ⟨fieldsWritten_iff.mpr fun f hf => ?_, rfl⟩
    obtain ⟨g, hg, rfl⟩ := List.mem_map.mp hf
    exact ⟨Literal.written_ofString g.1, h.written g hg⟩
  read := by
    change r.decoder name room (.object (literals fields) none) =
      within (fieldsLevels (literals fields) + 1) room a
    cases room with
    | zero => rfl
    | succ room =>
      obtain ⟨slots, hread, hfinish⟩ := h.exists_slots hnames
      rw [Nat.add_sub_cancel] at hread
      rw [Record.decoder, readFields_literals, hread, within_succ_succ]
      change (within _ room slots >>= r.finishObject) = _
      rw [within, within]
      split
      · exact hfinish
      · rfl

/-! ### Fields of records -/

section Fields

variable {init : Record (α → β)} {fields : List (String × Value)} {f : α → β} {d : Decoder α}
  {v : Value} {a : α}

theorem Reads.required (h : init.Reads room fields f) (name : String) (hv : d.Reads room v a) :
    (init.and (.required name d)).Reads room (fields ++ [(name, v)]) (f a) :=
  h.field hv

theorem Reads.withDefault (h : init.Reads room fields f) (name : String) (default : α)
    (hv : d.Reads room v a) :
    (init.and (.withDefault name d default)).Reads room (fields ++ [(name, v)]) (f a) :=
  h.field hv

/-- A field that is left out because it has the default. -/
theorem Reads.unlessDefault (h : init.Reads room fields f) (name : String) (d : Decoder α)
    (default : α) :
    (init.and (.withDefault name d default)).Reads room fields (f default) :=
  h.leftOut rfl

end Fields

section OptionalFields

variable {init : Record (Option α → β)} {fields : List (String × Value)} {f : Option α → β}
  {d : Decoder α} {encode : α → Value}

/-- A field that is written only if it has a value. -/
theorem Reads.fieldIf (h : init.Reads room fields f) (name : String) (o : Option α)
    (hread : ∀ a, d.Reads room (encode a) a) (hnull : ∀ a, encode a ≠ .null) :
    (init.and (.optional name d)).Reads room (fields ++ Value.fieldIf name encode o) (f o) := by
  cases o with
  | none =>
    rw [Value.fieldIf, List.append_nil]
    exact h.leftOut rfl
  | some a => exact h.field ((hread a).optional (hnull a))

/-- A field that is written as `null` if it has no value. -/
theorem Reads.optional (h : init.Reads room fields f) (name : String) (o : Option α)
    (hread : ∀ a, d.Reads room (encode a) a) (hnull : ∀ a, encode a ≠ .null) :
    (init.and (.optional name d)).Reads room (fields ++ [(name, Value.optional encode o)])
      (f o) := by
  cases o with
  | none => exact h.field (d.optional_reads_null room)
  | some a => exact h.field ((hread a).optional (hnull a))

end OptionalFields

end Record

end PlatformAudit.Json
