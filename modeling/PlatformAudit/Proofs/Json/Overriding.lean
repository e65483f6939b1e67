import PlatformAudit.Proofs.Json.Record

/-!
# Documents that name some fields

A record whose fields have defaults reads an object with any of its fields, in any order and
among others that it does not know. The value of a field is what its own decoder makes of what the
object has under its name, or the default (`PlatformAudit.Json.Field.Given`), and nothing else in
the object counts (`PlatformAudit.Json.Record.Overridden.decoder`).

The induction is on the record. To the record without its last field, the last field is one more
that it does not know, so the whole object is read twice: once into the slots before the last, which
is known by induction, and once more with the last slot beside them
(`PlatformAudit.Json.Record.foldlM_readField_last`).

What is valid as a document of its own is valid inside another, where there is less room for
nesting. This holds of decoders that enter only so many levels
(`PlatformAudit.Json.Decoder.Shallow`).
-/

namespace PlatformAudit.Json

variable {α β : Type}

/-! ### Room -/

/-- A check refines another if all it comes to is what the other comes to. -/
def Refines (x y : Checked α) : Prop :=
  ∀ a, x = .ok a → y = .ok a

theorem Refines.refl (x : Checked α) : Refines x x :=
  fun _ h => h

theorem Refines.of_error (e : DecodeError) (y : Checked α) : Refines (.error e) y :=
  fun _ h => nomatch h

theorem Refines.bind {x y : Checked α} {f g : α → Checked β} (h : Refines x y)
    (hfg : ∀ a, Refines (f a) (g a)) : Refines (x >>= f) (y >>= g) := by
  intro b hb
  cases x with
  | error e => cases hb
  | ok a =>
    rw [h a rfl]
    exact hfg a b hb

theorem Refines.rel_map {x y : Option (Checked α)} (h : Option.Rel Refines x y) (f : α → β) :
    Option.Rel Refines (x.map fun read => read >>= fun a => pure (f a))
      (y.map fun read => read >>= fun a => pure (f a)) := by
  cases h with
  | none => exact .none
  | some hread => exact .some (hread.bind fun _ => .refl _)

/-- **A decoder enters only so many levels**: what it reads with any room it reads with as much
room as that. -/
def Decoder.Shallow (d : Decoder α) (levels : ℕ) : Prop :=
  ∀ room room' v, levels ≤ room' → Refines (d room v) (d room' v)

namespace Decoder

theorem Shallow.mono {d : Decoder α} {m n : ℕ} (h : d.Shallow m) (hmn : m ≤ n) : d.Shallow n :=
  fun room room' v hroom => h room room' v (Nat.le_trans hmn hroom)

theorem shallow_text : text.Shallow 0 := by
  intro room room' v _
  cases v <;> exact .refl _

theorem shallow_bool : bool.Shallow 0 := by
  intro room room' v _
  cases v <;> exact .refl _

theorem unit_eq_unit (room room' : ℕ) (v : Value) : unit room v = unit room' v := by
  cases v <;> rfl

theorem shallow_variant (known : List (String × α)) (other : Option α) :
    (variant known other).Shallow 1 := by
  intro room room' v hroom
  obtain ⟨room', rfl⟩ := Nat.exists_eq_add_of_le' hroom
  cases v with
  | object fs fault =>
    cases room with
    | zero => exact .of_error _ _
    | succ room =>
      cases fs with
      | nil => cases fault <;> exact .refl _
      | cons f fs =>
        rw [variant, variant, unit_eq_unit room room']
        exact .refl _
  | gap g => cases g <;> cases room <;> exact .refl _
  | _ => cases room <;> exact .refl _

theorem items_refines {d : Decoder α} {levels room room' : ℕ} (h : d.Shallow levels)
    (hroom : levels ≤ room') (vs : List Value) :
    Refines (items d room vs) (items d room' vs) := by
  induction vs with
  | nil => exact .refl _
  | cons v vs ih => exact (h room room' v hroom).bind fun a => ih.bind fun _ => .refl _

theorem Shallow.list {d : Decoder α} {levels : ℕ} (h : d.Shallow levels) :
    d.list.Shallow (levels + 1) := by
  intro room room' v hroom
  obtain ⟨room', rfl⟩ := Nat.exists_eq_add_of_le' hroom
  cases v with
  | array vs fault =>
    cases room with
    | zero => exact .of_error _ _
    | succ room => exact (items_refines h (Nat.le_add_left _ _) vs).bind fun _ => .refl _
  | _ => cases room <;> exact .refl _

end Decoder

namespace Record

variable {levels room room' : ℕ} {r : Record α}

/-- The decoders of all fields enter only so many levels. -/
def Shallow (levels : ℕ) : {α : Type} → Record α → Prop
  | _, .build _ => True
  | _, .and init last => init.Shallow levels ∧ last.decoder.Shallow levels

theorem readNamed_refines (h : r.Shallow levels) (hroom : levels ≤ room') (name : String)
    (v : Value) (slots : r.Slots) :
    Option.Rel Refines (r.readNamed name room v slots) (r.readNamed name room' v slots) := by
  induction r with
  | build a => exact .none
  | and init last ih =>
    rw [readNamed, readNamed]
    split
    next =>
      refine .some ?_
      cases slots.latest with
      | some _ => exact .refl _
      | none => exact (h.2 room room' v hroom).bind fun _ => .refl _
    next => exact Refines.rel_map (ih h.1 slots.earlier) _

theorem readIndexed_refines (h : r.Shallow levels) (hroom : levels ≤ room') (index : ℕ)
    (v : Value) (slots : r.Slots) :
    Option.Rel Refines (r.readIndexed index room v slots) (r.readIndexed index room' v slots) := by
  induction r with
  | build a => exact .none
  | and init last ih =>
    rw [readIndexed, readIndexed]
    split
    next => exact .some ((h.2 room room' v hroom).bind fun _ => .refl _)
    next => exact Refines.rel_map (ih h.1 slots.earlier) _

theorem readFields_refines (h : r.Shallow levels) (hroom : levels ≤ room')
    (fs : List (Literal × Value)) (slots : r.Slots) :
    Refines (r.readFields room fs slots) (r.readFields room' fs slots) := by
  induction fs generalizing slots with
  | nil => exact .refl _
  | cons f fs ih =>
    rw [readFields, readFields]
    refine (Refines.refl _).bind fun name => ?_
    have hnamed : Option.Rel Refines (r.readNamed name room f.2 slots)
        (r.readNamed name room' f.2 slots) := readNamed_refines h hroom name f.2 slots
    generalize r.readNamed name room f.2 slots = x, r.readNamed name room' f.2 slots = y at *
    cases hnamed with
    | none => exact (Refines.refl _).bind fun _ => ih slots
    | some hread => exact hread.bind ih

theorem readItems_refines (h : r.Shallow levels) (hroom : levels ≤ room') (index : ℕ)
    (vs : List Value) (slots : r.Slots) :
    Refines (r.readItems room index vs slots) (r.readItems room' index vs slots) := by
  induction vs generalizing index slots with
  | nil => exact .refl _
  | cons v vs ih =>
    rw [readItems, readItems]
    have hindexed : Option.Rel Refines (r.readIndexed index room v slots)
        (r.readIndexed index room' v slots) := readIndexed_refines h hroom index v slots
    generalize r.readIndexed index room v slots = x, r.readIndexed index room' v slots = y at *
    cases hindexed with
    | none => exact .refl _
    | some hread => exact hread.bind (ih (index + 1))

/-- **A record enters one level more than its fields.** -/
theorem Shallow.decoder (h : r.Shallow levels) (name : String) :
    (r.decoder name).Shallow (levels + 1) := by
  intro room room' v hroom
  obtain ⟨room', rfl⟩ := Nat.exists_eq_add_of_le' hroom
  have hlevels : levels ≤ room' + levels := Nat.le_add_left _ _
  cases v with
  | array vs fault =>
    cases room with
    | zero => exact .of_error _ _
    | succ room => exact (readItems_refines h hlevels 0 vs r.empty).bind fun _ => .refl _
  | object fs fault =>
    cases room with
    | zero => exact .of_error _ _
    | succ room => exact (readFields_refines h hlevels fs r.empty).bind fun _ => .refl _
  | _ => cases room <;> exact .refl _

end Record

/-! ### Fields of an object -/

/-- **A document is an object with these fields**, in the order of the text. Its keys stand for
texts, and its values are well-formed. -/
def Value.HasFields (v : Value) (fields : List (String × Value)) : Prop :=
  ∃ fs, v = .object fs none ∧ List.Forall₂ (fun raw f => raw.1.text = .ok f.1 ∧ raw.2 = f.2) fs
    fields ∧ ∀ f ∈ fields, f.2.skip = .ok ()

theorem Value.HasFields.unique {v : Value} {fields fields' : List (String × Value)}
    (h : v.HasFields fields) (h' : v.HasFields fields') : fields = fields' := by
  obtain ⟨fs, rfl, hfields, -⟩ := h
  obtain ⟨fs', hfs, hfields', -⟩ := h'
  obtain ⟨rfl, -⟩ := Value.object.inj hfs
  clear hfs
  induction hfields generalizing fields' with
  | nil =>
    cases hfields'
    rfl
  | cons hf _ ih =>
    cases hfields' with
    | cons hf' hrest =>
      rw [ih hrest]
      refine congrArg (· :: _) (Prod.ext ?_ (hf.2.symm.trans hf'.2))
      exact Except.ok.inj (hf.1.symm.trans hf'.1)

/-- An object has no field of this name twice. -/
def Once (fields : List (String × Value)) (name : String) : Prop :=
  (fields.map (·.1)).count name ≤ 1

instance (fields : List (String × Value)) (name : String) : Decidable (Once fields name) :=
  Nat.decLe _ _

variable {fields : List (String × Value)} {name : String}

theorem count_names_eq_zero_iff :
    (fields.map (·.1)).count name = 0 ↔ ∀ v, (name, v) ∉ fields := by
  rw [List.count_eq_zero, List.mem_map]
  constructor
  · exact fun h v hv => h ⟨(name, v), hv, rfl⟩
  · rintro h ⟨⟨_, v⟩, hv, rfl⟩
    exact h v hv

theorem once_cons_iff {f : String × Value} :
    Once (f :: fields) name ↔ Once fields name ∧ (f.1 = name → ∀ v, (name, v) ∉ fields) := by
  rw [Once, Once, List.map_cons, List.count_cons, ← count_names_eq_zero_iff]
  rcases eq_or_ne f.1 name with h | h
  · rw [if_pos (beq_iff_eq.mpr h)]
    constructor
    · exact fun hcount => ⟨by omega, fun _ => by omega⟩
    · rintro ⟨-, hzero⟩
      rw [hzero h]
  · rw [if_neg (mt beq_iff_eq.mp h)]
    exact ⟨fun hcount => ⟨hcount, fun heq => absurd heq h⟩, fun hcount => hcount.1⟩

theorem Once.unique (h : Once fields name) {v v' : Value} (hv : (name, v) ∈ fields)
    (hv' : (name, v') ∈ fields) : v = v' := by
  induction fields with
  | nil => cases hv
  | cons f fields ih =>
    obtain ⟨hfields, hf⟩ := once_cons_iff.mp h
    rcases List.mem_cons.mp hv with rfl | htail
    · rcases List.mem_cons.mp hv' with heq | htail'
      · exact (Prod.mk.inj heq).2.symm
      · exact absurd htail' (hf rfl v')
    · rcases List.mem_cons.mp hv' with rfl | htail'
      · exact absurd htail (hf rfl v)
      · exact ih hfields htail htail'

/-- **The value of a field by an object**: what its decoder makes of what the object has under its
name, or the default if there is nothing. -/
structure Field.Given (field : Field α) (room : ℕ) (fields : List (String × Value)) (a : α) :
    Prop where
  once : Once fields field.name
  named : ∀ v, (field.name, v) ∈ fields → field.decoder room v = .ok a
  unnamed : (∀ v, (field.name, v) ∉ fields) → field.default = some a

namespace Record

/-- **A record with the values that an object gives its fields**, each for itself. -/
inductive Overridden (room : ℕ) (fields : List (String × Value)) :
    {α : Type} → Record α → α → Prop where
  | build {α : Type} (a : α) : Overridden room fields (.build a) a
  | field {α β : Type} {init : Record (α → β)} {last : Field α} {f : α → β} {a : α}
      (h : Overridden room fields init f) (ha : last.Given room fields a) :
      Overridden room fields (init.and last) (f a)

variable {room : ℕ}

theorem readNamed_of_notMem_names {r : Record α} (h : name ∉ r.names) (v : Value)
    (slots : r.Slots) : r.readNamed name room v slots = none := by
  induction r with
  | build a => rfl
  | and init last ih =>
    have hlast : last.name ≠ name := fun heq => h (heq ▸ List.mem_cons_self ..)
    rw [readNamed, if_neg hlast, ih fun hinit => h (List.mem_cons_of_mem _ hinit),
      Option.map_none]

/-- A field that a record does not know changes nothing. -/
theorem readField_of_notMem_names {r : Record α} {f : String × Value} (h : f.1 ∉ r.names)
    (hskip : f.2.skip = .ok ()) (slots : r.Slots) : r.readField room slots f = .ok slots := by
  rw [readField, readNamed_of_notMem_names h, hskip]
  rfl

/-- **The last field is read beside the others.** -/
theorem foldlM_readField_last {init : Record (α → β)} {last : Field α} {a : α}
    (hlast : last.name ∉ init.names) (honce : Once fields last.name)
    (hskip : ∀ f ∈ fields, f.2.skip = .ok ())
    (hnamed : ∀ v, (last.name, v) ∈ fields → last.decoder room v = .ok a)
    {slots slots' : init.Slots} (hinit : fields.foldlM (init.readField room) slots = .ok slots') :
    fields.foldlM ((init.and last).readField room) (Slots.join slots none) =
      .ok (Slots.join slots' ((fields.find? (·.1 = last.name)).map fun _ => a)) := by
  induction fields generalizing slots with
  | nil =>
    obtain rfl := Except.ok.inj hinit
    rfl
  | cons f fields ih =>
    obtain ⟨honce, hrest⟩ := once_cons_iff.mp honce
    obtain ⟨hskipf, hskip⟩ := List.forall_mem_cons.mp hskip
    rw [List.foldlM_cons] at hinit ⊢
    rcases eq_or_ne f.1 last.name with heq | hne
    · obtain ⟨_, v⟩ := f
      obtain rfl : _ = last.name := heq
      -- the others do not know the field, and it does not come again
      have hothers : ∀ g ∈ fields, g.1 ≠ last.name := fun g hg hname =>
        hrest rfl g.2 (hname ▸ hg)
      rw [readField_of_notMem_names hlast hskipf] at hinit
      have hinit : fields.foldlM (init.readField room) slots = .ok slots' := hinit
      rw [readField_last, hnamed v (List.mem_cons_self ..), List.find?_cons_of_pos (by simp)]
      change fields.foldlM ((init.and last).readField room) (Slots.join slots (some a)) = _
      rw [foldlM_readField_and init last hothers, hinit]
      rfl
    · rw [readField_and init last hne, List.find?_cons_of_neg (by simpa using hne)]
      cases hf : init.readField room slots f with
      | error e =>
        rw [hf] at hinit
        cases hinit
      | ok s =>
        rw [hf] at hinit
        exact ih honce hskip (fun v hv => hnamed v (List.mem_cons_of_mem _ hv)) hinit

theorem find?_eq_none_iff_unnamed :
    fields.find? (·.1 = name) = none ↔ ∀ v, (name, v) ∉ fields := by
  rw [List.find?_eq_none]
  constructor
  · exact fun h v hv => h (name, v) hv (decide_eq_true rfl)
  · rintro h ⟨_, v⟩ hv hname
    obtain rfl := of_decide_eq_true hname
    exact h v hv

/-- An object fills the slots that the record is built from. -/
theorem Overridden.exists_slots {r : Record α} {a : α} (h : r.Overridden room fields a)
    (hnames : r.names.Nodup) (hskip : ∀ f ∈ fields, f.2.skip = .ok ()) :
    ∃ slots, fields.foldlM (r.readField room) r.empty = .ok slots ∧
      r.finishObject slots = .ok a := by
  induction h with
  | build a =>
    refine ⟨(), ?_, rfl⟩
    clear hnames
    induction fields with
    | nil => rfl
    | cons f fields ih =>
      obtain ⟨hskipf, hskip⟩ := List.forall_mem_cons.mp hskip
      rw [List.foldlM_cons, readField_of_notMem_names List.not_mem_nil hskipf]
      exact ih hskip
  | @field α β init last f a h ha ih =>
    obtain ⟨hlast, hinit⟩ := List.nodup_cons.mp hnames
    obtain ⟨slots, hread, hfinish⟩ := ih hinit
    refine ⟨_, foldlM_readField_last hlast ha.once hskip ha.named hread,
      finishObject_and hfinish ?_⟩
    cases hfound : fields.find? (·.1 = last.name) with
    | none => exact ha.unnamed (find?_eq_none_iff_unnamed.mp hfound)
    | some g => rfl

/-- **A record reads an object with the values that it gives the fields.** -/
theorem Overridden.decoder {r : Record α} {a : α} {v : Value} (h : r.Overridden room fields a)
    (hnames : r.names.Nodup) (name : String) (hv : v.HasFields fields) :
    r.decoder name (room + 1) v = .ok a := by
  obtain ⟨fs, rfl, hfields, hskip⟩ := hv
  obtain ⟨slots, hread, hfinish⟩ := h.exists_slots hnames hskip
  rw [Record.decoder, readFields_eq_foldlM r hfields, hread]
  exact hfinish

end Record

/-! ### Documents of their own -/

/-- A value is valid if it is accepted as a document of its own. -/
def Decoder.Accepts (d : Decoder α) (v : Value) : Prop :=
  ∃ a, d nestingLimit v = .ok a

/-- **An object has a field at most once, and with a valid value.** -/
structure Proper (fields : List (String × Value)) (name : String) (Valid : Value → Prop) :
    Prop where
  once : Once fields name
  valid : ∀ v, (name, v) ∈ fields → Valid v

theorem Proper.imp {Valid Valid' : Value → Prop} (h : Proper fields name Valid)
    (himp : ∀ v, Valid v → Valid' v) : Proper fields name Valid' :=
  ⟨h.once, fun v hv => himp v (h.valid v hv)⟩

/-- **An object overrides a default**, if it has the field at all, with what the value there is as
a document of its own. -/
structure Gives (fields : List (String × Value)) (name : String) (d : Decoder α)
    (default a : α) : Prop where
  named : ∀ v, (name, v) ∈ fields → d nestingLimit v = .ok a
  unnamed : (∀ v, (name, v) ∉ fields) → a = default

/-- Inside an object there is room for one level less than in a document. -/
theorem Proper.exists_gives {d : Decoder α} (h : Proper fields name d.Accepts)
    (hd : d.Shallow (nestingLimit - 1)) (default : α) :
    ∃ a, Gives fields name d default a ∧
      (Field.withDefault name d default).Given (nestingLimit - 1) fields a := by
  by_cases hnamed : ∃ v, (name, v) ∈ fields
  · obtain ⟨v, hv⟩ := hnamed
    obtain ⟨a, ha⟩ := h.valid v hv
    have hall (v' : Value) (hv' : (name, v') ∈ fields) : d nestingLimit v' = .ok a := by
      rw [h.once.unique hv' hv, ha]
    refine ⟨a, ⟨hall, fun hnone => absurd hv (hnone v)⟩, h.once, fun v' hv' => ?_,
      fun hnone => absurd hv (hnone v)⟩
    exact hd _ _ v' (Nat.le_refl _) a (hall v' hv')
  · have hnone (v : Value) : (name, v) ∉ fields := fun hv => hnamed ⟨v, hv⟩
    exact ⟨default, ⟨fun v hv => absurd hv (hnone v), fun _ => rfl⟩, h.once,
      fun v hv => absurd hv (hnone v), fun _ => rfl⟩

/-- A value of a type of records: an object with proper fields, or an array that is accepted. -/
def IsRecord (ProperFields : List (String × Value) → Prop) (d : Decoder α) (v : Value) : Prop :=
  (∃ fields, v.HasFields fields ∧ ProperFields fields) ∨
    (∃ vs fault, v = .array vs fault) ∧ d.Accepts v

section Nested

variable {d : Decoder α} {ProperFields : List (String × Value) → Prop}
  {Overrides : List (String × Value) → α → Prop} {v : Value}
  (hd : ∀ v fields, v.HasFields fields → ProperFields fields →
    ∃ a, d nestingLimit v = .ok a ∧ Overrides fields a)

include hd

theorem IsRecord.accepts (h : IsRecord ProperFields d v) : d.Accepts v := by
  rcases h with ⟨fields, hv, hfields⟩ | ⟨-, haccepts⟩
  · obtain ⟨a, ha, -⟩ := hd v fields hv hfields
    exact ⟨a, ha⟩
  · exact haccepts

/-- What an object inside another overrides. -/
theorem IsRecord.overrides (h : IsRecord ProperFields d v) (hv : v.HasFields fields) {a : α}
    (ha : d nestingLimit v = .ok a) : Overrides fields a := by
  rcases h with ⟨fields', hv', hfields⟩ | ⟨⟨vs, fault, rfl⟩, -⟩
  · obtain rfl := hv.unique hv'
    obtain ⟨a', ha', hoverrides⟩ := hd v fields hv hfields
    obtain rfl := Except.ok.inj (ha.symm.trans ha')
    exact hoverrides
  · obtain ⟨fs, hfs, -⟩ := hv
    cases hfs

end Nested

end PlatformAudit.Json
