import PlatformAudit.Json.Decoder

/-!
# Records

A record is described by its fields in the order of their declaration, and the
description alone says how it is read.

* **As an object** its fields come in any order. An unknown field is skipped, a
  known field that comes a second time is refused before its value is read, and
  only after the whole object do missing fields count, the first in the order of
  declaration being the one reported.
* **As an array** the fields come in the order of declaration. A shorter array
  leaves the remaining fields to their defaults, a longer one is malformed.
-/

namespace PlatformAudit.Json

/-- A field of a record. -/
structure Field (α : Type) where
  name : String
  decoder : Decoder α
  /-- The value if the field is not there. -/
  default : Option α

namespace Field

/-- A field that must be there. -/
def required (name : String) (d : Decoder α) : Field α :=
  ⟨name, d, none⟩

/-- A field with a default. -/
def withDefault (name : String) (d : Decoder α) (a : α) : Field α :=
  ⟨name, d, some a⟩

/-- A field that may be missing. -/
def optional (name : String) (d : Decoder α) : Field (Option α) :=
  ⟨name, d.optional, some none⟩

end Field

/-- The description of a record: how it is built, and its fields. -/
inductive Record : Type → Type 1 where
  /-- A record without fields. -/
  | build {α : Type} (a : α) : Record α
  /-- A record with one more field. -/
  | and {α β : Type} (init : Record (α → β)) (last : Field α) : Record β

namespace Record

/-- The number of fields. -/
def size : {α : Type} → Record α → Nat
  | _, .build _ => 0
  | _, .and init _ => init.size + 1

/-- The fields that have been read so far. -/
def Slots : {α : Type} → Record α → Type
  | _, .build _ => Unit
  | _, .and (α := α) init _ => init.Slots × Option α

namespace Slots

variable {α β : Type} {init : Record (α → β)} {last : Field α}

/-- What was read of the fields before the last one. -/
def earlier (slots : (init.and last).Slots) : init.Slots :=
  Prod.fst (α := init.Slots) (β := Option α) slots

/-- What was read of the last field. -/
def latest (slots : (init.and last).Slots) : Option α :=
  Prod.snd (α := init.Slots) (β := Option α) slots

/-- What was read of all fields. -/
def join (earlier : init.Slots) (latest : Option α) : (init.and last).Slots :=
  Prod.mk (α := init.Slots) (β := Option α) earlier latest

end Slots

/-- No field read. -/
def empty : {α : Type} → (r : Record α) → r.Slots
  | _, .build _ => ()
  | _, .and init _ => Slots.join init.empty none

/-- Reads the field with this name, if the record has one. -/
def readNamed (name : String) (room : Nat) (v : Value) :
    {α : Type} → (r : Record α) → r.Slots → Option (Checked r.Slots)
  | _, .build _, _ => none
  | _, .and init last, slots =>
    if last.name = name then
      some <|
        match slots.latest with
        | some _ => refuse (.duplicateField name)
        | none => do return Slots.join slots.earlier (some (← last.decoder room v))
    else
      (init.readNamed name room v slots.earlier).map fun read => do
        return Slots.join (← read) slots.latest

/-- Reads the field at this index, if the record has one. -/
def readIndexed (index : Nat) (room : Nat) (v : Value) :
    {α : Type} → (r : Record α) → r.Slots → Option (Checked r.Slots)
  | _, .build _, _ => none
  | _, .and init last, slots =>
    if index = init.size then
      some (do return Slots.join slots.earlier (some (← last.decoder room v)))
    else
      (init.readIndexed index room v slots.earlier).map fun read => do
        return Slots.join (← read) slots.latest

/-- Builds the record that was written as an object. -/
def finishObject : {α : Type} → (r : Record α) → r.Slots → Checked α
  | _, .build a, _ => .ok a
  | _, .and init last, slots => do
    let f ← init.finishObject slots.earlier
    match slots.latest <|> last.default with
    | some a => return f a
    | none => refuse (.missingField last.name)

/-- Builds the record that was written as an array. -/
def finishArray (expected : String) : {α : Type} → (r : Record α) → r.Slots → Checked α
  | _, .build a, _ => .ok a
  | _, .and init last, slots => do
    let f ← init.finishArray expected slots.earlier
    match slots.latest <|> last.default with
    | some a => return f a
    | none => refuse (.wrongLength init.size expected)

/-- Reads the fields of an object in the order of the text. -/
def readFields {α : Type} (r : Record α) (room : Nat) :
    List (Literal × Value) → r.Slots → Checked r.Slots
  | [], slots => .ok slots
  | (key, v) :: fs, slots => do
    let name ← key.text
    match r.readNamed name room v slots with
    | some read => r.readFields room fs (← read)
    | none => do
      v.skip
      r.readFields room fs slots

/-- Reads the items of an array from an index on; an item beyond the last field is malformed. -/
def readItems {α : Type} (r : Record α) (room : Nat) :
    (index : Nat) → List Value → r.Slots → Checked r.Slots
  | _, [], slots => .ok slots
  | index, v :: vs, slots =>
    match r.readIndexed index room v slots with
    | some read => do r.readItems room (index + 1) vs (← read)
    | none => malformed

/-- How the length of an array is described. -/
def lengthText (name : String) (n : Nat) : String :=
  name ++ " with " ++ String.ofList (Decimal.text n) ++ (if n = 1 then " element" else " elements")

/-- The decoder of a record with this name. -/
def decoder {α : Type} (name : String) (r : Record α) : Decoder α
  | 0, .array _ _ => malformed
  | 0, .object _ _ => malformed
  | room + 1, .array vs fault => do
    let slots ← r.readItems room 0 vs r.empty
    noFault fault
    r.finishArray (lengthText ("struct " ++ name) r.size) slots
  | room + 1, .object fs fault => do
    let slots ← r.readFields room fs r.empty
    noFault (fault.map ObjectFault.fault)
    r.finishObject slots
  | _, v => mismatch v ("struct " ++ name)

end Record

end PlatformAudit.Json
