import PlatformAudit.Proofs.Detect.Ancestors
import PlatformAudit.Proofs.Table
import PlatformAudit.Proofs.Text.Parts

/-!
# Type arguments on a written base type

A declaration may write a base type with type arguments, as in `Base<Item>`. Where a
name is compared with the configured types the arguments are cut off. Where it is
looked up among the known types they are not, so the base type is reported as before
but nothing is known of it any more, and what is reached only through it is lost.

`PlatformAudit.Detect.type_arguments_evidence` says exactly what is lost. Type arguments
make no difference where nothing is known of the base type in the first place, but they
may make one otherwise (`PlatformAudit.Detect.type_arguments_hide_ancestor`).
-/

namespace PlatformAudit.Detect

open Text Code

/-! ### Names with type arguments -/

/-- A node with type arguments after its text. -/
def withTypeArguments (args : String) (n : Node) : Node :=
  { n with text := some (n.label ++ "<" ++ args ++ ">") }

variable {args : String} {base : Node}

/-- The arguments stay part of the name. -/
theorem toList_writtenName_withTypeArguments (args : String) (base : Node) :
    (writtenName (withTypeArguments args base)).toList =
      trimStart base.label.toList ++ '<' :: (args.toList ++ ['>']) := by
  have hlabel : (withTypeArguments args base).label.toList =
      base.label.toList ++ '<' :: (args.toList ++ ['>']) := by
    simp [withTypeArguments, Node.label, String.toList_append]
  rw [writtenName, String.toList_ofList, hlabel]
  exact trim_append_cons_append (by decide) (by decide) _ _

/-- **Arguments do not matter where names are compared.** -/
theorem ancestorNamed?_withTypeArguments (types : List String)
    (hplain : '<' ∉ base.label.toList) :
    ancestorNamed? types (writtenName (withTypeArguments args base)) =
      ancestorNamed? types (writtenName base) := by
  have hstart : '<' ∉ trimStart base.label.toList := fun h => hplain (mem_of_mem_trimStart h)
  have htrim : '<' ∉ trim base.label.toList := fun h => hplain (mem_of_mem_trim h)
  have hname : trim (beforeFirst '<' (writtenName (withTypeArguments args base)).toList) =
      trim (beforeFirst '<' (writtenName base).toList) := by
    rw [toList_writtenName_withTypeArguments, beforeFirst_append_cons hstart, trim_trimStart,
      writtenName, String.toList_ofList, beforeFirst_of_not_mem htrim, trim_trim]
  rw [ancestorNamed?, ancestorNamed?, hname]

/-! ### Tables without type arguments -/

theorem find?_eq_none_of_mem {α : Type} {t : Table String α} {c : Char} {key : String}
    (hkeys : ∀ e ∈ t.entries, c ∉ e.1.toList) (hc : c ∈ key.toList) : t.find? key = none := by
  refine Option.eq_none_iff_forall_ne_some.mpr fun v hv => ?_
  exact hkeys _ (Table.find?_eq_some_iff.mp hv) hc

/-- What ends with a bracket is found neither as it is written nor by its last segment. -/
theorem lookup_eq_none_of_bracket {α : Type} {t : Table String α} {name : String}
    {start : List Char} (hkeys : ∀ e ∈ t.entries, '>' ∉ e.1.toList)
    (hname : name.toList = start ++ ['>']) : SymbolTables.lookup t name = none := by
  have hwhole : '>' ∈ name.toList := by simp [hname]
  have hlast : '>' ∈ (String.ofList (afterLast '.' name.toList)).toList := by
    rw [String.toList_ofList, hname]
    exact mem_afterLast_concat (by decide) start
  rw [SymbolTables.lookup, find?_eq_none_of_mem hkeys hwhole, find?_eq_none_of_mem hkeys hlast]
  rfl

/-- Nothing is known under a name with a closing bracket. -/
structure Bare (tables : SymbolTables) : Prop where
  bases : ∀ e ∈ tables.bases.entries, '>' ∉ e.1.toList
  interfaces : ∀ e ∈ tables.interfaces.entries, '>' ∉ e.1.toList

/-- **Arguments do matter where names are looked up.** -/
theorem not_extends_withTypeArguments {tables : SymbolTables} (h : Bare tables) (args : String)
    (base : Node) (a : String) :
    ¬Extends (some tables.resolver) (writtenName (withTypeArguments args base)) a := by
  have hname : (writtenName (withTypeArguments args base)).toList =
      (trimStart base.label.toList ++ '<' :: args.toList) ++ ['>'] := by
    rw [toList_writtenName_withTypeArguments, List.append_assoc, List.cons_append]
  rintro ⟨r, hr, hbase | hinterface⟩
  · cases hr
    have hnone : tables.resolver.baseType (writtenName (withTypeArguments args base)) = none :=
      lookup_eq_none_of_bracket h.bases hname
    rw [hnone] at hbase
    cases hbase
  · cases hr
    have hnone : tables.resolver.interfaces (writtenName (withTypeArguments args base)) = [] :=
      congrArg (Option.getD · []) (lookup_eq_none_of_bracket h.interfaces hname)
    rw [hnone] at hinterface
    cases hinterface

/-! ### One base type among the others -/

section OneBaseType

variable {resolver : Option Resolver} {decl : Node} {before after : List Node} {a : String}

/-- **Ancestors by way of a base type**: those that the declaration has without it, the base type
itself, and what it leads to. -/
theorem ancestor_insert_iff (hkind : base.kind = .baseType) :
    Ancestor resolver { decl with children := before ++ base :: after } a ↔
      Ancestor resolver { decl with children := before ++ after } a ∨
        Relation.ReflTransGen (Extends resolver) (writtenName base) a := by
  constructor
  · -- an ancestor is reached by way of the base type if the one that led to it is
    intro h
    induction h with
    | @written b hb hb' =>
      by_cases hbase : b = base
      · subst hbase
        exact .inr .refl
      · refine .inl (.written ?_ hb')
        simpa [hbase] using hb
    | known h => exact .inl (.known h)
    | further _ h ih =>
      rcases ih with ih | ih
      · exact .inl (ih.further h)
      · exact .inr (ih.tail h)
  · rintro (h | h)
    · induction h with
      | written hb hb' =>
        refine .written ?_ hb'
        rcases List.mem_append.mp hb with hb | hb
        · exact List.mem_append_left _ hb
        · exact List.mem_append_right _ (List.mem_cons_of_mem _ hb)
      | known h => exact .known h
      | further _ h ih => exact ih.further h
    · induction h with
      | refl => exact .written (List.mem_append_right _ (List.mem_cons_self ..)) hkind
      | tail _ h ih => exact ih.further h

/-- With type arguments a base type adds itself and nothing else. -/
theorem ancestor_insert_withTypeArguments_iff {tables : SymbolTables} (hbare : Bare tables)
    (hkind : base.kind = .baseType) :
    Ancestor (some tables.resolver)
        { decl with children := before ++ withTypeArguments args base :: after } a ↔
      Ancestor (some tables.resolver) { decl with children := before ++ after } a ∨
        a = writtenName (withTypeArguments args base) := by
  have hkind' : (withTypeArguments args base).kind = .baseType := hkind
  rw [ancestor_insert_iff hkind']
  refine or_congr_right ⟨fun h => ?_, fun h => h ▸ .refl⟩
  rcases h.cases_head with rfl | ⟨b, hb, -⟩
  · rfl
  · exact absurd hb (not_extends_withTypeArguments hbare args base b)

end OneBaseType

/-! ### What is reported -/

theorem mem_evidence_iff_of_few {types : List String} {resolver : Option Resolver} {decl : Node}
    {t : String} (hfew : {a | Ancestor resolver decl a}.encard ≤ 256) :
    t ∈ (ancestorHitsAt types resolver decl).map (·.evidence) ↔
      ∃ a, Ancestor resolver decl a ∧ ancestorNamed? types a = some t := by
  have hevidence : (ancestorHitsAt types resolver decl).map (·.evidence) =
      evidenceAt types resolver decl := by
    rw [ancestorHitsAt_eq, List.map_map]
    exact List.map_id _
  rw [hevidence]
  exact mem_evidenceAt_iff_of_few hfew

section OneBaseType

variable {types : List String} {tables : SymbolTables} {decl : Node} {before after : List Node}
  {t : String}

/-- With type arguments there is at most one ancestor more. -/
theorem encard_ancestors_withTypeArguments_le (hbare : Bare tables)
    (hkind : base.kind = .baseType) :
    {a | Ancestor (some tables.resolver)
        { decl with children := before ++ withTypeArguments args base :: after } a}.encard ≤
      {a | Ancestor (some tables.resolver)
        { decl with children := before ++ base :: after } a}.encard + 1 := by
  refine (Set.encard_le_encard ?_).trans
    (Set.encard_insert_le _ (writtenName (withTypeArguments args base)))
  intro a ha
  rcases (ancestor_insert_withTypeArguments_iff hbare hkind).mp ha with ha | rfl
  · exact .inr ((ancestor_insert_iff hkind).mpr (.inl ha))
  · exact .inl rfl

theorem mem_evidence_withTypeArguments_iff (hkind : base.kind = .baseType)
    (hplain : '<' ∉ base.label.toList) (hbare : Bare tables)
    (hfew : {a | Ancestor (some tables.resolver)
      { decl with children := before ++ base :: after } a}.encard < 256) :
    t ∈ (ancestorHitsAt types (some tables.resolver)
        { decl with children := before ++ withTypeArguments args base :: after }).map (·.evidence) ↔
      ancestorNamed? types (writtenName base) = some t ∨
        ∃ a, Ancestor (some tables.resolver) { decl with children := before ++ after } a ∧
          ancestorNamed? types a = some t := by
  rw [mem_evidence_iff_of_few
    ((encard_ancestors_withTypeArguments_le hbare hkind).trans (Order.add_one_le_of_lt hfew))]
  simp only [ancestor_insert_withTypeArguments_iff hbare hkind, or_and_right, exists_or,
    exists_eq_left, ancestorNamed?_withTypeArguments types hplain]
  exact or_comm

theorem mem_evidence_plain_iff {resolver : Option Resolver} (hkind : base.kind = .baseType)
    (hfew : {a | Ancestor resolver
      { decl with children := before ++ base :: after } a}.encard ≤ 256) :
    t ∈ (ancestorHitsAt types resolver
        { decl with children := before ++ base :: after }).map (·.evidence) ↔
      (ancestorNamed? types (writtenName base) = some t ∨
        ∃ a, Ancestor resolver { decl with children := before ++ after } a ∧
          ancestorNamed? types a = some t) ∨
        ∃ a, Relation.TransGen (Extends resolver) (writtenName base) a ∧
          ancestorNamed? types a = some t := by
  rw [mem_evidence_iff_of_few hfew]
  simp only [ancestor_insert_iff hkind, Relation.reflTransGen_iff_eq_or_transGen, or_and_right,
    exists_or, exists_eq_left]
  rw [or_left_comm, or_assoc]

end OneBaseType

/-- **What type arguments on a base type hide.** With them the declaration is reported for the
types that the base type itself or an ancestor without it refers to. Without them it is reported
for the same types, and besides for those that are reached through the base type. So nothing is
hidden if nothing is known of the base type. -/
theorem type_arguments_evidence (types : List String) (tables : SymbolTables) (decl base : Node)
    (before after : List Node) (args : String) (hkind : base.kind = .baseType)
    (hplain : '<' ∉ base.label.toList) (hbare : Bare tables)
    (hfew : {a | Ancestor (some tables.resolver)
      { decl with children := before ++ base :: after } a}.encard < 256) :
    let resolver := some tables.resolver
    let evidence (children : List Node) :=
      (ancestorHitsAt types resolver { decl with children }).map (·.evidence)
    let plain := evidence (before ++ base :: after)
    let generic := evidence (before ++ withTypeArguments args base :: after)
    (∀ t, t ∈ generic ↔ ancestorNamed? types (writtenName base) = some t ∨
      ∃ a, Ancestor resolver { decl with children := before ++ after } a ∧
        ancestorNamed? types a = some t) ∧
    (∀ t, t ∈ plain ↔ t ∈ generic ∨
      ∃ a, Relation.TransGen (Extends resolver) (writtenName base) a ∧
        ancestorNamed? types a = some t) ∧
    ((∀ a, ¬Extends resolver (writtenName base) a) → ∀ t, t ∈ plain ↔ t ∈ generic) := by
  intro resolver evidence plain generic
  have hgeneric (t : String) : t ∈ generic ↔ _ :=
    mem_evidence_withTypeArguments_iff hkind hplain hbare hfew
  have hboth (t : String) : t ∈ plain ↔ t ∈ generic ∨
      ∃ a, Relation.TransGen (Extends resolver) (writtenName base) a ∧
        ancestorNamed? types a = some t :=
    (mem_evidence_plain_iff hkind hfew.le).trans (or_congr_left (hgeneric t).symm)
  refine ⟨hgeneric, hboth, fun hunknown t => (hboth t).trans (or_iff_left ?_)⟩
  rintro ⟨a, ha, -⟩
  obtain ⟨b, hb, -⟩ := Relation.TransGen.head'_iff.mp ha
  exact hunknown b hb

/-- A class without what it extends. -/
def worker : Node where
  kind := .classDecl
  text := some "Worker"
  line := 10

/-- A base type of the class. -/
def workerBase : Node where
  kind := .baseType
  text := some "WorkerBase"
  line := 10

/-- What is known: the base type is a service. -/
def workerTables : SymbolTables where
  bases := .ofList [("WorkerBase", "System.ServiceProcess.ServiceBase")]

theorem type_arguments_evidence_worker :
    workerBase.kind = .baseType ∧ '<' ∉ workerBase.label.toList ∧ Bare workerTables ∧
      {a | Ancestor (some workerTables.resolver) { worker with children := [workerBase] }
        a}.encard < 256 ∧
      ∀ t,
        t ∈ (ancestorHitsAt ["WorkerBase", "System.ServiceProcess.ServiceBase"]
          (some workerTables.resolver)
          { worker with children := [withTypeArguments "Job" workerBase] }).map (·.evidence) ↔
        ancestorNamed? ["WorkerBase", "System.ServiceProcess.ServiceBase"] "WorkerBase" = some t ∨
          ∃ a, Ancestor (some workerTables.resolver) { worker with children := [] } a ∧
            ancestorNamed? ["WorkerBase", "System.ServiceProcess.ServiceBase"] a = some t := by
  have hplain : '<' ∉ workerBase.label.toList := by decide +kernel
  have hbare : Bare workerTables := ⟨by decide +kernel, by decide +kernel⟩
  have hfew : {a | Ancestor (some workerTables.resolver)
      { worker with children := [workerBase] } a}.encard < 256 := by
    refine lt_of_le_of_lt
      (encard_ancestors_le ["WorkerBase", "System.ServiceProcess.ServiceBase"] ?_ ?_) ?_
    · decide +kernel
    · decide +kernel
    · exact_mod_cast (by decide : 2 < 256)
  exact ⟨rfl, hplain, hbare, hfew,
    (type_arguments_evidence ["WorkerBase", "System.ServiceProcess.ServiceBase"] workerTables worker
      workerBase [] [] "Job" rfl hplain hbare hfew).1⟩

/-- **Type arguments can hide an ancestor**: with them the class is no longer reported as a
service, although no name that is known has type arguments. -/
theorem type_arguments_hide_ancestor :
    (¬∀ (types : List String) (tables : SymbolTables) (decl base : Node)
        (before after : List Node) (args : String),
      declaresType decl.kind = true → base.kind = .baseType → '<' ∉ base.label.toList →
      (∀ e ∈ tables.bases.entries, '<' ∉ e.1.toList ∧ '<' ∉ e.2.toList) →
      (∀ e ∈ tables.interfaces.entries, '<' ∉ e.1.toList ∧ ∀ i ∈ e.2, '<' ∉ i.toList) →
      ∀ t,
        t ∈ (ancestorHitsAt types (some tables.resolver)
          { decl with children := before ++ base :: after }).map (·.evidence) ↔
        t ∈ (ancestorHitsAt types (some tables.resolver)
          { decl with children := before ++ withTypeArguments args base :: after }).map
            (·.evidence)) ∧
    ancestorHitsAt ["System.ServiceProcess.ServiceBase"] (some workerTables.resolver)
      { worker with children := [workerBase] } =
        [{ line := 10, subject := "Worker", evidence := "System.ServiceProcess.ServiceBase" }] ∧
    ancestorHitsAt ["System.ServiceProcess.ServiceBase"] (some workerTables.resolver)
      { worker with children := [withTypeArguments "Job" workerBase] } = [] := by
  have hplain : ancestorHitsAt ["System.ServiceProcess.ServiceBase"] (some workerTables.resolver)
      { worker with children := [workerBase] } =
        [{ line := 10, subject := "Worker", evidence := "System.ServiceProcess.ServiceBase" }] := by
    decide +kernel
  have hgeneric : ancestorHitsAt ["System.ServiceProcess.ServiceBase"]
      (some workerTables.resolver)
      { worker with children := [withTypeArguments "Job" workerBase] } = [] := by
    decide +kernel
  refine ⟨fun hall => ?_, hplain, hgeneric⟩
  have hsame := hall ["System.ServiceProcess.ServiceBase"] workerTables worker workerBase [] [] "Job"
    rfl rfl (by decide +kernel) (by decide +kernel) (by decide +kernel)
    "System.ServiceProcess.ServiceBase"
  rw [List.nil_append, List.nil_append, hplain, hgeneric] at hsame
  simp at hsame

end PlatformAudit.Detect
