import PlatformAudit.Document.Code
import PlatformAudit.Proofs.Code.Place
import PlatformAudit.Proofs.Json.Record

/-!
# Documents of source code

A workspace that is written as a document and read again is the same workspace, unless
one of its trees is too deep for any document
(`PlatformAudit.Code.workspace_document_readBack`). Two things make this true. What is
left out of a document is what its reader puts in its place: a node without children has
no field for them, and a node without that field has no children. And the levels of a
document are those of its trees, since a tree takes two for each of its own
(`PlatformAudit.Code.Node.levels_encode`) and everything else in a workspace needs fewer
than the limit by far.

The limit on nesting bounds the reader of trees twice: by the room it is given, and by
the number of calls that it makes at most. The room always runs out first
(`PlatformAudit.Code.Node.reads_encode`).
-/

namespace PlatformAudit.Code

open Json

/-! ### Trees -/

theorem Kind.named?_name (kind : Kind) : Decoder.named? known kind.name = some kind := by
  cases kind <;> rfl

theorem Kind.reads_encode (kind : Kind) (room : Nat) : decoder.Reads room kind.encode kind := by
  rw [decoder, encode]
  exact Decoder.variant_reads room _ kind.named?_name

namespace Node

mutual

/-- The number of levels below the root of a tree. -/
def depth : Node → Nat
  | ⟨_, _, _, _, children⟩ => depthBelow children

/-- The number of levels that some trees have below a common parent. -/
def depthBelow : List Node → Nat
  | [] => 0
  | n :: ns => max (n.depth + 1) (depthBelow ns)

end

theorem encodeAll_eq (ns : List Node) : encodeAll ns = ns.map encode := by
  induction ns with
  | nil => rfl
  | cons n ns ih => rw [encodeAll, ih, List.map_cons]

/-- Trees that are children take two levels for each of their own, the array of them included. -/
theorem levels_list_encode {ns : List Node} (hne : ns ≠ [])
    (h : ∀ n ∈ ns, n.encode.levels = 2 * n.depth + 1) :
    (Value.list (ns.map encode)).levels = 2 * depthBelow ns := by
  have hitems : itemsLevels (ns.map encode) + 1 = 2 * depthBelow ns := by
    induction ns with
    | nil => exact absurd rfl hne
    | cons n ns ih =>
      obtain ⟨hn, hns⟩ := List.forall_mem_cons.mp h
      rw [List.map_cons, itemsLevels, depthBelow, hn]
      cases ns with
      | nil =>
        rw [List.map_nil, itemsLevels, depthBelow]
        omega
      | cons m ns =>
        have htail := ih (List.cons_ne_nil m ns) hns
        omega
  exact hitems

/-- **A tree takes two levels of its document for each of its own**, and one for its root. -/
theorem levels_encode (n : Node) : n.encode.levels = 2 * n.depth + 1 := by
  induction n using induction_on_children with
  | h n ih =>
    obtain ⟨kind, id, text, line, children⟩ := n
    rw [encode, depth, encodeAll_eq]
    cases children with
    | nil => cases id <;> cases text <;> rfl
    | cons c cs =>
      have hchildren := levels_list_encode (List.cons_ne_nil c cs) ih
      obtain ⟨v, hv⟩ : ∃ v, Value.list ((c :: cs).map encode) = v := ⟨_, rfl⟩
      rw [hv] at hchildren ⊢
      cases id <;> cases text <;>
        simp [Value.record, Value.levels, fieldsLevels, hchildren, Value.fieldIf, Kind.encode]

theorem nodup_names (child : Decoder Node) : (record child).names.Nodup := by
  change ["children", "line", "text", "id", "kind"].Nodup
  decide

/-- A node is read if its children are. -/
theorem reads_of_children {child : Decoder Node} (room : Nat) {n : Node}
    (h : ∀ c ∈ n.children, child.Reads (room - 1 - 1) c.encode c) :
    ((record child).decoder "SyntaxNode").Reads room n.encode n := by
  obtain ⟨kind, id, text, line, children⟩ := n
  have hlist := Decoder.list_reads (room - 1) children h
  have hfields := (Record.Reads.build Node.mk).required "kind" (kind.reads_encode (room - 1))
    |>.fieldIf "id" id (Decoder.word32_reads _) (fun i => Value.nat_ne_null i.toNat)
    |>.fieldIf "text" text (Decoder.text_reads _) Value.text_ne_null
    |>.withDefault "line" 1 (Decoder.word32_reads _ line)
  rw [encode, encodeAll_eq]
  cases children with
  | nil =>
    rw [List.isEmpty_nil, if_pos rfl, List.append_nil]
    exact (hfields.unlessDefault "children" child.list []).decoder _ (nodup_names child)
  | cons c cs => exact (hfields.withDefault "children" [] hlist).decoder _ (nodup_names child)

/-- **A tree is read**, as long as there is no more room than the decoder has levels for. -/
theorem reads_encode (n : Node) {limit room : Nat} (h : room ≤ 2 * limit) :
    (decoderWithin limit).Reads room n.encode n := by
  induction n using induction_on_children generalizing limit room with
  | h n ih =>
    cases limit with
    | zero =>
      have hn : ((record (decoderWithin 0)).decoder "SyntaxNode").Reads room n.encode n :=
        reads_of_children room fun c hc => ih c hc (by omega)
      obtain rfl : room = 0 := by omega
      refine ⟨hn.written, ?_⟩
      rw [levels_encode]
      rfl
    | succ limit =>
      exact reads_of_children room fun c hc => ih c hc (by omega)

end Node

/-! ### The parts of a unit -/

theorem Directive.reads_encode (room : Nat) (d : Directive) :
    Directive.decoder.Reads room d.encode d :=
  (Record.Reads.build Directive.mk).required "line" (Decoder.word32_reads (room - 1) d.line)
    |>.required "text" (Decoder.text_reads _ d.text)
    |>.decoder "Directive" (by decide)

theorem Symbol.reads_encode (room : Nat) (s : Symbol) : Symbol.decoder.Reads room s.encode s :=
  (Record.Reads.build Symbol.mk).required "declared_type"
      (Decoder.text_reads (room - 1) s.declaredType)
    |>.required "containing_namespace" (Decoder.text_reads _ s.containingNamespace)
    |>.decoder "SymbolInfo" (by decide)

theorem SymbolTables.reads_encode (room : Nat) (t : SymbolTables) :
    SymbolTables.decoder.Reads room t.encode t := by
  have hnodes := Decoder.table_reads (room - 1) t.nodes Key.word32_ofString
    fun _ s _ => s.reads_encode _
  have hbases := Decoder.table_reads (room - 1) t.bases Literal.text_ofString
    fun _ base _ => Decoder.text_reads _ base
  have hinterfaces := Decoder.table_reads (room - 1) t.interfaces Literal.text_ofString
    fun _ names _ => Decoder.list_reads _ names fun name _ => Decoder.text_reads _ name
  exact (Record.Reads.build SymbolTables.mk).withDefault "nodes" .empty hnodes
    |>.withDefault "bases" .empty hbases
    |>.withDefault "interfaces" .empty hinterfaces
    |>.decoder "MapResolver" (by decide)

/-! ### Workspaces -/

theorem Package.reads_encode (room : Nat) (p : Package) : Package.decoder.Reads room p.encode p :=
  (Record.Reads.build Package.mk).required "name" (Decoder.text_reads (room - 1) p.name)
    |>.optional "version" p.version (Decoder.text_reads _) Value.text_ne_null
    |>.required "declared_in" (Decoder.text_reads _ p.declaredIn)
    |>.withDefault "line" 1 (Decoder.word32_reads _ p.line)
    |>.decoder "PackageReference" (by decide)

theorem StoredUnit.reads_encode {room : Nat} (h : room ≤ nestingLimit) (u : StoredUnit) :
    StoredUnit.decoder.Reads room u.encode u := by
  have hroot : Node.decoder.Reads (room - 1) u.root.encode u.root :=
    u.root.reads_encode (by omega)
  have hdirectives := Decoder.list_reads (room - 1) u.directives
    fun d _ => d.reads_encode _
  exact (Record.Reads.build StoredUnit.mk).required "path" (Decoder.text_reads _ u.path)
    |>.required "root" hroot
    |>.withDefault "directives" [] hdirectives
    |>.fieldIf "symbols" u.symbols (SymbolTables.reads_encode _)
      (fun _ => Value.record_ne_null _)
    |>.fieldIf "unreadable" u.unreadable (Decoder.text_reads _) Value.text_ne_null
    |>.decoder "MemoryUnit" (by decide)

theorem Workspace.reads_encode (w : Workspace) :
    Workspace.decoder.Reads nestingLimit w.encode w := by
  have hunits := Decoder.list_reads (nestingLimit - 1) w.units
    fun u _ => u.reads_encode (by decide)
  have hpackages := Decoder.list_reads (nestingLimit - 1) w.packages
    fun p _ => p.reads_encode _
  exact (Record.Reads.build Workspace.mk).required "source_id" (Decoder.text_reads _ w.sourceId)
    |>.withDefault "units" [] hunits
    |>.withDefault "packages" [] hpackages
    |>.fieldIf "unavailable" w.unavailable (Decoder.text_reads _) Value.text_ne_null
    |>.decoder "InMemorySourceModel" (by decide)

/-! ### Where the trees stand -/

theorem Directive.levels_encode_le (d : Directive) : d.encode.levels ≤ 1 :=
  Value.levels_record_le_iff.mpr (by simp)

theorem Symbol.levels_encode_le (s : Symbol) : s.encode.levels ≤ 1 :=
  Value.levels_record_le_iff.mpr (by simp)

theorem Package.levels_encode_le (p : Package) : p.encode.levels ≤ 1 := by
  refine Value.levels_record_le_iff.mpr ?_
  cases p.version <;> simp [Value.optional, Value.levels]

theorem SymbolTables.levels_encode_le (t : SymbolTables) : t.encode.levels ≤ 3 := by
  have hnodes (key : UInt32 → String) : (Value.table key Symbol.encode t.nodes).levels ≤ 2 :=
    Value.levels_table_le_iff.mpr fun e _ => e.2.levels_encode_le
  have hbases : (Value.table id Value.text t.bases).levels ≤ 2 :=
    Value.levels_table_le_iff.mpr fun e _ => Nat.zero_le 1
  have hinterfaces :
      (Value.table id (fun names => .list (names.map .text)) t.interfaces).levels ≤ 2 :=
    Value.levels_table_le_iff.mpr fun e _ =>
      Value.levels_list_map_le (fun name => Nat.le_of_eq (Value.levels_text name)) e.2
  refine Value.levels_record_le_iff.mpr ?_
  simp only [List.forall_mem_cons]
  exact ⟨hnodes _, hbases, hinterfaces, List.forall_mem_nil _⟩

/-- Nothing of a unit but its tree is nested deeper than its symbol tables. -/
theorem StoredUnit.levels_encode_le_iff (u : StoredUnit) (n : Nat) :
    u.encode.levels ≤ n + 4 ↔ u.root.encode.levels ≤ n + 3 := by
  have hdirectives : (Value.list (u.directives.map (·.encode))).levels ≤ n + 3 :=
    Nat.le_trans (Value.levels_list_map_le Directive.levels_encode_le u.directives) (by omega)
  have hsymbols : ∀ t ∈ u.symbols, t.encode.levels ≤ n + 3 :=
    fun t _ => Nat.le_trans t.levels_encode_le (by omega)
  rw [StoredUnit.encode, Value.levels_record_le_iff]
  simp only [List.forall_mem_append, List.forall_mem_cons, Value.levels_fieldIf_le_iff,
    Value.levels_text, Nat.zero_le, true_and, hdirectives, List.not_mem_nil, false_implies,
    implies_true, and_true]
  exact and_iff_left hsymbols

theorem Workspace.levels_encode_le_iff (w : Workspace) (n : Nat) :
    w.encode.levels ≤ n + 6 ↔ ∀ u ∈ w.units, u.root.encode.levels ≤ n + 3 := by
  have hpackages : (Value.list (w.packages.map (·.encode))).levels ≤ n + 5 :=
    Nat.le_trans (Value.levels_list_map_le Package.levels_encode_le w.packages) (by omega)
  have hunits : (Value.list (w.units.map (·.encode))).levels ≤ n + 5 ↔
      ∀ u ∈ w.units, u.root.encode.levels ≤ n + 3 := by
    rw [Value.levels_list_le_iff, List.forall_mem_map]
    exact forall₂_congr fun u _ => u.levels_encode_le_iff n
  rw [Workspace.encode, Value.levels_record_le_iff]
  simp only [List.forall_mem_append, List.forall_mem_cons, Value.levels_fieldIf_le_iff,
    Value.levels_text, Nat.zero_le, true_and, hpackages, hunits, List.not_mem_nil,
    false_implies, implies_true, and_true]

/-- **A workspace is read back from its document** if its trees are not too deep, and otherwise
the document is malformed: with the workspace, the list of units and the unit around it, a tree
of depth 61 takes the last level but one. -/
theorem workspace_document_readBack (w : Workspace) :
    (Document.read w.encode.toText).decode Workspace.decoder =
      if ∀ u ∈ w.units, u.root.depth ≤ 61 then .ok w else malformed := by
  have hlevels : w.encode.levels ≤ nestingLimit ↔ ∀ u ∈ w.units, u.root.depth ≤ 61 := by
    refine (w.levels_encode_le_iff 121).trans (forall₂_congr fun u _ => ?_)
    rw [Node.levels_encode]
    omega
  rw [w.reads_encode.decode_toText]
  simp only [within, hlevels]

end PlatformAudit.Code
