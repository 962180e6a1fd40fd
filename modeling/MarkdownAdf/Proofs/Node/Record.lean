import MarkdownAdf.Node.Record
import MarkdownAdf.Proofs.Value.Same

/-!
# Records tell nodes apart

A record leaves out the fields that are empty, each on a condition of its own. Still nothing is
lost: records are the same exactly if the nodes, marks or documents are.
-/

namespace MarkdownAdf

namespace Value

/-! ### Fields in canonical form -/

/-- A field that is left out when it has the value that stands for nothing. -/
def fieldUnless (nothing : Value) (name : String) (v : Value) : List (Value × Value) :=
  if v = nothing then [] else [(.str name, v)]

theorem mem_fieldUnless {nothing v w : Value} {name : String} :
    (.str name, w) ∈ fieldUnless nothing name v ↔ w = v ∧ v ≠ nothing := by
  rw [fieldUnless]
  split <;> simp_all

theorem not_mem_fieldUnless {nothing v w : Value} {name other : String} (h : other ≠ name) :
    (.str other, w) ∉ fieldUnless nothing name v := by
  rw [fieldUnless]
  split <;> simp [h]

/-- What is left out is known as well. -/
theorem eq_of_mem_fieldUnless (nothing : Value) {v w : Value}
    (h : ∀ x, x = v ∧ v ≠ nothing ↔ x = w ∧ w ≠ nothing) : v = w := by
  by_cases hv : v = nothing
  · by_cases hw : w = nothing
    · rw [hv, hw]
    · exact absurd hv ((h w).mpr ⟨rfl, hw⟩).2
  · exact ((h v).mp ⟨rfl, hv⟩).1

theorem canonicalEntries_fieldUnlessEmpty {α : Type} {xs : List α} {v : Value}
    (nothing : Value) (name : String) (h : v.canonical = nothing ↔ xs = []) :
    canonicalEntries (fieldUnlessEmpty name xs v) = fieldUnless nothing name v.canonical := by
  rw [fieldUnless]
  cases xs with
  | nil => rw [if_pos (h.mpr rfl)]; rfl
  | cons x xs => rw [if_neg (mt h.mp (List.cons_ne_nil x xs))]; rfl

theorem canonical_list (items : List Value) :
    (Value.list items).canonical = .list (items.map canonical) := by
  rw [canonical, canonicalItems_eq_map]

end Value

open Value (fieldUnless sortEntries)

/-! ### Marks -/

/-- The entries of the record of a mark, in canonical form and before they are sorted. -/
def Mark.entries (m : Mark) : List (Value × Value) :=
  (.str "type", .str m.type) :: fieldUnless (.map []) "attrs" m.attrs.toValue.canonical

theorem Mark.canonical_record (m : Mark) : m.record.canonical = .map (sortEntries m.entries) := by
  rw [record, Value.canonical, Value.canonicalEntries, entries,
    Value.canonicalEntries_fieldUnlessEmpty (.map []) "attrs" Attributes.canonical_toValue_eq_iff]
  rfl

theorem Mark.canonical_record_eq_iff {a b : Mark} :
    a.record.canonical = b.record.canonical ↔ a.same b = true := by
  rw [canonical_record, canonical_record, Value.map.injEq, same, Bool.and_eq_true, beq_iff_eq,
    Attributes.same, Value.same_iff]
  constructor
  · intro h
    have hmem (e : Value × Value) : e ∈ a.entries ↔ e ∈ b.entries :=
      (Value.perm_of_sortEntries_eq h).mem_iff
    simp only [entries, List.mem_cons] at hmem
    constructor
    · have htype := hmem (.str "type", .str a.type)
      simpa [Value.not_mem_fieldUnless] using htype
    · refine Value.eq_of_mem_fieldUnless (.map []) fun v => ?_
      have hattrs := hmem (.str "attrs", v)
      simpa [Value.mem_fieldUnless] using hattrs
  · rintro ⟨htype, hattrs⟩
    rw [entries, entries, htype, hattrs]

/-! ### Nodes -/

namespace Node

theorem records_eq_map (ns : List Node) : records ns = ns.map record := by
  induction ns with
  | nil => rfl
  | cons n ns ih => rw [records, ih, List.map_cons]

/-- The canonical records of the children of a node. -/
def childRecords (ns : List Node) : List Value := ns.map fun n => n.record.canonical

theorem canonical_list_records (ns : List Node) :
    (Value.list (records ns)).canonical = .list (childRecords ns) := by
  rw [Value.canonical_list, records_eq_map, List.map_map]
  rfl

/-- The canonical records of the marks of a node. -/
def markRecords (ms : List Mark) : List Value := ms.map fun m => m.record.canonical

/-- The entries of the record of a node, in canonical form and before they are sorted. -/
def entries (n : Node) : List (Value × Value) :=
  (.str "type", .str n.type) ::
    ((n.text.toList.map fun s => (.str "text", .str s)) ++
    fieldUnless (.map []) "attrs" n.attrs.toValue.canonical ++
    fieldUnless (.list []) "marks" (.list (markRecords n.marks)) ++
    fieldUnless (.list []) "content" (.list (childRecords n.content)))

theorem canonical_record (n : Node) : n.record.canonical = .map (sortEntries n.entries) := by
  obtain ⟨type, content, text, attrs, marks⟩ := n
  have hmarks : (Value.list (marks.map Mark.record)).canonical = .list (markRecords marks) := by
    rw [Value.canonical_list, List.map_map]
    rfl
  have hcontent := canonical_list_records content
  rw [record.eq_def]
  dsimp only
  rw [Value.canonical, Value.canonicalEntries, Value.canonicalEntries_append,
    Value.canonicalEntries_append, Value.canonicalEntries_append,
    Value.canonicalEntries_fieldUnlessEmpty (.map []) "attrs" Attributes.canonical_toValue_eq_iff,
    Value.canonicalEntries_fieldUnlessEmpty (.list []) "marks"
      (by simp [hmarks, markRecords]),
    Value.canonicalEntries_fieldUnlessEmpty (.list []) "content"
      (by simp [hcontent, childRecords]),
    hmarks, hcontent]
  cases text with
  | none => rfl
  | some s => rfl

/-- Records are the same when all fields are, and in no other case: no field that is left out can
be taken for another value of it. -/
theorem canonical_record_eq_iff {a b : Node} :
    a.record.canonical = b.record.canonical ↔
      a.type = b.type ∧ a.text = b.text ∧ a.attrs.toValue.canonical = b.attrs.toValue.canonical ∧
        markRecords a.marks = markRecords b.marks ∧
        childRecords a.content = childRecords b.content := by
  rw [canonical_record, canonical_record, Value.map.injEq]
  constructor
  · intro h
    have hmem (e : Value × Value) : e ∈ a.entries ↔ e ∈ b.entries :=
      (Value.perm_of_sortEntries_eq h).mem_iff
    simp only [entries, List.mem_cons, List.mem_append, List.mem_map, Option.mem_toList] at hmem
    refine ⟨?_, ?_, ?_, ?_, ?_⟩
    · have htype := hmem (.str "type", .str a.type)
      simpa [Value.not_mem_fieldUnless] using htype
    · refine Option.ext fun s => ?_
      have htext := hmem (.str "text", .str s)
      simpa [Value.not_mem_fieldUnless] using htext
    · refine Value.eq_of_mem_fieldUnless (.map []) fun v => ?_
      have hattrs := hmem (.str "attrs", v)
      simpa [Value.mem_fieldUnless, Value.not_mem_fieldUnless] using hattrs
    · refine Value.list.inj (Value.eq_of_mem_fieldUnless (.list []) fun v => ?_)
      have hmarks := hmem (.str "marks", v)
      simpa [Value.mem_fieldUnless, Value.not_mem_fieldUnless] using hmarks
    · refine Value.list.inj (Value.eq_of_mem_fieldUnless (.list []) fun v => ?_)
      have hcontent := hmem (.str "content", v)
      simpa [Value.mem_fieldUnless, Value.not_mem_fieldUnless] using hcontent
  · rintro ⟨htype, htext, hattrs, hmarks, hcontent⟩
    rw [entries, entries, htype, htext, hattrs, hmarks, hcontent]

theorem markRecords_eq_iff {as bs : List Mark} :
    markRecords as = markRecords bs ↔ Mark.sameAll as bs = true := by
  induction as generalizing bs with
  | nil => cases bs <;> simp [markRecords, Mark.sameAll]
  | cons a as ih =>
      cases bs with
      | nil => simp [markRecords, Mark.sameAll]
      | cons b bs =>
          rw [Mark.sameAll, Bool.and_eq_true, ← ih, ← Mark.canonical_record_eq_iff]
          simp [markRecords]

mutual

theorem canonical_record_eq_iff_same :
    ∀ a b : Node, a.record.canonical = b.record.canonical ↔ a.same b = true
  | ⟨type, content, text, attrs, marks⟩, ⟨type', content', text', attrs', marks'⟩ => by
    rw [canonical_record_eq_iff, same, markRecords_eq_iff, childRecords_eq_iff content content',
      ← Value.same_iff, ← Attributes.same]
    simp only [Bool.and_eq_true, beq_iff_eq, and_assoc]

theorem childRecords_eq_iff :
    ∀ as bs : List Node, childRecords as = childRecords bs ↔ sameAll as bs = true
  | [], bs => by cases bs <;> simp [childRecords, sameAll]
  | a :: as, [] => by simp [childRecords, sameAll]
  | a :: as, b :: bs => by
    rw [sameAll, Bool.and_eq_true, ← canonical_record_eq_iff_same a b,
      ← childRecords_eq_iff as bs]
    simp [childRecords]

end

end Node

/-! ### Documents -/

theorem Document.canonical_record (d : Document) :
    d.record.canonical = .map (sortEntries [(.str "type", .str "doc"),
      (.str "version", .int d.version),
      (.str "content", .list (Node.childRecords d.content))]) := by
  rw [record, Value.canonical, Value.canonicalEntries_eq_map]
  simp only [List.map_cons, List.map_nil, Node.canonical_list_records]
  rfl

theorem Document.canonical_record_eq_iff {a b : Document} :
    a.record.canonical = b.record.canonical ↔ a.same b = true := by
  rw [canonical_record, canonical_record, Value.map.injEq, same, Bool.and_eq_true, beq_iff_eq,
    ← Node.childRecords_eq_iff]
  constructor
  · intro h
    have hmem (e : Value × Value) := (Value.perm_of_sortEntries_eq h).mem_iff (a := e)
    constructor
    · simpa using hmem (.str "version", .int a.version)
    · simpa using hmem (.str "content", .list (Node.childRecords a.content))
  · rintro ⟨hversion, hcontent⟩
    rw [hversion, hcontent]

/-- Two marks, nodes or documents are the same exactly if their records are: what a record leaves
out is told from every other value of the field. -/
theorem same_record :
    (∀ a b : Mark, a.record.same b.record = a.same b) ∧
      (∀ a b : Node, a.record.same b.record = a.same b) ∧
      ∀ a b : Document, a.record.same b.record = a.same b := by
  refine ⟨fun a b => ?_, fun a b => ?_, fun a b => ?_⟩
  · rw [Bool.eq_iff_iff, Value.same_iff, Mark.canonical_record_eq_iff]
  · rw [Bool.eq_iff_iff, Value.same_iff, Node.canonical_record_eq_iff_same]
  · rw [Bool.eq_iff_iff, Value.same_iff, Document.canonical_record_eq_iff]

end MarkdownAdf
